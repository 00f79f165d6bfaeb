/-
**A sprite is removed as often as fades of it come to their end.**

A fade that ends is reported as the removal of its sprite, whether or not the sprite was removed before.
So as many removals of a sprite are reported as fades of its character have come to their end, which are
at most as many as the story gives the character. A character with a single fade is removed once.

* `Player.Counts`: what holds of the fades of the scene in play;
* `Player.counts_beforeMotions`: it holds in the middle of a frame too;
* `Player.Ready`, `Player.bounded_frame`: then the motions move, and only fades of characters end;
* `Player.removed_per_fade`: it holds after every run.

A character with two fades may be removed twice (`Player.removed_twice`).
-/

import Storybook.Proofs.Fading.Scenes
import Storybook.Proofs.Loading

namespace Storybook

/-! ### Casts of a story -/

/-- **The cast of a scene in play is one of the story.** -/
theorem lasts_features (document : Story.Document) (options : SceneOptions) :
    Lasts document options fun cast _ => ∀ character ∈ cast, document.Features character.spec where
  abides _ features := features
  pictures _ _ features := features
  changes _ _ features := Story.Document.features_middle features rfl
  leaves features := Story.Document.features_middle features rfl
  enters {_ _ character world texture} _ _ features :=
    Story.Document.features_middle features
      (character.arrives_enterStage (document.binder options) texture world).spec
  begins listed _ _ member := document.features_cast listed member
  ends _ _ _ none := nomatch none

namespace Player

variable {lost : Losses} {player next : Player} {document : Story.Document}

/-! ### The count of the scene in play -/

/-- **As many removals are reported as fades have come to their end**, for the sprites of the scene in
play; and none of sprites that are still to come. -/
structure Counts (player : Player) : Prop where
  given : player.world.RemovesGiven
  scene : ∀ scene, player.scene = some scene → scene.Counts player.world

theorem counts_ofResources (document : Story.Document) (resources : Asset.Resources) (audio : Audio)
    (viewport : Viewport) (options : SceneOptions) :
    (ofResources document resources audio viewport options).Counts :=
  ⟨fun _ _ => rfl, nofun⟩

/-- What is done without a motion, and without anything coming onto the stage, is of no account. -/
theorem Counts.congr {world : World} (counts : player.Counts) (quiet : player.world.Quiet world)
    (issued : player.world.stage.issued ≤ world.stage.issued)
    (keys : ∀ sprite ∈ world.stage.keys, sprite ∈ player.world.stage.keys)
    (animator : world.animator = player.world.animator) : { player with world }.Counts where
  given := counts.given.quiet quiet issued
  scene scene current := (counts.scene scene current).congr rfl keys quiet
    fun _ _ => Character.faded_of_animator animator

theorem counts_enterSpec (waits : player.leaveScene.Waits lost) (given : player.world.RemovesGiven)
    (id : String) (spec : Story.Scene) : (player.enterSpec id spec).Counts := by
  obtain ⟨kept, idle⟩ := kept_clearSplash waits
  have cleared : player.leaveScene.clearSplash.world.RemovesGiven :=
    given.quiet player.quiet_clear player.piles_clear.follows.issued
  refine ⟨given.quiet (player.quiet_enterSpec id spec) (player.piles_enterSpec id spec).follows.issued, ?_⟩
  intro scene current
  cases current
  exact Scene.counts_enter id spec _ _ kept idle cleared

theorem counts_enterScene (waits : player.leaveScene.Waits lost) (counts : player.Counts) (id : String) :
    (player.enterScene id).2.Counts :=
  enterScene_cases counts fun spec _ => counts_enterSpec waits counts.given id spec

theorem counts_shutdown (counts : player.Counts) : player.shutdown.Counts := by
  refine ⟨counts.given.quiet player.quiet_clear player.piles_clear.follows.issued, fun scene current => ?_⟩
  cases current.symm.trans player.scene_clear

theorem counts_start (kept : player.Kept .any) (counts : player.Counts) : player.start.2.Counts := by
  have shown : player.showSplash.world.RemovesGiven :=
    counts.given.quiet player.quiet_showSplash player.rises_showSplash.stage.follows.issued
  refine start_cases (fun _ => ?_) (fun loaded _ _ => ?_) fun loaded _ => ?_
  · exact counts.congr (.of_eq rfl) (Nat.le_refl _) (fun _ there => there) rfl
  · have waits := waits_showSplash (kept.waits_of_loaded loaded).1 fun _ _ => trivial
    refine ⟨shown.quiet player.showSplash.quiet_playSplash (Nat.le_refl _), fun scene current => ?_⟩
    cases waits.scene.symm.trans current
  · have waits := waits_skipSplash (waits_showSplash (kept.waits_of_loaded loaded).1 fun _ _ => trivial)
    refine counts_enterScene waits.leave ⟨shown.quiet (.of_eq rfl) (Nat.le_refl _), fun scene current => ?_⟩ _
    cases waits.scene.symm.trans current

/-- What is asked of the scene in play leaves the count right, if it does so for the scene. -/
theorem counts_askScene (kept : player.Kept lost) (counts : player.Counts)
    {change : Scene → World → Bool × Scene × World}
    (quiet : ∀ (scene : Scene) (world : World), world.Quiet (change scene world).2.2)
    (keeps : ∀ (scene : Scene) (world : World), world.stage.Keeps (change scene world).2.2.stage)
    (does : ∀ {scene : Scene}, scene.Kept lost [] player.world → scene.Counts player.world →
      (change scene player.world).2.1.Counts (change scene player.world).2.2) :
    (player.askScene change).2.Counts := by
  unfold askScene
  cases kept with
  | waiting waits plain =>
    rw [waits.scene]
    exact counts
  | playing scene shows active kept =>
    rw [shows.current]
    refine ⟨counts.given.quiet (quiet _ _) (Nat.le_of_eq (keeps _ _).issued.symm), fun next same => ?_⟩
    cases same
    exact does kept (counts.scene scene shows.current)

theorem counts_touch (kept : player.Kept lost) (counts : player.Counts) (id : CharacterId) :
    (player.touch id).2.Counts :=
  counts_askScene kept counts (fun scene world => scene.quiet_touch id world)
    (fun scene world => scene.keeps_touch world id) fun kept right => right.touch kept counts.given id

theorem counts_touchEach (ids : List CharacterId) :
    ∀ {player : Player}, player.Kept lost → player.Counts → (touchEach ids player).2.Counts := by
  induction ids with
  | nil => exact fun _ counts => counts
  | cons id rest ih => exact fun kept counts => ih (kept_touch kept id) (counts_touch kept counts id)

theorem counts_touchNamed (kept : player.Kept lost) (counts : player.Counts) (name : String) :
    (player.touchNamed name).2.Counts := by
  unfold touchNamed
  split
  · exact counts_touchEach _ kept counts
  · exact counts

theorem counts_pointerUpAt (kept : player.Kept lost) (counts : player.Counts) (x y : Single) :
    (player.pointerUpAt x y).2.Counts :=
  counts_askScene kept counts (fun scene world => scene.quiet_pointerUpAt x y world)
    (fun scene world => scene.keeps_pointerUpAt world x y)
    fun kept right => right.pointerUpAt kept counts.given x y

theorem counts_render (counts : player.Counts) (viewport : Viewport) :
    (player.render viewport).2.Counts := by
  refine counts.congr (.of_eq rfl) (player.rises_render viewport).stage.follows.issued ?_ rfl
  dsimp only
  split
  · exact fun _ there => there
  · exact fun _ there => (player.world.stage.keeps_resize viewport).keys ▸ there

theorem counts_destroySprite (counts : player.Counts) (sprite : SpriteId) :
    (player.destroySprite sprite).Counts :=
  counts.congr (.of_eq rfl) (Nat.le_refl _) (fun _ there => (Stage.mem_keys_destroy.mp there).1) rfl

/-! ### Frames -/

variable {first : Scene} {done : List Task}

/-- A task that is done in a frame leaves the count right. -/
theorem Midway.counts_dispatch (midway : player.Midway lost first done) (settled : first.Settled)
    (counts : player.Counts) {task : Task} (fits : first.Fits task) :
    (player.dispatch task).Counts := by
  have given : (player.dispatch task).world.RemovesGiven :=
    counts.given.quiet (midway.quiet_dispatch task) (player.rises_dispatch task).stage.follows.issued
  obtain ⟨loose, scene, shows, midway⟩ := midway
  have right := counts.scene scene shows.current
  refine ⟨given, fun next current => ?_⟩
  cases task with
  | playSound link =>
    unfold Player.dispatch withScene at current ⊢
    dsimp only at current ⊢
    rw [shows.current] at current ⊢
    cases current
    exact right.playSound link
  | startMotion tick motion =>
    cases shows.current.symm.trans current
    exact midway.counts_startMotion settled right fits
  | retrigger id =>
    unfold Player.dispatch withScene at current ⊢
    dsimp only at current ⊢
    rw [shows.current] at current ⊢
    cases current
    exact right.retrigger midway.kept counts.given id

theorem Midway.counts_dispatchEach {tasks : List Task} (midway : player.Midway lost first done)
    (settled : first.Settled) (counts : player.Counts) (fits : ∀ task ∈ tasks, first.Fits task) :
    (tasks.foldl Player.dispatch player).Counts := by
  induction tasks generalizing done player with
  | nil => exact counts
  | cons task rest ih =>
    obtain ⟨head, tail⟩ := List.forall_mem_cons.mp fits
    exact ih (midway.dispatch settled head) (midway.counts_dispatch settled counts head) tail

/-- The end of a playing leaves the count right: the splash is followed by a scene, and within a scene it
is of no account. -/
theorem counts_finish (counts : player.Counts) (playback : PlaybackId)
    (splash : player.splashPlayback = some playback → player.Waits lost) :
    (player.finish playback).Counts := by
  by_cases awaited : player.splashPlayback = some playback
  · have waits := waits_endSplash (splash awaited)
    have ended : player.endSplash.world.RemovesGiven :=
      counts.given.quiet (World.quiet_report _ not_false) (Nat.le_refl _)
    unfold finish
    rw [if_pos awaited]
    refine leaveSplash_cases (fun _ => ?_) fun spec _ => counts_enterSpec waits.leave ended _ spec
    exact ⟨ended.quiet (.of_eq rfl) (Nat.le_refl _), fun scene current => nomatch waits.scene.symm.trans current⟩
  · refine ⟨counts.given.quiet (player.quiet_finish playback) (rises_finish awaited).stage.follows.issued, ?_⟩
    intro next current
    unfold finish withScene at current ⊢
    rw [if_neg awaited] at current ⊢
    cases played : player.scene with
    | none =>
      rw [played] at current
      cases played.symm.trans current
    | some scene =>
      rw [played] at current
      cases current
      exact (counts.scene scene played).finish playback

/-- A player that waits for the end of its splash waits. -/
theorem waits_of_awaited (kept : player.Kept lost) {playback : PlaybackId}
    (awaited : player.splashPlayback = some playback) : player.Waits lost := by
  cases kept with
  | waiting waits plain => exact waits
  | playing scene shows => cases shows.playback.symm.trans awaited

theorem counts_advance (counts : player.Counts) (span : Nat) :
    { player with world := (player.world.advanceClock span).2 }.Counts :=
  counts.congr (.of_eq rfl) (Nat.le_refl _) (fun _ there => there) rfl

theorem counts_takeFinished (counts : player.Counts) :
    { player with world := player.world.takeFinished.2 }.Counts :=
  counts.congr (.of_eq rfl) (Nat.le_refl _) (fun _ there => there) rfl

/-- **When only the motions are still to move**, the count is right. -/
theorem counts_beforeMotions (kept : player.Kept lost) (counts : player.Counts) (span : Nat) :
    (player.beforeMotions span).Counts := by
  cases kept with
  | waiting waits plain =>
    have begun : (player.afterPlaybacks span []).Kept lost ∧ (player.afterPlaybacks span []).Counts := by
      refine ⟨kept_afterPlaybacks waits plain span [], ?_⟩
      unfold afterPlaybacks during
      rw [due_of_waits waits]
      exact counts_takeFinished (counts_advance counts span)
    refine (List.foldlRecOn (motive := fun middle : Player => middle.Kept lost ∧ middle.Counts)
      (player.ended span) finish begun ?_).2
    exact fun middle ⟨kept, counts⟩ playback _ =>
      ⟨kept_finish kept playback, counts_finish counts playback (waits_of_awaited kept)⟩
  | playing scene shows active kept =>
    have begins : (player.during span []).Midway lost scene [] :=
      midway_during shows active kept span fun _ none => nomatch none
    have tasks : (player.during span (player.due span)).Counts :=
      begins.counts_dispatchEach kept.settled (counts_advance counts span) fun _ => kept.fits
    refine (List.foldlRecOn
      (motive := fun middle : Player => middle.Midway lost scene (player.due span) ∧ middle.Counts)
      (player.ended span) finish
      ⟨midway_afterPlaybacks shows active kept span [], counts_takeFinished tasks⟩ ?_).2
    intro middle ⟨midway, counts⟩ playback _
    have silent : middle.splashPlayback = some playback → middle.Waits lost := by
      obtain ⟨_, _, shows, _⟩ := midway
      exact fun awaited => nomatch shows.playback.symm.trans awaited
    exact ⟨midway.finish playback, counts_finish counts playback silent⟩

/-! ### The end of a frame -/

/-- **Only the motions of a frame are still to move**: where no scene is played there are none, and where
one is, only those stray whose sprite is gone. -/
inductive Ready (lost : Losses) (player : Player) : Prop
  | waiting (scene : player.scene = none) (valid : player.world.stage.Valid)
      (still : player.world.animator.entries = [])
  | playing (scene : Scene) (loose : List Loose) (current : player.scene = some scene)
      (kept : scene.Kept lost loose player.world)
      (strays : ∀ handle ∈ loose, ∀ motion, handle.motion = some motion →
        motion.sprite ∉ player.world.stage.keys)

theorem Kept.ready (kept : player.Kept lost) : player.Ready lost := by
  cases kept with
  | waiting waits plain => exact .waiting waits.scene waits.kept.stage waits.kept.held.entries_eq_nil
  | playing scene shows active kept => exact .playing scene [] shows.current kept fun _ none => nomatch none

theorem Midway.ready (midway : player.Midway lost first done) : player.Ready lost := by
  obtain ⟨loose, scene, shows, midway⟩ := midway
  exact .playing scene loose shows.current midway.kept fun handle member motion moves =>
    (midway.gone handle member motion moves).absent

theorem Kept.ready_beforeMotions (kept : player.Kept lost) (span : Nat) :
    (player.beforeMotions span).Ready lost := by
  cases kept with
  | waiting waits plain => exact (kept_afterPlaybacks waits plain span _).ready
  | playing scene shows active kept => exact (midway_afterPlaybacks shows active kept span _).ready

theorem Ready.valid (ready : player.Ready lost) : player.world.stage.Valid := by
  cases ready with
  | waiting scene valid still => exact valid
  | playing scene loose current kept strays => exact kept.kept.stage

theorem counts_tick (ready : player.Ready lost) (counts : player.Counts) (span : Nat) :
    { player with world := player.world.tick span }.Counts where
  given := counts.given.tick ready.valid span
  scene scene current := by
    cases ready with
    | waiting none valid still => cases none.symm.trans current
    | playing other loose shows kept strays =>
      cases shows.symm.trans current
      exact kept.counts_tick strays (counts.scene scene current) span

theorem counts_frame (kept : player.Kept lost) (counts : player.Counts) (span : Nat) :
    (player.frame span).Counts := by
  rw [frame_eq]
  exact counts_tick (kept.ready_beforeMotions span) (counts_beforeMotions kept counts span) span

/-- **Every operation leaves the count right.** -/
theorem counts_perform (kept : player.Kept .any) (counts : player.Counts) (operation : Operation) :
    (player.perform operation).Counts := by
  cases operation with
  | start => exact counts_start kept counts
  | enterScene id => exact counts_enterScene (waits_leaveScene kept) counts id
  | frame span => exact counts_frame kept counts span
  | touch character => exact counts_touch kept counts character
  | touchNamed name => exact counts_touchNamed kept counts name
  | pointerUpAt x y => exact counts_pointerUpAt kept counts x y
  | render viewport => exact counts_render counts viewport
  | destroy sprite => exact counts_destroySprite counts sprite
  | shutdown => exact counts_shutdown counts

/-! ### Removals -/

/-- **Where removals of a sprite are reported**, the sprite is there, and a character of the scene has
it. -/
theorem Ready.owner (ready : player.Ready lost) {span : Nat} {sprite : SpriteId}
    (removed : (player.world.tick span).removals sprite ≠ player.world.removals sprite) :
    ∃ character ∈ player.cast, character.sprite = some sprite ∧ sprite ∈ player.world.stage.keys := by
  have live : sprite ∈ player.world.stage.keys :=
    by_contra fun gone => removed (World.removals_tick_of_gone gone span)
  obtain ⟨entry, ending, fades⟩ : ∃ entry ∈ player.world.ending span, entry.2.fadesAway sprite = true := by
    rw [World.removals_tick live] at removed
    exact List.countP_pos_iff.mp (Nat.pos_of_ne_zero fun none => removed (none ▸ Nat.add_zero _))
  cases ready with
  | waiting scene valid still =>
    obtain ⟨old, registered, _⟩ := Animator.mem_finished ending
    rw [still] at registered
    cases registered
  | playing scene loose current kept strays =>
    obtain ⟨character, member, stands, _⟩ := kept.owner_of_ending strays live ending fades
    unfold Player.cast
    rw [current]
    exact ⟨character, member, stands, live⟩

/-- A sprite of the scene in play that is there was removed at most as often as the story gives fades to
its character. -/
theorem Counts.removals_le (counts : player.Counts) {character : Character} (member : character ∈ player.cast)
    {sprite : SpriteId} (stands : character.sprite = some sprite)
    (live : sprite ∈ player.world.stage.keys) :
    player.world.removals sprite ≤ character.spec.fades := by
  unfold Player.cast at member
  split at member
  · rename_i scene current
    have right := counts.scene scene current
    rw [right.live character member sprite stands live]
    exact (character.faded_le_fades _).trans (right.few character member)
  · cases member

/-- **No sprite is reported to be removed more often** than some character of the story has fades. -/
def Bounded (document : Story.Document) (player : Player) : Prop :=
  ∀ sprite, player.world.removals sprite ≠ 0 → ∃ character, document.Features character ∧
    player.world.removals sprite ≤ character.fades

theorem Bounded.quiet (bounded : player.Bounded document) (quiet : player.world.Quiet next.world) :
    next.Bounded document := by
  intro sprite
  rw [quiet.removals]
  exact bounded sprite

/-- **A frame** reports removals of a sprite only while its character has fades that come to their end. -/
theorem bounded_frame (kept : player.Kept lost) (counts : player.Counts) (bounded : player.Bounded document)
    {span : Nat} (features : ∀ character ∈ (player.frame span).cast, document.Features character.spec) :
    (player.frame span).Bounded document := by
  have before : (player.beforeMotions span).Bounded document :=
    bounded.quiet (player.quiet_beforeMotions kept span)
  have right := counts_frame kept counts span
  rw [frame_eq] at features right ⊢
  intro sprite some
  by_cases same : ((player.beforeMotions span).world.tick span).removals sprite =
      (player.beforeMotions span).world.removals sprite
  · rw [same] at some ⊢
    exact before sprite some
  · obtain ⟨character, member, stands, live⟩ := (kept.ready_beforeMotions span).owner same
    rw [← (World.thins_tick _ span).keys] at live
    exact ⟨character.spec, features character member, right.removals_le member stands live⟩

/-- What holds of the removals after every run. -/
theorem counts_run (document : Story.Document) (resources : Asset.Resources) (audio : Audio)
    (viewport : Viewport) (options : SceneOptions) (operations : List Operation) :
    ((ofResources document resources audio viewport options).run operations).Counts ∧
      ((ofResources document resources audio viewport options).run operations).Bounded document := by
  let loaded := ofResources document resources audio viewport options
  have begun : loaded.Upholds document options fun cast _ =>
      ∀ character ∈ cast, document.Features character.spec := ⟨rfl, rfl, (fun _ none => nomatch none), nofun⟩
  have kept : loaded.Kept .any := kept_ofResources document resources audio viewport options
  have counts : loaded.Counts := counts_ofResources document resources audio viewport options
  have bounded : loaded.Bounded document := fun _ some => absurd rfl some
  refine (List.foldlRecOn (motive := fun middle : Player => (middle.Kept .any ∧
      middle.Upholds document options fun cast _ => ∀ character ∈ cast, document.Features character.spec) ∧
        middle.Counts ∧ middle.Bounded document)
    operations perform ⟨⟨kept, begun⟩, counts, bounded⟩ ?_).2
  intro middle ⟨⟨kept, features⟩, counts, bounded⟩ operation _
  have next := (lasts_features document options).perform features operation
  refine ⟨⟨kept_perform kept (middle.losesOnly_any operation), next⟩, counts_perform kept counts operation, ?_⟩
  by_cases frame : ∃ span, operation = .frame span
  · obtain ⟨span, rfl⟩ := frame
    exact bounded_frame kept counts bounded next.cast
  · exact bounded.quiet (quiet_perform fun span same => frame ⟨span, same⟩)

/-- **A sprite is removed as often as fades of it come to their end.** After every run, as long as the
sprite of a character is there, as many removals of it have been reported as fades of the character have
come to their end; and of no sprite more removals have been reported than some character of the story has
fades. -/
theorem removed_per_fade (document : Story.Document) (resources : Asset.Resources) (audio : Audio)
    (viewport : Viewport) (options : SceneOptions) (operations : List Operation) :
    let player := (ofResources document resources audio viewport options).run operations
    (∀ scene, player.scene = some scene → ∀ character ∈ scene.characters, ∀ sprite,
      character.sprite = some sprite → player.world.stage.isLive sprite →
        player.world.removals sprite = character.faded player.world) ∧
      ∀ sprite, player.world.removals sprite ≠ 0 → ∃ character, document.Features character ∧
        player.world.removals sprite ≤ character.fades := by
  obtain ⟨counts, bounded⟩ := counts_run document resources audio viewport options operations
  refine ⟨fun scene current character member sprite stands live => ?_, bounded⟩
  exact (counts.scene scene current).live character member sprite stands (Stage.isLive_iff.mp live)

/-- In a story that gives no character two fades, **no sprite is removed twice**. -/
theorem removed_once_of_fades_le (document : Story.Document) (resources : Asset.Resources) (audio : Audio)
    (viewport : Viewport) (options : SceneOptions) (operations : List Operation)
    (single : ∀ character, document.Features character → character.fades ≤ 1) (sprite : SpriteId) :
    ((ofResources document resources audio viewport options).run operations).world.removals sprite ≤ 1 := by
  by_cases none : ((ofResources document resources audio viewport options).run operations).world.removals
      sprite = 0
  · exact none ▸ Nat.zero_le 1
  · obtain ⟨character, features, few⟩ :=
      (counts_run document resources audio viewport options operations).2 sprite none
    exact few.trans (single character features)

/-- A story with a cat that fades twice when it is touched. -/
def duskStory : Story.Document where
  style := .standard
  splash := ⟨"s.png", "s.mp3"⟩
  start := "dusk"
  scenes :=
    [("dusk", ⟨"bg.png", [], [⟨"Cat", "cat.png", ⟨10, 20⟩, none,
      [("touch", [.fadeOut 1, .fadeOut 1])]⟩]⟩)]

/-- The cat is touched, and both fades end in the next frame. -/
def dusk : Player :=
  (ofResources duskStory ⟨[("cat.png", .texture ⟨64, 64⟩)]⟩ (.silent 3000000000 []) ⟨800, 600⟩
    .standard).run [.enterScene "dusk", .touch ⟨0⟩, .frame 100000000]

/-- The sprite of the cat is removed twice, as both fades have come to their end, and no more often. -/
theorem removed_twice : ∃ scene cat, dusk.scene = some scene ∧ cat ∈ scene.characters ∧
    cat.faded dusk.world = 2 ∧ dusk.world.removals ⟨1⟩ = cat.faded dusk.world ∧
      ∃ character, duskStory.Features character ∧ dusk.world.removals ⟨1⟩ ≤ character.fades := by
  have current : dusk.scene = some (dusk.scene.get (by decide +kernel)) := (Option.some_get _).symm
  have member := List.head_mem (show (dusk.scene.get (by decide +kernel)).characters ≠ [] by decide +kernel)
  obtain ⟨right, bounded⟩ := removed_per_fade duskStory ⟨[("cat.png", .texture ⟨64, 64⟩)]⟩
    (.silent 3000000000 []) ⟨800, 600⟩ .standard [.enterScene "dusk", .touch ⟨0⟩, .frame 100000000]
  exact ⟨_, _, current, member, by decide +kernel,
    right _ current _ member ⟨1⟩ (by decide +kernel) (by decide +kernel),
    bounded ⟨1⟩ (by decide +kernel)⟩

end Player

end Storybook
