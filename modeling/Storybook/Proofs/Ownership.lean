/-
**Who owns the sprites, and how they lie.**

As long as no sprite is taken away from outside, and no start is made again that has failed, the sprites on
the stage are those of the splash and of the scene in play, and each belongs to one of them. They lie in the
order of their age: the background at the bottom, and a character that has just appeared again on top.

* `Player.sprites`: the sprites that the splash and the scene own;
* `Player.Rises`: what is done within a scene, or without one;
* `Player.piles_perform`, `Player.piles_run`: no operation draws a sprite again;
* `Player.Layered`, `Player.layered_perform`: the sprites lie in the order of their age;
* `Player.top_during`, `Player.top_frame`: a character that appears again comes on top, and stays there;
* `Player.Arranged`, `Player.arranged_run`: all of this, after every such run;
* `Player.disarranged_restart`: a start that is made again leaves a sprite without an owner.
-/

import Storybook.Proofs.Layers
import Storybook.Proofs.Overtaking
import Storybook.Proofs.Restarting

namespace Storybook

namespace Scene

variable (scene : Scene) (world : World)

theorem background_retrigger (id : CharacterId) :
    (scene.retrigger id world).1.background = scene.background := by
  unfold retrigger
  split
  · split <;> rfl
  · rfl

theorem background_playSound (link : Nat) :
    (scene.playSound link world).1.background = scene.background := by
  unfold playSound
  split <;> rfl

theorem background_touch (id : CharacterId) :
    (scene.touch id world).2.1.background = scene.background := by
  unfold touch
  split
  · split <;> rfl
  · rfl

theorem background_pointerUpAt (x y : Single) :
    (scene.pointerUpAt x y world).2.1.background = scene.background := by
  unfold pointerUpAt pointerUp
  split
  · split
    · exact scene.background_touch world _
    · rfl
  · rfl

theorem stage_finish (playback : PlaybackId) :
    (scene.finish playback world).2.2.stage = world.stage :=
  (scene.sounds.sounds_finish playback world).stage

end Scene

namespace Player

variable {lost : Losses} {player first second third : Player} {operations : List Operation}

/-! ### What is done within a scene -/

/-- Between the two states sprites only go, or come on top, and the background stays the same. -/
structure Rises (before after : Player) : Prop where
  stage : before.world.stage.Piles after.world.stage
  ground : after.scene.map Scene.background = before.scene.map Scene.background

theorem Rises.refl (player : Player) : player.Rises player :=
  ⟨.refl _, rfl⟩

theorem Rises.trans (left : first.Rises second) (right : second.Rises third) : first.Rises third :=
  ⟨left.stage.trans right.stage, right.ground.trans left.ground⟩

theorem rises_world (player : Player) {world : World} (piles : player.world.stage.Piles world.stage) :
    player.Rises { player with world } :=
  ⟨piles, rfl⟩

theorem rises_withScene (player : Player) {change : Scene → World → Scene × World}
    (ground : ∀ (scene : Scene) (world : World), (change scene world).1.background = scene.background)
    (piles : ∀ (scene : Scene) (world : World), world.stage.Piles (change scene world).2.stage) :
    player.Rises (player.withScene change) := by
  unfold withScene
  split
  · rename_i scene current
    refine ⟨piles scene player.world, ?_⟩
    rw [current]
    exact congrArg some (ground scene player.world)
  · exact .refl player

theorem rises_askScene (player : Player) {change : Scene → World → Bool × Scene × World}
    (ground : ∀ (scene : Scene) (world : World), (change scene world).2.1.background = scene.background)
    (piles : ∀ (scene : Scene) (world : World), world.stage.Piles (change scene world).2.2.stage) :
    player.Rises (player.askScene change).2 := by
  unfold askScene
  split
  · rename_i scene current
    refine ⟨piles scene player.world, ?_⟩
    rw [current]
    exact congrArg some (ground scene player.world)
  · exact .refl player

theorem rises_touch (player : Player) (id : CharacterId) : player.Rises (player.touch id).2 :=
  player.rises_askScene (fun scene world => scene.background_touch world id)
    fun scene world => (scene.keeps_touch world id).piles

theorem rises_touchEach (ids : List CharacterId) :
    ∀ player : Player, player.Rises (touchEach ids player).2 := by
  induction ids with
  | nil => exact fun player => .refl player
  | cons id rest ih => exact fun player => (player.rises_touch id).trans (ih _)

theorem rises_touchNamed (player : Player) (name : String) :
    player.Rises (player.touchNamed name).2 := by
  unfold touchNamed
  split
  · exact rises_touchEach _ player
  · exact .refl player

theorem rises_pointerUpAt (player : Player) (x y : Single) :
    player.Rises (player.pointerUpAt x y).2 :=
  player.rises_askScene (fun scene world => scene.background_pointerUpAt world x y)
    fun scene world => (scene.keeps_pointerUpAt world x y).piles

theorem rises_render (player : Player) (viewport : Viewport) :
    player.Rises (player.render viewport).2 := by
  refine player.rises_world ?_
  dsimp only
  split
  · exact .refl _
  · exact (player.world.stage.keeps_resize viewport).piles

theorem rises_destroySprite (player : Player) (sprite : SpriteId) :
    player.Rises (player.destroySprite sprite) :=
  player.rises_world (Stage.piles_destroy _ sprite)

theorem rises_dispatch (player : Player) (task : Task) : player.Rises (player.dispatch task) := by
  cases task with
  | playSound link =>
    exact player.rises_withScene (fun scene world => scene.background_playSound world link)
      fun scene world => .of_eq (scene.stage_playSound world link)
  | startMotion tick motion => exact player.rises_world (.refl _)
  | retrigger id =>
    exact player.rises_withScene (fun scene world => scene.background_retrigger world id)
      fun scene world => scene.piles_retrigger world id

theorem rises_finish {playback : PlaybackId} (other : player.splashPlayback ≠ some playback) :
    player.Rises (player.finish playback) := by
  unfold finish
  rw [if_neg other]
  exact player.rises_withScene (fun _ _ => rfl) fun scene world => .of_eq (scene.stage_finish world playback)

theorem rises_during (player : Player) (span : Nat) (done : List Task) :
    player.Rises (player.during span done) :=
  List.foldlRecOn done dispatch (player.rises_world (.refl _)) fun middle rises task _ =>
    rises.trans (middle.rises_dispatch task)

theorem rises_beforePlaybacks (player : Player) (span : Nat) :
    player.Rises (player.afterPlaybacks span []) :=
  (player.rises_during span (player.due span)).trans (rises_world _ (.refl _))

theorem rises_tick (player : Player) (span : Nat) :
    player.Rises { player with world := player.world.tick span } :=
  player.rises_world (player.world.thins_tick span).piles

theorem rises_showSplash (player : Player) : player.Rises player.showSplash := by
  unfold showSplash
  dsimp only
  split
  · exact ⟨player.world.stage.piles_place _ (.refl _), rfl⟩
  · exact .refl player

theorem rises_clearSplash (player : Player) : player.Rises player.clearSplash := by
  unfold clearSplash
  cases player.splashSprite with
  | none => cases player.splashPlayback <;> exact ⟨.refl _, rfl⟩
  | some sprite => cases player.splashPlayback <;> exact ⟨Stage.piles_destroy _ sprite, rfl⟩

/-! ### No sprite is drawn again -/

theorem piles_leaveScene (player : Player) : player.world.stage.Piles player.leaveScene.world.stage := by
  unfold leaveScene
  split
  · exact Scene.piles_teardown _ player.world
  · exact .refl _

theorem piles_clear (player : Player) :
    player.world.stage.Piles player.leaveScene.clearSplash.world.stage :=
  player.piles_leaveScene.trans player.leaveScene.rises_clearSplash.stage

theorem piles_enterSpec (player : Player) (id : String) (spec : Story.Scene) :
    player.world.stage.Piles (player.enterSpec id spec).world.stage :=
  player.piles_clear.trans (Scene.piles_enter (.ofSpec id spec _ _) player.leaveScene.clearSplash.world)

theorem piles_enterScene (player : Player) (id : String) :
    player.world.stage.Piles (player.enterScene id).2.world.stage :=
  enterScene_cases (motive := fun next => player.world.stage.Piles next.world.stage) (.refl _)
    fun spec _ => player.piles_enterSpec id spec

theorem piles_start (player : Player) : player.world.stage.Piles player.start.2.world.stage := by
  have shown := player.rises_showSplash.stage
  exact start_cases (motive := fun next => player.world.stage.Piles next.world.stage) (fun _ => .refl _)
    (fun _ _ _ => shown) fun _ _ => shown.trans (player.skipSplash.piles_enterScene _)

theorem piles_finish (player : Player) (playback : PlaybackId) :
    player.world.stage.Piles (player.finish playback).world.stage := by
  by_cases awaited : player.splashPlayback = some playback
  · unfold finish
    rw [if_pos awaited]
    exact leaveSplash_cases (motive := fun next => player.world.stage.Piles next.world.stage)
      (fun _ => .refl _) fun spec _ => player.endSplash.piles_enterSpec _ spec
  · exact (rises_finish awaited).stage

theorem piles_frame (player : Player) (span : Nat) :
    player.world.stage.Piles (player.frame span).world.stage := by
  have before : player.world.stage.Piles (player.beforeMotions span).world.stage :=
    List.foldlRecOn (motive := fun middle : Player => player.world.stage.Piles middle.world.stage)
      (player.ended span) Player.finish (player.rises_beforePlaybacks span).stage fun middle piles playback _ =>
        piles.trans (middle.piles_finish playback)
  rw [frame_eq]
  exact before.trans (rises_tick _ span).stage

/-- **No operation draws a sprite again** that was drawn before. -/
theorem piles_perform (player : Player) (operation : Operation) :
    player.world.stage.Piles (player.perform operation).world.stage := by
  cases operation with
  | start => exact player.piles_start
  | enterScene id => exact player.piles_enterScene id
  | frame span => exact player.piles_frame span
  | touch character => exact (player.rises_touch character).stage
  | touchNamed name => exact (player.rises_touchNamed name).stage
  | pointerUpAt x y => exact (player.rises_pointerUpAt x y).stage
  | render viewport => exact (player.rises_render viewport).stage
  | destroy sprite => exact (player.rises_destroySprite sprite).stage
  | shutdown => exact player.piles_clear

theorem piles_run (operations : List Operation) (player : Player) :
    player.world.stage.Piles (player.run operations).world.stage :=
  List.foldlRecOn (motive := fun middle : Player => player.world.stage.Piles middle.world.stage)
    operations perform (.refl _) fun middle piles operation _ => piles.trans (middle.piles_perform operation)

/-! ### The order of the sprites -/

theorem Kept.valid (kept : player.Kept lost) : player.world.stage.Valid := by
  cases kept with
  | waiting waits => exact waits.kept.stage
  | playing scene shows active kept => exact kept.kept.stage

/-- The sprites lie in the order of their age, and the background of the scene in play is the oldest. -/
structure Layered (player : Player) : Prop where
  stage : player.world.stage.Layered
  ground : ∀ scene, player.scene = some scene → ∀ sprite, scene.background = some sprite →
    player.world.stage.Grounded sprite

/-- What is done within a scene keeps the order. -/
theorem Layered.rise (layered : first.Layered) (valid : first.world.stage.Valid)
    (rises : first.Rises second) : second.Layered where
  stage := layered.stage.stack valid rises.stage
  ground scene current sprite drawn := by
    have same := rises.ground
    rw [current] at same
    obtain ⟨old, was, ground⟩ := Option.map_eq_some_iff.mp same.symm
    exact (layered.ground old was sprite (ground.trans drawn)).follow rises.stage.follows

theorem layered_ofResources (document : Story.Document) (resources : Asset.Resources) (audio : Audio)
    (viewport : Viewport) (options : SceneOptions) :
    (ofResources document resources audio viewport options).Layered :=
  ⟨Stage.layered_empty viewport, nofun⟩

/-- **A scene is entered on an empty stage**, with its background first. -/
theorem layered_enterSpec (waits : player.leaveScene.Waits .outside) (id : String) (spec : Story.Scene) :
    (player.enterSpec id spec).Layered := by
  have bare := isBare_clear waits fun _ => not_false
  have valid := (kept_clearSplash waits).1.stage
  have none : player.leaveScene.clearSplash.world.stage.keys = [] :=
    List.map_eq_nil_iff.mpr bare.sprites
  have blank : player.leaveScene.clearSplash.world.stage.Layered :=
    ⟨none ▸ .nil, bare.order ▸ .nil⟩
  let new := Scene.ofSpec id spec player.leaveScene.clearSplash.document.style
    player.leaveScene.clearSplash.options
  refine ⟨blank.stack valid (new.piles_enter player.leaveScene.clearSplash.world), ?_⟩
  intro scene current sprite drawn
  have same : (new.enter player.leaveScene.clearSplash.world).1 = scene := Option.some.inj current
  rw [← same] at drawn
  exact new.grounded_enter _ rfl rfl none drawn

theorem layered_enterScene (kept : player.Kept .outside) (layered : player.Layered) (id : String) :
    (player.enterScene id).2.Layered :=
  enterScene_cases layered fun spec _ => layered_enterSpec (waits_leaveScene kept) id spec

theorem layered_shutdown (kept : player.Kept lost) (layered : player.Layered) :
    player.shutdown.Layered := by
  refine ⟨layered.stage.stack kept.valid player.piles_clear, fun scene current => ?_⟩
  cases current.symm.trans player.scene_clear

theorem layered_start (kept : player.Kept .outside) (layered : player.Layered)
    (may : player.LosesOnly .outside .start) : player.start.2.Layered := by
  have shown := layered.rise kept.valid player.rises_showSplash
  refine start_cases (fun _ => ⟨layered.stage, layered.ground⟩) (fun _ _ _ => ⟨shown.stage, shown.ground⟩) ?_
  intro loaded _
  exact layered_enterScene (kept_skipSplash kept loaded (may loaded)) ⟨shown.stage, shown.ground⟩ _

theorem layered_finish (kept : player.Kept .outside) (layered : player.Layered) (playback : PlaybackId) :
    (player.finish playback).Layered := by
  by_cases awaited : player.splashPlayback = some playback
  · cases kept with
    | waiting waits plain =>
      unfold finish
      rw [if_pos awaited]
      exact leaveSplash_cases (fun _ => ⟨layered.stage, layered.ground⟩) fun spec _ =>
        layered_enterSpec (waits_endSplash waits).leave _ spec
    | playing scene shows => cases shows.playback.symm.trans awaited
  · exact layered.rise kept.valid (rises_finish awaited)

/-- Where no splash is waited for, the ends of playings are work within the scene. -/
theorem rises_finishEach (playbacks : List PlaybackId) (silent : player.splashPlayback = none) :
    player.Rises (playbacks.foldl finish player) ∧
      (playbacks.foldl finish player).splashPlayback = none := by
  refine List.foldlRecOn
    (motive := fun middle : Player => player.Rises middle ∧ middle.splashPlayback = none)
    playbacks finish ⟨.refl player, silent⟩ ?_
  rintro middle ⟨rises, silent⟩ playback _
  have other : middle.splashPlayback ≠ some playback := fun awaited => nomatch silent.symm.trans awaited
  exact ⟨rises.trans (rises_finish other), (stays_finish other).playback.trans silent⟩

/-- In a frame of a scene in play, all but the motions is work within the scene. -/
theorem rises_afterPlaybacks {scene : Scene} (shows : player.Shows scene) (span : Nat)
    (playbacks : List PlaybackId) : player.Rises (player.afterPlaybacks span playbacks) :=
  (player.rises_beforePlaybacks span).trans
    (rises_finishEach playbacks ((player.stays_beforePlaybacks span).playback.trans shows.playback)).1

theorem layered_frame (kept : player.Kept .outside) (layered : player.Layered) (span : Nat) :
    (player.frame span).Layered := by
  rw [frame_eq]
  cases kept with
  | waiting waits plain =>
    have both : (player.beforeMotions span).Kept .outside ∧ (player.beforeMotions span).Layered := by
      refine List.foldlRecOn (motive := fun middle : Player => middle.Kept .outside ∧ middle.Layered)
        (player.ended span) finish ⟨kept_afterPlaybacks waits plain span [], ?_⟩ ?_
      · exact layered.rise waits.kept.stage (player.rises_beforePlaybacks span)
      · exact fun middle ⟨kept, layered⟩ playback _ =>
          ⟨kept_finish kept playback, layered_finish kept layered playback⟩
    exact both.2.rise both.1.valid (rises_tick _ span)
  | playing scene shows active kept =>
    exact layered.rise kept.kept.stage ((rises_afterPlaybacks shows span _).trans (rises_tick _ span))

/-- **Every operation keeps the order of the sprites.** -/
theorem layered_perform (kept : player.Kept .outside) (layered : player.Layered) {operation : Operation}
    (only : player.LosesOnly .outside operation) : (player.perform operation).Layered := by
  cases operation with
  | start => exact layered_start kept layered only
  | enterScene id => exact layered_enterScene kept layered id
  | frame span => exact layered_frame kept layered span
  | touch character => exact layered.rise kept.valid (player.rises_touch character)
  | touchNamed name => exact layered.rise kept.valid (player.rises_touchNamed name)
  | pointerUpAt x y => exact layered.rise kept.valid (player.rises_pointerUpAt x y)
  | render viewport => exact layered.rise kept.valid (player.rises_render viewport)
  | destroy sprite => exact layered.rise kept.valid (player.rises_destroySprite sprite)
  | shutdown => exact layered_shutdown kept layered

/-- **Every run keeps it**, in which no start is made again that has failed. -/
theorem layered_run (operations : List Operation) :
    ∀ {player : Player}, player.NeverRestarts operations → player.Kept .outside → player.Layered →
      (player.run operations).Layered := by
  induction operations with
  | nil => exact fun _ _ layered => layered
  | cons operation rest ih =>
    intro player never kept layered
    have only : player.LosesOnly .outside operation :=
      never.losesOnly (fun _ _ => trivial) (List.nil_append (operation :: rest)).symm
    exact ih never.rest (kept_perform kept only) (layered_perform kept layered only)

/-! ### Characters that appear again -/

/-- The sprite of a character that has just appeared again is the topmost one. -/
theorem top_retrigger {scene : Scene} {world : World} (active : scene.state = .active)
    (valid : world.stage.Valid) {id : CharacterId} {character : Character} {sprite : SpriteId}
    (found : (scene.retrigger id world).1.character? id = some character)
    (stands : character.sprite = some sprite) :
    (scene.retrigger id world).2.stage.order.getLast? = some sprite := by
  unfold Scene.retrigger at found ⊢
  rw [if_pos active] at found ⊢
  split at found
  · rename_i old there
    have inside : id.index < scene.characters.length := (List.getElem?_eq_some_iff.mp there).1
    cases (List.getElem?_set_self inside).symm.trans found
    exact old.top_appear world valid scene.binder stands
  · rename_i missing
    cases missing.symm.trans found

variable {span : Nat} {before after : List Task} {id : CharacterId} {scene : Scene}
  {character : Character} {sprite : SpriteId}

/-- **A character that appears again comes on top.** -/
theorem top_during (kept : player.Kept lost) (due : player.due span = before ++ .retrigger id :: after)
    (current : (player.during span (before ++ [.retrigger id])).scene = some scene)
    (found : scene.character? id = some character) (stands : character.sprite = some sprite) :
    (player.during span (before ++ [.retrigger id])).world.stage.order.getLast? = some sprite := by
  cases kept with
  | waiting waits plain =>
    rw [due_of_waits waits] at due
    cases (List.append_eq_nil_iff.mp due.symm).2
  | playing first shows active kept =>
    have fits : ∀ task ∈ before, first.Fits task := by
      intro task member
      have inside : task ∈ player.due span := due ▸ List.mem_append_left _ member
      exact kept.fits inside
    obtain ⟨loose, middle, shown, midway⟩ := midway_during shows active kept span fits
    have next : player.during span (before ++ [.retrigger id]) =
        (player.during span before).dispatch (.retrigger id) := List.foldl_concat ..
    rw [next] at current ⊢
    unfold dispatch withScene at current ⊢
    dsimp only at current ⊢
    rw [shown.current] at current ⊢
    cases current
    exact top_retrigger midway.active midway.kept.kept.stage found stands

theorem stage_withScene (player : Player) {change : Scene → World → Scene × World}
    (same : ∀ (scene : Scene) (world : World), (change scene world).2.stage = world.stage) :
    (player.withScene change).world.stage = player.world.stage := by
  unfold withScene
  split
  · exact same _ player.world
  · rfl

/-- Only characters that appear again bring sprites in a frame. -/
theorem stage_dispatch (player : Player) {task : Task} (other : ∀ id, task ≠ .retrigger id) :
    (player.dispatch task).world.stage = player.world.stage := by
  cases task with
  | playSound link => exact player.stage_withScene fun scene world => scene.stage_playSound world link
  | startMotion tick motion => rfl
  | retrigger id => exact absurd rfl (other id)

theorem stage_dispatchEach (tasks : List Task) (others : ∀ id, .retrigger id ∉ tasks)
    (player : Player) : (tasks.foldl dispatch player).world.stage = player.world.stage :=
  List.foldlRecOn (motive := fun middle : Player => middle.world.stage = player.world.stage) tasks dispatch rfl
    fun middle same _ member =>
      (middle.stage_dispatch fun id is => others id (is ▸ member)).trans same

theorem stage_finishEach (playbacks : List PlaybackId) (silent : player.splashPlayback = none) :
    (playbacks.foldl finish player).world.stage = player.world.stage := by
  refine (List.foldlRecOn (motive := fun middle : Player =>
    middle.world.stage = player.world.stage ∧ middle.splashPlayback = none) playbacks finish
      ⟨rfl, silent⟩ ?_).1
  rintro middle ⟨same, silent⟩ playback _
  have other : middle.splashPlayback ≠ some playback := fun awaited => nomatch silent.symm.trans awaited
  refine ⟨Eq.trans ?_ same, (stays_finish other).playback.trans silent⟩
  unfold finish
  rw [if_neg other]
  exact middle.stage_withScene fun scene world => scene.stage_finish world playback

/-- **It stays on top** until the end of the frame, if no other character appears again after it. It
may fade away at the end of the frame. -/
theorem top_frame (kept : player.Kept lost) (layered : player.Layered)
    (due : player.due span = before ++ .retrigger id :: after)
    (last : ∀ other, .retrigger other ∉ after)
    (current : (player.during span (before ++ [.retrigger id])).scene = some scene)
    (found : scene.character? id = some character) (stands : character.sprite = some sprite)
    (drawn : sprite ∈ (player.frame span).world.stage.order) :
    (player.frame span).world.stage.order.getLast? = some sprite := by
  have top := top_during kept due current found stands
  have silent : player.splashPlayback = none := by
    cases kept with
    | waiting waits plain =>
      rw [due_of_waits waits] at due
      cases (List.append_eq_nil_iff.mp due.symm).2
    | playing first shows => exact shows.playback
  have all : player.during span (player.due span) =
      after.foldl dispatch (player.during span (before ++ [.retrigger id])) := by
    rw [due, List.append_cons]
    exact List.foldl_append
  have still : (player.beforeMotions span).world.stage =
      (player.during span (before ++ [.retrigger id])).world.stage := by
    have ended := stage_finishEach (player.ended span)
      ((player.stays_beforePlaybacks span).playback.trans silent)
    refine ended.trans (?_ : (player.during span (player.due span)).world.stage = _)
    rw [all]
    exact stage_dispatchEach after last _
  rw [frame_eq] at drawn ⊢
  have thins := (player.beforeMotions span).world.thins_tick span
  rw [still] at thins
  have rises := (layered.rise kept.valid (player.rises_during span (before ++ [.retrigger id]))).stage.order
  exact thins.getLast? rises top drawn

/-! ### All of it -/

/-- The sprites that the splash and the scene in play own. -/
def sprites (player : Player) : List SpriteId :=
  player.splashSprite.toList ++ (player.scene.map Scene.sprites).getD []

/-- Who owns the sprites, and how they lie. -/
structure Arranged (player : Player) : Prop where
  /-- The sprites on the stage are those of the splash, of the background and of the characters. -/
  owned : player.world.stage.keys.Perm player.sprites
  /-- No two of them have the same sprite. -/
  apart : player.sprites.Nodup
  /-- The stage lists its sprites in the order in which they were made. -/
  ages : player.world.stage.keys.Pairwise SpriteId.Older
  /-- What is drawn is on the stage, once, and in the same order. -/
  drawn : player.world.stage.order.Sublist player.world.stage.keys
  bottom : ∀ scene sprite, player.scene = some scene → scene.background = some sprite →
    sprite ∈ player.world.stage.order → player.world.stage.order.head? = some sprite
  /-- A character that appears again in a frame is on top then, and it is still on top at the end of the
  frame if it was the last one, unless it has faded away. -/
  top : ∀ span before id after, player.due span = before ++ .retrigger id :: after →
    let middle := player.during span (before ++ [.retrigger id])
    ∀ scene character sprite, middle.scene = some scene → scene.character? id = some character →
      character.sprite = some sprite →
        middle.world.stage.order.getLast? = some sprite ∧
          ((∀ other, .retrigger other ∉ after) → sprite ∈ (player.frame span).world.stage.order →
            (player.frame span).world.stage.order.getLast? = some sprite)
  /-- A sprite that is not drawn any more is never drawn again. -/
  undrawn : ∀ sprite : SpriteId, sprite.number ≤ player.world.stage.issued →
    sprite ∉ player.world.stage.order →
      ∀ later, sprite ∉ (player.run later).world.stage.order

/-- Where no sprite is lost, the sprites on the stage are those that are owned. -/
theorem Kept.owned (kept : player.Kept .none) :
    player.sprites.Nodup ∧ ∀ id, id ∈ player.world.stage.keys ↔ id ∈ player.sprites := by
  have exact : ∀ {loose : List Loose} {holdings : List Holding} {owners : List SpriteId},
      World.Kept .none loose holdings owners player.world → owners = player.sprites →
        player.sprites.Nodup ∧ ∀ id, id ∈ player.world.stage.keys ↔ id ∈ player.sprites := by
    rintro loose holdings owners kept rfl
    exact ⟨kept.apart, fun id =>
      ⟨fun member => (kept.owned id member).resolve_right not_false,
        fun owned => (kept.there id owned).resolve_right not_false⟩⟩
  cases kept with
  | waiting waits plain =>
    refine exact waits.kept ?_
    unfold sprites
    rw [waits.scene]
    exact (List.append_nil _).symm
  | playing scene shows active kept =>
    refine exact kept.kept ?_
    unfold sprites
    rw [shows.current, shows.sprite]
    rfl

theorem Kept.arranged (kept : player.Kept .none) (layered : player.Layered) : player.Arranged := by
  obtain ⟨apart, owned⟩ := kept.owned
  constructor
  case owned => exact (List.perm_ext_iff_of_nodup kept.valid.distinct apart).mpr owned
  case apart => exact apart
  case ages => exact layered.stage.keys
  case drawn => exact layered.stage.sublist kept.valid
  case bottom =>
    exact fun scene sprite current drawn attached =>
      layered.stage.head? kept.valid (layered.ground scene current sprite drawn) attached
  case top =>
    intro span before id after due middle scene character sprite current found stands
    exact ⟨top_during kept due current found stands, fun last =>
      top_frame kept layered due last current found stands⟩
  case undrawn =>
    exact fun sprite given undrawn later => (piles_run later player).undrawn given undrawn

/-- **Every sprite has one owner, and the sprites lie in the order of their age**, whatever is done with
the player, as long as no sprite is taken away from outside and no start is made again that has failed. -/
theorem arranged_run (document : Story.Document) (resources : Asset.Resources) (audio : Audio)
    (viewport : Viewport) (options : SceneOptions) (operations : List Operation)
    (inside : ∀ sprite, .destroy sprite ∉ operations)
    (never : (ofResources document resources audio viewport options).NeverRestarts operations) :
    ((ofResources document resources audio viewport options).run operations).Arranged := by
  have begins : ∀ {lost : Losses}, (ofResources document resources audio viewport options).Kept lost :=
    kept_ofResources document resources audio viewport options
  exact (kept_run_untouched never inside begins).arranged
    (layered_run operations never begins (layered_ofResources document resources audio viewport options))

/-- A player of the story with a cat, with all pictures, where the cat appears again each second. -/
def returningCat : Player :=
  ofResources catStory ⟨[("bg.png", .texture ⟨800, 600⟩), ("cat.png", .texture ⟨64, 64⟩)]⟩
    (.silent 3000000000 []) ⟨800, 600⟩ ⟨some "Cat", 1000, 100⟩

/-- Its scene is entered, and three seconds pass. -/
def catNap : List Operation :=
  [.enterScene "room", .frame 3000000000]

/-- The cat has its fourth sprite then, on top of the background. -/
theorem arranged_returningCat :
    (∀ sprite, .destroy sprite ∉ catNap) ∧ (returningCat.run catNap).Arranged ∧
      (returningCat.run catNap).world.stage.order = [⟨1⟩, ⟨5⟩] := by
  have inside : ∀ sprite, .destroy sprite ∉ catNap := by
    simp [catNap]
  have starts : (catStory.scene? catStory.start).isSome = true := by decide
  have never := neverRestarts_of_starts starts
  exact ⟨inside, arranged_run catStory _ _ _ _ catNap inside (never _ _ _ _ _), by decide +kernel⟩

/-- **A start that is made again leaves a sprite without an owner**: where the cat's story has neither its
first scene nor the sound of its splash, two starts show two pictures. -/
theorem disarranged_restart :
    let player := (ofResources { catStory with start := "cellar" }
      ⟨[(catStory.splash.image, .texture ⟨640, 480⟩)]⟩ (.silent 3000000000 []) ⟨800, 600⟩ .standard).run
        [.start, .start]
    player.world.stage.keys = [⟨1⟩, ⟨2⟩] ∧ player.sprites = [⟨2⟩] ∧ ¬ player.Arranged := by
  refine ⟨by decide +kernel, by decide +kernel, fun arranged => ?_⟩
  exact absurd arranged.owned.length_eq (by decide +kernel)

end Player

end Storybook
