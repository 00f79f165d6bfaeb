/-
**Players keep everything.**

A player either waits, with nothing but the sprite of its splash on the stage, or it plays a scene,
whose places hold and own all that there is. Every operation leaves it in one of these states. Sprites
may be lost all the same: they may be taken away from outside, and a start that has failed leaves the
sprite of the splash behind when it is tried again.

* `Player.Kept`: the two states;
* `Player.isBare_clear`: when a scene is left and the splash is cleared, nothing is left;
* `Player.kept_frame`: the states are broken in the middle of a frame and restored at its end;
* `Player.LosesOnly`, `Player.kept_perform`, `Player.kept_run`: every operation, and every list of
  operations, in which no other sprites are lost than may be.
-/

import Storybook.Proofs.Holding.Frames
import Storybook.Proofs.Openings

namespace Storybook

/-! ### Nothing is left -/

/-- There is no sprite, no motion and no timer in the world. -/
structure World.IsBare (world : World) : Prop where
  sprites : world.stage.sprites = []
  order : world.stage.order = []
  motions : world.animator.entries = []
  timers : world.timers.timers = []

variable {lost : Losses} {player : Player}

/-- Where nothing holds or owns anything and nothing is left behind, nothing is left. -/
theorem World.Kept.isBare {world : World} (kept : World.Kept lost [] [] [] world)
    (idle : world.timers.timers = []) (tidy : ∀ id, ¬ lost.left id) : world.IsBare := by
  have none : ∀ id, id ∉ world.stage.keys := fun id member =>
    (kept.owned id member).elim List.not_mem_nil (tidy id)
  refine ⟨List.map_eq_nil_iff.mp (List.eq_nil_iff_forall_not_mem.mpr none), ?_,
    kept.held.entries_eq_nil, idle⟩
  exact List.eq_nil_iff_forall_not_mem.mpr fun id drawn => none id (kept.stage.drawn id drawn)

namespace Player

/-- A scene is played, and the splash is over. -/
structure Shows (player : Player) (scene : Scene) : Prop where
  current : player.scene = some scene
  phase : player.phase = .playing
  sprite : player.splashSprite = none
  playback : player.splashPlayback = none

/-- No scene is played. There may be the sprite of the splash. -/
structure Waits (lost : Losses) (player : Player) : Prop where
  scene : player.scene = none
  kept : World.Kept lost [] [] player.splashSprite.toList player.world
  idle : player.world.timers.timers = []

/-- The two states of a player between operations. -/
inductive Kept (lost : Losses) (player : Player) : Prop
  | waiting (waits : player.Waits lost) (plain : player.phase ≠ .splash → player.splashPlayback = none)
  | playing (scene : Scene) (shows : player.Shows scene) (active : scene.state = .active)
      (kept : scene.Kept lost [] player.world)

/-! ### The beginning -/

theorem kept_ofResources (document : Story.Document) (resources : Asset.Resources) (audio : Audio)
    (viewport : Viewport) (options : SceneOptions) :
    (ofResources document resources audio viewport options).Kept lost := by
  refine .waiting ⟨rfl, ⟨Stage.valid_empty viewport, ?_, ?_, ?_, ?_, List.nodup_nil⟩, rfl⟩
    fun _ => rfl
  · refine ⟨List.nodup_nil, ?_, ?_, ?_, List.nodup_nil, ?_, ?_, ?_, List.nodup_nil, ?_, ?_, ?_⟩ <;>
      exact fun _ none => nomatch none
  · exact fun _ none => nomatch none
  · exact fun _ none => nomatch none
  · exact fun _ none => nomatch none

/-! ### Scenes come and go -/

/-- When a scene is left, the player waits. -/
theorem waits_leaveScene (kept : player.Kept lost) : player.leaveScene.Waits lost := by
  cases kept with
  | waiting waits =>
    unfold leaveScene
    rw [waits.scene]
    exact waits
  | playing scene shows active kept =>
    have stands : scene.state ≠ .tornDown := by
      rw [active]
      decide
    obtain ⟨left, starts⟩ := Scene.kept_teardown kept stands
    unfold leaveScene
    rw [shows.current]
    refine ⟨rfl, ?_, List.eq_nil_iff_forall_not_mem.mpr fun timer member => ?_⟩
    · rw [shows.sprite]
      exact left
    · obtain ⟨tick, motion, task⟩ := starts timer member
      cases (left.held.starts timer member tick motion task).2

/-- When the splash is cleared, nothing is left to be kept. -/
theorem kept_clearSplash (waits : player.Waits lost) :
    World.Kept lost [] [] [] player.clearSplash.world ∧
      player.clearSplash.world.timers.timers = [] := by
  have kept := waits.kept
  unfold clearSplash
  cases drawn : player.splashSprite with
  | none =>
    rw [drawn] at kept
    cases player.splashPlayback <;> exact ⟨kept.congr rfl rfl rfl, waits.idle⟩
  | some sprite =>
    rw [drawn] at kept
    have destroyed : World.Kept lost [] [] [] (player.world.destroySprite sprite) := kept.destroy
    cases player.splashPlayback <;> exact ⟨destroyed.congr rfl rfl rfl, waits.idle⟩

/-- Where no scene is played, none is left. -/
theorem Waits.leave (waits : player.Waits lost) : player.leaveScene.Waits lost := by
  unfold leaveScene
  rw [waits.scene]
  exact waits

/-- **When a scene is left and the splash is cleared, nothing is left** but for what was left behind. -/
theorem isBare_clear (waits : player.leaveScene.Waits lost) (tidy : ∀ id, ¬ lost.left id) :
    player.leaveScene.clearSplash.world.IsBare :=
  (kept_clearSplash waits).1.isBare (kept_clearSplash waits).2 tidy

theorem scene_clear (player : Player) : player.leaveScene.clearSplash.scene = none := by
  show player.leaveScene.scene = none
  unfold leaveScene
  cases current : player.scene with
  | none => exact current
  | some scene => rfl

theorem kept_enterSpec (waits : player.leaveScene.Waits lost) (id : String) (spec : Story.Scene) :
    (player.enterSpec id spec).Kept lost := by
  obtain ⟨kept, idle⟩ := kept_clearSplash waits
  exact .playing _ ⟨rfl, rfl, rfl, rfl⟩ (Scene.state_enter _ _ _ _ _)
    (Scene.kept_enter id spec _ _ kept idle)

theorem kept_enterScene (kept : player.Kept lost) (id : String) : (player.enterScene id).2.Kept lost :=
  enterScene_cases kept fun spec _ => kept_enterSpec (waits_leaveScene kept) id spec

theorem kept_shutdown (kept : player.Kept lost) : player.shutdown.Kept lost := by
  obtain ⟨cleared, idle⟩ := kept_clearSplash (waits_leaveScene kept)
  exact .waiting ⟨scene_clear player, cleared, idle⟩ fun _ => rfl

/-! ### Starting -/

/-- The picture of the splash is shown. That of a start that has failed is left behind. -/
theorem waits_showSplash (waits : player.Waits lost)
    (may : ∀ sprite, player.splashSprite = some sprite → lost.left sprite) : player.showSplash.Waits lost := by
  unfold showSplash
  dsimp only
  split
  · rename_i texture _
    have free : World.Kept lost [] [] [] player.world := by
      have kept := waits.kept
      cases shown : player.splashSprite with
      | none =>
        rw [shown] at kept
        exact kept
      | some sprite =>
        rw [shown] at kept
        exact kept.leave (may sprite shown)
    have made := (free.create (Sprite.ofTexture player.document.splash.image texture)).attach
      (player.world.createSprite (Sprite.ofTexture player.document.splash.image texture)).1
    exact ⟨waits.scene, made, waits.idle⟩
  · exact waits

theorem kept_playSplash (waits : player.Waits lost) : player.playSplash.Kept lost :=
  .waiting ⟨waits.scene, waits.kept.congr rfl rfl rfl, waits.idle⟩ fun other => absurd rfl other

/-- Nothing but the stage, the motions and the timers matters, and of the stage only which sprites
there are. -/
theorem Kept.congr {world : World} (kept : player.Kept lost)
    (stage : player.world.stage.Keeps world.stage) (animator : world.animator = player.world.animator)
    (timers : world.timers = player.world.timers) : { player with world }.Kept lost := by
  cases kept with
  | waiting waits plain =>
    refine .waiting ⟨waits.scene, waits.kept.work stage ?_, timers ▸ waits.idle⟩ plain
    exact animator ▸ timers ▸ waits.kept.held
  | playing scene shows active kept =>
    exact .playing scene ⟨shows.current, shows.phase, shows.sprite, shows.playback⟩ active
      (kept.congr stage animator timers)

theorem waits_skipSplash (waits : player.showSplash.Waits lost) : player.skipSplash.Waits lost :=
  ⟨waits.scene, waits.kept.congr rfl rfl rfl, waits.idle⟩

/-- Before the start the player waits. -/
theorem Kept.waits_of_loaded (kept : player.Kept lost) (loaded : player.phase = .loaded) :
    player.Waits lost ∧ player.splashPlayback = none := by
  cases kept with
  | waiting waits plain => exact ⟨waits, plain (loaded ▸ nofun)⟩
  | playing scene shows => cases loaded.symm.trans shows.phase

/-- The splash is skipped. Its picture is shown all the same. -/
theorem kept_skipSplash (kept : player.Kept lost) (loaded : player.phase = .loaded)
    (may : ∀ sprite, player.splashSprite = some sprite → lost.left sprite) :
    player.skipSplash.Kept lost := by
  obtain ⟨waits, mute⟩ := kept.waits_of_loaded loaded
  have still : player.skipSplash.splashPlayback = player.splashPlayback := by
    rw [skipSplash, showSplash_eq]
  exact .waiting (waits_skipSplash (waits_showSplash waits may)) fun _ => still.trans mute

theorem kept_start (kept : player.Kept lost)
    (may : player.phase = .loaded → ∀ sprite, player.splashSprite = some sprite → lost.left sprite) :
    player.start.2.Kept lost := by
  refine start_cases (fun _ => kept.congr (.refl _) rfl rfl) (fun loaded _ _ => ?_) fun loaded _ => ?_
  · exact kept_playSplash (waits_showSplash (kept.waits_of_loaded loaded).1 (may loaded))
  · exact kept_enterScene (kept_skipSplash kept loaded (may loaded)) _

/-! ### Frames -/

/-- The tasks that are due in a frame, in order. -/
def due (player : Player) (span : Nat) : List Task :=
  (player.world.advanceClock span).1

/-- The player in the middle of a frame, when some tasks are done. -/
def during (player : Player) (span : Nat) (done : List Task) : Player :=
  done.foldl dispatch { player with world := (player.world.advanceClock span).2 }

/-- A player in the middle of a frame: see `Scene.Midway`. -/
def Midway (lost : Losses) (first : Scene) (done : List Task) (player : Player) : Prop :=
  ∃ loose scene, player.Shows scene ∧ first.Midway lost done loose scene player.world

variable {first : Scene} {done : List Task}

theorem Midway.dispatch (midway : player.Midway lost first done) (settled : first.Settled)
    {task : Task} (fits : first.Fits task) :
    (player.dispatch task).Midway lost first (done ++ [task]) := by
  obtain ⟨loose, scene, shows, midway⟩ := midway
  cases task with
  | playSound link =>
    unfold Player.dispatch withScene
    dsimp only
    rw [shows.current]
    exact ⟨loose, _, ⟨rfl, shows.phase, shows.sprite, shows.playback⟩, midway.playSound link⟩
  | startMotion tick motion =>
    obtain ⟨after, started⟩ := midway.startMotion settled fits
    exact ⟨after, scene, ⟨shows.current, shows.phase, shows.sprite, shows.playback⟩, started⟩
  | retrigger id =>
    obtain ⟨after, appeared⟩ := midway.retrigger settled id
    unfold Player.dispatch withScene
    dsimp only
    rw [shows.current]
    exact ⟨after, _, ⟨rfl, shows.phase, shows.sprite, shows.playback⟩, appeared⟩

theorem Midway.dispatchEach {tasks : List Task} (midway : player.Midway lost first done)
    (settled : first.Settled) (fits : ∀ task ∈ tasks, first.Fits task) :
    (tasks.foldl Player.dispatch player).Midway lost first (done ++ tasks) := by
  induction tasks generalizing done player with
  | nil =>
    rw [List.append_nil]
    exact midway
  | cons task rest ih =>
    obtain ⟨head, tail⟩ := List.forall_mem_cons.mp fits
    rw [List.append_cons]
    exact ih (midway.dispatch settled head) tail

/-- **In the middle of a frame**, whichever of its tasks are done. -/
theorem midway_during {scene : Scene} (shows : player.Shows scene) (active : scene.state = .active)
    (kept : scene.Kept lost [] player.world) (span : Nat) {done : List Task}
    (fits : ∀ task ∈ done, scene.Fits task) : (player.during span done).Midway lost scene done := by
  have begins : Midway lost scene [] { player with world := (player.world.advanceClock span).2 } :=
    ⟨[], scene, ⟨shows.current, shows.phase, shows.sprite, shows.playback⟩,
      .start (kept.advance span) active⟩
  exact begins.dispatchEach kept.settled fits

theorem Midway.finish (midway : player.Midway lost first done) (playback : PlaybackId) :
    (player.finish playback).Midway lost first done := by
  obtain ⟨loose, scene, shows, midway⟩ := midway
  unfold Player.finish withScene
  rw [shows.playback, if_neg (nofun), shows.current]
  exact ⟨loose, _, ⟨rfl, shows.phase, shows.sprite, rfl⟩, midway.finish playback⟩

theorem Midway.finishEach (playbacks : List PlaybackId) :
    ∀ {player : Player}, player.Midway lost first done →
      (playbacks.foldl Player.finish player).Midway lost first done := by
  induction playbacks with
  | nil => exact fun midway => midway
  | cons playback rest ih => exact fun midway => ih (midway.finish playback)

/-- At the end of a frame nothing strays. -/
theorem Midway.tick (midway : player.Midway lost first done) (span : Nat) :
    { player with world := player.world.tick span }.Kept lost := by
  obtain ⟨loose, scene, shows, midway⟩ := midway
  have strays : ∀ handle ∈ loose, ∀ motion, handle.motion = some motion →
      motion.sprite ∉ player.world.stage.keys := fun handle member motion moves =>
    (midway.gone handle member motion moves).absent
  exact .playing scene ⟨shows.current, shows.phase, shows.sprite, shows.playback⟩ midway.active
    (midway.kept.tick strays span)

/-- The player in a frame when all of its tasks, and the ends of some playings, are done. -/
def afterPlaybacks (player : Player) (span : Nat) (playbacks : List PlaybackId) : Player :=
  let done := player.during span (player.due span)
  playbacks.foldl Player.finish { done with world := done.world.takeFinished.2 }

/-- The playings that have ended by themselves when the tasks of a frame are done, in order. -/
def ended (player : Player) (span : Nat) : List PlaybackId :=
  (player.during span (player.due span)).world.takeFinished.1

/-- The player in a frame when only the motions are still to move. -/
def beforeMotions (player : Player) (span : Nat) : Player :=
  player.afterPlaybacks span (player.ended span)

theorem frame_eq (player : Player) (span : Nat) :
    player.frame span = { player.beforeMotions span with
      world := (player.beforeMotions span).world.tick span } :=
  rfl

/-- The ends of playings do not restore what a frame has broken. -/
theorem midway_afterPlaybacks {scene : Scene} (shows : player.Shows scene)
    (active : scene.state = .active) (kept : scene.Kept lost [] player.world) (span : Nat)
    (playbacks : List PlaybackId) :
    (player.afterPlaybacks span playbacks).Midway lost scene (player.due span) := by
  obtain ⟨loose, after, shows, midway⟩ := midway_during shows active kept span fun _ => kept.fits
  have taken : Midway lost scene (player.due span) { player.during span (player.due span) with
      world := (player.during span (player.due span)).world.takeFinished.2 } :=
    ⟨loose, after, ⟨shows.current, shows.phase, shows.sprite, shows.playback⟩,
      midway.sound (midway.kept.congr (.refl _) rfl rfl) rfl rfl rfl⟩
  exact taken.finishEach _

theorem waits_endSplash (waits : player.Waits lost) : player.endSplash.Waits lost :=
  ⟨waits.scene, waits.kept.congr rfl rfl rfl, waits.idle⟩

theorem kept_leaveSplash (waits : player.Waits lost) : player.leaveSplash.Kept lost := by
  have ended := waits_endSplash waits
  refine leaveSplash_cases (fun _ => ?_) fun spec _ => kept_enterSpec ended.leave _ spec
  exact .waiting ⟨ended.scene, ended.kept.congr rfl rfl rfl, ended.idle⟩ fun _ => rfl

theorem kept_finish (kept : player.Kept lost) (playback : PlaybackId) :
    (player.finish playback).Kept lost := by
  cases kept with
  | waiting waits plain =>
    unfold Player.finish withScene
    split
    · exact kept_leaveSplash waits
    · rw [waits.scene]
      exact .waiting waits plain
  | playing scene shows active kept =>
    unfold Player.finish withScene
    rw [shows.playback, if_neg (nofun), shows.current]
    exact .playing _ ⟨rfl, shows.phase, shows.sprite, rfl⟩ active (kept.finish playback)

theorem kept_finishEach (playbacks : List PlaybackId) :
    ∀ {player : Player}, player.Kept lost → (playbacks.foldl Player.finish player).Kept lost := by
  induction playbacks with
  | nil => exact fun kept => kept
  | cons playback rest ih => exact fun kept => ih (kept_finish kept playback)

theorem kept_tick (kept : player.Kept lost) (span : Nat) :
    { player with world := player.world.tick span }.Kept lost := by
  have none : ∀ handle ∈ ([] : List Loose), ∀ motion, handle.motion = some motion →
      motion.sprite ∉ player.world.stage.keys := fun _ member => nomatch member
  cases kept with
  | waiting waits plain =>
    refine .waiting ⟨waits.scene, waits.kept.tick none span, ?_⟩ plain
    exact (congrArg TimerQueue.timers (player.world.timers_tick span)).trans waits.idle
  | playing scene shows active kept =>
    exact .playing scene ⟨shows.current, shows.phase, shows.sprite, shows.playback⟩ active
      (kept.tick none span)

/-- While no scene is played, nothing is due. -/
theorem due_of_waits (waits : player.Waits lost) (span : Nat) : player.due span = [] := by
  refine List.eq_nil_iff_forall_not_mem.mpr fun task due => ?_
  obtain ⟨timer, fired, _⟩ := List.mem_map.mp due
  obtain ⟨old, member, _⟩ := TimerQueue.mem_fired fired
  rw [waits.idle] at member
  cases member

/-- Time passes, and the player waits on. -/
theorem Waits.advance (waits : player.Waits lost) (span : Nat) :
    { player with world := (player.world.advanceClock span).2 }.Waits lost where
  scene := waits.scene
  kept := waits.kept.work (.refl _) (waits.kept.held.renew rfl fun _ => TimerQueue.mem_advance)
  idle := by
    refine List.eq_nil_iff_forall_not_mem.mpr fun timer member => ?_
    obtain ⟨old, there, _⟩ := TimerQueue.mem_advance member
    rw [waits.idle] at there
    cases there

theorem kept_afterPlaybacks (waits : player.Waits lost)
    (plain : player.phase ≠ .splash → player.splashPlayback = none) (span : Nat) (playbacks : List PlaybackId) :
    (player.afterPlaybacks span playbacks).Kept lost := by
  have begun := waits.advance span
  refine kept_finishEach _ ?_
  unfold during
  rw [due_of_waits waits]
  exact .waiting ⟨begun.scene, begun.kept.congr rfl rfl rfl, begun.idle⟩ plain

/-- **A frame**: in its middle, what is held and what is registered may differ, but not at its end. -/
theorem kept_frame (kept : player.Kept lost) (span : Nat) : (player.frame span).Kept lost := by
  rw [frame_eq]
  cases kept with
  | waiting waits plain => exact kept_tick (kept_afterPlaybacks waits plain span _) span
  | playing scene shows active kept =>
    exact (midway_afterPlaybacks shows active kept span _).tick span

/-! ### All operations -/

/-- What is asked of the scene in play keeps the player, if it keeps the scene. -/
theorem kept_askScene (kept : player.Kept lost) {change : Scene → World → Bool × Scene × World}
    (keeps : ∀ {scene : Scene} {world : World}, scene.Kept lost [] world →
      (change scene world).2.1.Kept lost [] (change scene world).2.2)
    (stays : ∀ (scene : Scene) (world : World), (change scene world).2.1.state = scene.state) :
    (player.askScene change).2.Kept lost := by
  unfold askScene
  cases kept with
  | waiting waits plain =>
    rw [waits.scene]
    exact .waiting waits plain
  | playing scene shows active kept =>
    rw [shows.current]
    exact .playing _ ⟨rfl, shows.phase, shows.sprite, shows.playback⟩
      ((stays scene player.world).trans active) (keeps kept)

theorem kept_touch (kept : player.Kept lost) (id : CharacterId) : (player.touch id).2.Kept lost :=
  kept_askScene kept (fun kept => kept.touch id) fun scene world => scene.state_touch id world

theorem kept_touchEach (ids : List CharacterId) :
    ∀ {player : Player}, player.Kept lost → (touchEach ids player).2.Kept lost := by
  induction ids with
  | nil => exact fun kept => kept
  | cons id rest ih => exact fun kept => ih (kept_touch kept id)

theorem kept_touchNamed (kept : player.Kept lost) (name : String) :
    (player.touchNamed name).2.Kept lost := by
  unfold touchNamed
  split
  · exact kept_touchEach _ kept
  · exact kept

theorem kept_pointerUpAt (kept : player.Kept lost) (x y : Single) :
    (player.pointerUpAt x y).2.Kept lost :=
  kept_askScene kept (fun kept => kept.pointerUpAt x y) fun scene world =>
    scene.state_pointerUpAt x y world

theorem kept_render (kept : player.Kept lost) (viewport : Viewport) :
    (player.render viewport).2.Kept lost := by
  refine kept.congr ?_ rfl rfl
  dsimp only
  split
  · exact .refl _
  · exact player.world.stage.keeps_resize viewport

theorem kept_destroySprite (kept : player.Kept lost) {sprite : SpriteId} (may : lost.taken sprite) :
    (player.destroySprite sprite).Kept lost := by
  cases kept with
  | waiting waits plain => exact .waiting ⟨waits.scene, waits.kept.lose may, waits.idle⟩ plain
  | playing scene shows active kept =>
    exact .playing scene ⟨shows.current, shows.phase, shows.sprite, shows.playback⟩ active
      { kept with kept := kept.kept.lose may }

/-- An operation loses only sprites that may be lost: those that it takes away from outside, and the
one of a start that has failed, if it starts the story again. -/
def LosesOnly (lost : Losses) (player : Player) : Operation → Prop
  | .destroy sprite => lost.taken sprite
  | .start => player.phase = .loaded → ∀ sprite, player.splashSprite = some sprite → lost.left sprite
  | _ => True

/-- **Every operation keeps a player**, if only sprites are lost that may be. -/
theorem kept_perform (kept : player.Kept lost) {operation : Operation}
    (only : player.LosesOnly lost operation) : (player.perform operation).Kept lost := by
  cases operation with
  | start => exact kept_start kept only
  | enterScene id => exact kept_enterScene kept id
  | frame span => exact kept_frame kept span
  | touch character => exact kept_touch kept character
  | touchNamed name => exact kept_touchNamed kept name
  | pointerUpAt x y => exact kept_pointerUpAt kept x y
  | render viewport => exact kept_render kept viewport
  | destroy sprite => exact kept_destroySprite kept only
  | shutdown => exact kept_shutdown kept

/-- **Every run keeps a player**, if only sprites are lost that may be. -/
theorem kept_run (operations : List Operation) :
    ∀ {player : Player}, player.Kept lost →
      (∀ before operation after, operations = before ++ operation :: after →
        (player.run before).LosesOnly lost operation) → (player.run operations).Kept lost := by
  induction operations with
  | nil => exact fun kept _ => kept
  | cons operation rest ih =>
    intro player kept only
    refine ih (kept_perform kept (only [] operation rest rfl)) fun before next after split => ?_
    exact only (operation :: before) next after (congrArg (operation :: ·) split)

theorem losesOnly_any (player : Player) (operation : Operation) : player.LosesOnly .any operation := by
  cases operation <;> simp [LosesOnly, Losses.any]

theorem losesOnly_inside {operations : List Operation} (inside : ∀ sprite, .destroy sprite ∉ operations)
    (player : Player) {operation : Operation} (member : operation ∈ operations) :
    player.LosesOnly .inside operation := by
  cases operation with
  | destroy sprite => exact absurd member (inside sprite)
  | start => exact fun _ _ _ => trivial
  | _ => trivial

theorem kept_run_inside {operations : List Operation} (inside : ∀ sprite, .destroy sprite ∉ operations)
    (kept : player.Kept .inside) : (player.run operations).Kept .inside := by
  refine kept_run operations kept ?_
  rintro before operation after rfl
  exact losesOnly_inside inside _ (List.mem_append_right _ List.mem_cons_self)

theorem kept_run_any (operations : List Operation) (kept : player.Kept .any) :
    (player.run operations).Kept .any :=
  kept_run operations kept fun before operation _ _ => (player.run before).losesOnly_any operation

end Player

end Storybook
