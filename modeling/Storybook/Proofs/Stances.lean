/-
**What goes on within a scene.**

Most of what is done with a player is work within the scene in play: it stays the same scene, the play
comes no further, and no milestone is reported.

* `Player.Stays`: between two states of a player only such things were done;
* `Player.stays_dispatch`, `Player.stays_finish`, `Player.stays_touch`, ...: what is done in this way;
* `Player.stays_beforePlaybacks`: all of a frame before sounds are found to have ended;
* `Player.Same`: no operation changes the story, its assets or its options (`Player.same_run`).
-/

import Storybook.Proofs.Holding.Players
import Storybook.Proofs.Working

namespace Storybook

namespace Scene

/-- Which scene it is, and how far it has come. -/
def title (scene : Scene) : String × SceneState :=
  (scene.id, scene.state)

theorem title_retrigger (scene : Scene) (id : CharacterId) (world : World) :
    (scene.retrigger id world).1.title = scene.title := by
  unfold retrigger
  split
  · split <;> rfl
  · rfl

theorem title_playSound (scene : Scene) (link : Nat) (world : World) :
    (scene.playSound link world).1.title = scene.title := by
  unfold playSound
  split <;> rfl

theorem title_touch (scene : Scene) (id : CharacterId) (world : World) :
    (scene.touch id world).2.1.title = scene.title := by
  unfold touch
  split
  · split <;> rfl
  · rfl

theorem title_pointerUpAt (scene : Scene) (x y : Single) (world : World) :
    (scene.pointerUpAt x y world).2.1.title = scene.title := by
  unfold pointerUpAt pointerUp
  split
  · split
    · exact scene.title_touch _ world
    · rfl
  · rfl

end Scene

namespace Player

/-- Between the two states only work was done, within the same scene if there is one. -/
structure Stays (before after : Player) : Prop where
  document : after.document = before.document
  options : after.options = before.options
  phase : after.phase = before.phase
  sprite : after.splashSprite = before.splashSprite
  playback : after.splashPlayback = before.splashPlayback
  scene : after.scene.map Scene.title = before.scene.map Scene.title
  works : before.world.Works after.world

variable {first second third : Player}

theorem Stays.refl (player : Player) : player.Stays player :=
  ⟨rfl, rfl, rfl, rfl, rfl, rfl, .refl player.world⟩

theorem Stays.trans (left : first.Stays second) (right : second.Stays third) : first.Stays third where
  document := right.document.trans left.document
  options := right.options.trans left.options
  phase := right.phase.trans left.phase
  sprite := right.sprite.trans left.sprite
  playback := right.playback.trans left.playback
  scene := right.scene.trans left.scene
  works := left.works.trans right.works

theorem stays_world (player : Player) {world : World} (works : player.world.Works world) :
    player.Stays { player with world } :=
  ⟨rfl, rfl, rfl, rfl, rfl, rfl, works⟩

/-! ### What is asked of the scene -/

theorem stays_withScene (player : Player) {change : Scene → World → Scene × World}
    (title : ∀ (scene : Scene) (world : World), (change scene world).1.title = scene.title)
    (works : ∀ (scene : Scene) (world : World), world.Works (change scene world).2) :
    player.Stays (player.withScene change) := by
  unfold withScene
  split
  · rename_i scene current
    refine ⟨rfl, rfl, rfl, rfl, rfl, ?_, works scene player.world⟩
    rw [current]
    exact congrArg some (title scene player.world)
  · exact .refl player

theorem stays_askScene (player : Player) {change : Scene → World → Bool × Scene × World}
    (title : ∀ (scene : Scene) (world : World), (change scene world).2.1.title = scene.title)
    (works : ∀ (scene : Scene) (world : World), world.Works (change scene world).2.2) :
    player.Stays (player.askScene change).2 := by
  unfold askScene
  split
  · rename_i scene current
    refine ⟨rfl, rfl, rfl, rfl, rfl, ?_, works scene player.world⟩
    rw [current]
    exact congrArg some (title scene player.world)
  · exact .refl player

theorem stays_touch (player : Player) (id : CharacterId) : player.Stays (player.touch id).2 :=
  player.stays_askScene (fun scene world => scene.title_touch id world)
    fun scene world => scene.works_touch id world

theorem stays_touchEach (ids : List CharacterId) :
    ∀ player : Player, player.Stays (touchEach ids player).2 := by
  induction ids with
  | nil => exact fun player => .refl player
  | cons id rest ih => exact fun player => (player.stays_touch id).trans (ih _)

theorem stays_touchNamed (player : Player) (name : String) :
    player.Stays (player.touchNamed name).2 := by
  unfold touchNamed
  split
  · exact stays_touchEach _ player
  · exact .refl player

theorem stays_pointerUpAt (player : Player) (x y : Single) :
    player.Stays (player.pointerUpAt x y).2 :=
  player.stays_askScene (fun scene world => scene.title_pointerUpAt x y world)
    fun scene world => scene.works_pointerUpAt x y world

/-! ### Frames -/

theorem stays_dispatch (player : Player) (task : Task) : player.Stays (player.dispatch task) := by
  cases task with
  | playSound link =>
    exact player.stays_withScene (fun scene world => scene.title_playSound link world)
      fun scene world => scene.works_playSound link world
  | startMotion tick motion => exact player.stays_world (.of_eq rfl rfl rfl)
  | retrigger id =>
    exact player.stays_withScene (fun scene world => scene.title_retrigger id world)
      fun scene world => scene.works_retrigger id world

/-- A playing has ended that is not that of the splash. -/
theorem stays_finish {player : Player} {playback : PlaybackId}
    (other : player.splashPlayback ≠ some playback) : player.Stays (player.finish playback) := by
  unfold finish
  rw [if_neg other]
  exact player.stays_withScene (fun _ _ => rfl) fun scene world =>
    scene.sounds.works_finish playback world

/-- In the middle of a frame. -/
theorem stays_during (player : Player) (span : Nat) (done : List Task) :
    player.Stays (player.during span done) := by
  have clocked : player.Stays { player with world := (player.world.advanceClock span).2 } :=
    player.stays_world (.of_eq rfl rfl rfl)
  exact List.foldlRecOn done dispatch clocked fun middle stays task _ =>
    stays.trans (middle.stays_dispatch task)

theorem stays_beforePlaybacks (player : Player) (span : Nat) :
    player.Stays (player.afterPlaybacks span []) :=
  (player.stays_during span _).trans (stays_world _ (.of_eq rfl rfl rfl))

theorem stays_tick (player : Player) (span : Nat) :
    player.Stays { player with world := player.world.tick span } :=
  player.stays_world (player.world.works_tick span)

/-! ### The splash -/

/-- To show the picture of the splash is work, but for its handle. -/
theorem stays_showSplash (player : Player) :
    player.Stays { player.showSplash with splashSprite := player.splashSprite } := by
  rw [showSplash_eq]
  exact player.stays_world (.of_eq rfl rfl rfl)

/-- A splash that is skipped leaves its picture. -/
theorem stays_skipSplash (player : Player) :
    player.Stays { player.skipSplash with splashSprite := player.splashSprite } :=
  player.stays_showSplash.trans (stays_world _ (World.works_warn _ _ _))

/-! ### From outside -/

theorem stays_render (player : Player) (viewport : Viewport) :
    player.Stays (player.render viewport).2 :=
  player.stays_world (.of_eq rfl rfl rfl)

theorem stays_destroySprite (player : Player) (sprite : SpriteId) :
    player.Stays (player.destroySprite sprite) :=
  player.stays_world (.of_eq rfl rfl rfl)

end Player

/-! ### What no operation changes -/

theorem Scene.resources_teardown (scene : Scene) (world : World) :
    (scene.teardown world).2.resources = world.resources := by
  by_cases gone : scene.state = .tornDown
  · unfold teardown
    rw [if_pos gone]
  · obtain ⟨middle, works, same⟩ := works_teardown gone world
    exact (congrArg World.resources same).trans works.resources

namespace Player

/-- The two players play the same story with the same assets and options. -/
structure Same (before after : Player) : Prop where
  document : after.document = before.document
  options : after.options = before.options
  resources : after.world.resources = before.world.resources

variable {first second third : Player}

theorem Same.refl (player : Player) : player.Same player :=
  ⟨rfl, rfl, rfl⟩

theorem Same.trans (left : first.Same second) (right : second.Same third) : first.Same third :=
  ⟨right.document.trans left.document, right.options.trans left.options,
    right.resources.trans left.resources⟩

theorem Stays.same (stays : first.Stays second) : first.Same second :=
  ⟨stays.document, stays.options, stays.works.resources⟩

theorem same_leaveScene (player : Player) : player.Same player.leaveScene := by
  unfold leaveScene
  cases player.scene with
  | none => exact .refl player
  | some scene => exact ⟨rfl, rfl, scene.resources_teardown player.world⟩

theorem same_clearSplash (player : Player) : player.Same player.clearSplash := by
  unfold clearSplash
  cases player.splashSprite <;> cases player.splashPlayback <;> exact ⟨rfl, rfl, rfl⟩

theorem same_clear (player : Player) : player.Same player.leaveScene.clearSplash :=
  player.same_leaveScene.trans player.leaveScene.same_clearSplash

theorem same_enterSpec (player : Player) (id : String) (spec : Story.Scene) :
    player.Same (player.enterSpec id spec) := by
  have cleared := player.same_clear
  have new : (Scene.ofSpec id spec player.leaveScene.clearSplash.document.style
      player.leaveScene.clearSplash.options).state = .uninitialized := rfl
  obtain ⟨middle, works, same⟩ := Scene.works_enter new player.leaveScene.clearSplash.world
  refine ⟨cleared.document, cleared.options, ?_⟩
  exact ((congrArg World.resources same).trans works.resources).trans cleared.resources

theorem same_enterScene (player : Player) (id : String) : player.Same (player.enterScene id).2 :=
  enterScene_cases (.refl player) fun spec _ => player.same_enterSpec id spec

theorem same_showSplash (player : Player) : player.Same player.showSplash := by
  have stays := player.stays_showSplash
  exact ⟨stays.document, stays.options, stays.works.resources⟩

theorem same_start (player : Player) : player.Same player.start.2 := by
  have shown := player.same_showSplash
  refine start_cases (fun _ => ⟨rfl, rfl, rfl⟩) (fun _ _ _ => shown.trans ⟨rfl, rfl, rfl⟩) fun _ _ => ?_
  have skipped : player.Same player.skipSplash := shown.trans ⟨rfl, rfl, rfl⟩
  exact skipped.trans (player.skipSplash.same_enterScene _)

theorem same_finish (player : Player) (playback : PlaybackId) :
    player.Same (player.finish playback) := by
  by_cases awaited : player.splashPlayback = some playback
  · have left : player.Same player.endSplash := ⟨rfl, rfl, rfl⟩
    unfold finish
    rw [if_pos awaited]
    exact leaveSplash_cases (fun _ => ⟨rfl, rfl, rfl⟩) fun spec _ =>
      left.trans (player.endSplash.same_enterSpec _ spec)
  · exact (stays_finish awaited).same

theorem same_frame (player : Player) (span : Nat) : player.Same (player.frame span) := by
  have before : player.Same (player.beforeMotions span) :=
    List.foldlRecOn (player.ended span) Player.finish (player.stays_beforePlaybacks span).same
      fun middle same playback _ => same.trans (middle.same_finish playback)
  rw [frame_eq]
  exact before.trans (stays_tick _ span).same

/-- **No operation changes the story**, its assets or its options. -/
theorem same_perform (player : Player) (operation : Operation) :
    player.Same (player.perform operation) := by
  cases operation with
  | start => exact player.same_start
  | enterScene id => exact player.same_enterScene id
  | frame span => exact player.same_frame span
  | touch character => exact (player.stays_touch character).same
  | touchNamed name => exact (player.stays_touchNamed name).same
  | pointerUpAt x y => exact (player.stays_pointerUpAt x y).same
  | render viewport => exact (player.stays_render viewport).same
  | destroy sprite => exact (player.stays_destroySprite sprite).same
  | shutdown => exact player.same_clear

theorem same_run (operations : List Operation) (player : Player) :
    player.Same (player.run operations) :=
  List.foldlRecOn operations perform (.refl player) fun middle same operation _ =>
    same.trans (middle.same_perform operation)

end Player

end Storybook
