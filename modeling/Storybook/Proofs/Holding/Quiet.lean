/-
**Only motions report their end.**

Whatever is done with a player, no motion is reported to have ended, except at the end of a frame, when
the motions move.

* `Player.quiet_perform`: operations other than frames;
* `Player.quiet_beforeMotions`: a frame before its motions;
* `World.mem_events_tick`: what is reported when the motions move.
-/

import Storybook.Proofs.Holding.Players

namespace Storybook

variable {lost : Losses}

/-! ### Motions -/

namespace World

theorem toList_reportAll (world : World) (events : List Event) :
    (world.reportAll events).events.toList = world.events.toList ++ events := by
  induction events generalizing world with
  | nil => exact (List.append_nil _).symm
  | cons event rest ih =>
    refine (ih (world.report event)).trans ?_
    rw [report, Array.toList_push, List.append_assoc]
    rfl

theorem mem_finishedEvents {stage : Stage} {motion : Motion} {sprite : SpriteId}
    {kind : MotionKind} :
    .motionFinished sprite kind ∈ finishedEvents stage motion ↔
      motion.sprite = sprite ∧ motion.kind = kind := by
  unfold finishedEvents
  dsimp only
  split <;> simp [eq_comm]

/-- When the motions move, the end of each finished one is reported. -/
theorem mem_events_tick {world : World} {span : Nat} {sprite : SpriteId} {kind : MotionKind} :
    .motionFinished sprite kind ∈ (world.tick span).events ↔
      .motionFinished sprite kind ∈ world.events ∨
        ∃ entry ∈ (Animator.steps (Span.frames span) world.animator.entries world.stage).finished,
          entry.2.sprite = sprite ∧ entry.2.kind = kind := by
  rw [← Array.mem_toList_iff]
  unfold tick
  dsimp only
  rw [toList_reportAll, List.mem_append, List.mem_flatMap, Array.mem_toList_iff]
  simp only [mem_finishedEvents]
  rfl

end World

/-! ### Everything else -/

theorem Scene.quiet_retrigger {loose : List Loose} {scene : Scene} {world : World}
    (kept : scene.Kept lost loose world) (id : CharacterId) :
    world.Quiet (scene.retrigger id world).2 := by
  unfold retrigger
  split
  · split
    · rename_i character found
      exact (Character.turns_appear (kept.coherent character (mem_of_character? found))
        scene.binder world).acts.events.quiet
    · exact .of_eq rfl
  · exact .of_eq rfl

theorem Scene.quiet_playSound (scene : Scene) (link : Nat) (world : World) :
    world.Quiet (scene.playSound link world).2 := by
  unfold playSound
  split
  · exact .of_eq rfl
  · exact (scene.sounds.sounds_play link world).events.quiet

theorem Scene.quiet_touch (scene : Scene) (id : CharacterId) (world : World) :
    world.Quiet (scene.touch id world).2.2 := by
  unfold touch
  split
  · split
    · rename_i character found
      exact (character.runs_touch world).acts.events.quiet
    · exact .of_eq rfl
  · exact .of_eq rfl

theorem Scene.quiet_pointerUpAt (scene : Scene) (x y : Single) (world : World) :
    world.Quiet (scene.pointerUpAt x y world).2.2 := by
  unfold pointerUpAt pointerUp
  split
  · split
    · exact scene.quiet_touch _ world
    · exact .of_eq rfl
  · exact .of_eq rfl

namespace Player

variable {player next : Player} {first : Scene} {done : List Task}

/-- Nothing ends while a scene is left and the splash is cleared. -/
theorem quiet_clear (player : Player) :
    player.world.Quiet player.leaveScene.clearSplash.world := by
  have left : player.world.Quiet player.leaveScene.world := by
    unfold leaveScene
    split
    · exact Scene.quiet_teardown _ _
    · exact .of_eq rfl
  have cleared : player.leaveScene.world.Quiet player.leaveScene.clearSplash.world := by
    unfold clearSplash
    refine .of_eq ?_
    cases player.leaveScene.splashSprite <;> cases player.leaveScene.splashPlayback <;> rfl
  exact left.trans cleared

theorem quiet_enterSpec (player : Player) (id : String) (spec : Story.Scene) :
    player.world.Quiet (player.enterSpec id spec).world :=
  player.quiet_clear.trans (Scene.quiet_enter id spec _ _ _)

theorem quiet_enterScene (player : Player) (id : String) :
    player.world.Quiet (player.enterScene id).2.world :=
  enterScene_cases (motive := fun next => player.world.Quiet next.world) (.of_eq rfl)
    fun spec _ => player.quiet_enterSpec id spec

theorem quiet_showSplash (player : Player) : player.world.Quiet player.showSplash.world := by
  rw [showSplash_eq]
  exact .of_eq rfl

theorem quiet_playSplash (player : Player) : player.world.Quiet player.playSplash.world := by
  refine World.Quiet.trans ?_ (World.quiet_report _ not_false)
  refine World.Quiet.trans ?_ (World.quiet_report _ not_false)
  exact .of_eq rfl

theorem quiet_start (player : Player) : player.world.Quiet player.start.2.world := by
  have shown := player.quiet_showSplash
  refine start_cases (motive := fun next => player.world.Quiet next.world) (fun _ => .of_eq rfl)
    (fun _ _ _ => shown.trans player.showSplash.quiet_playSplash) fun _ _ => ?_
  have skipped : player.world.Quiet player.skipSplash.world := shown.trans (.of_eq rfl)
  exact skipped.trans (player.skipSplash.quiet_enterScene _)

theorem quiet_askScene {change : Scene → World → Bool × Scene × World}
    (quiet : ∀ (scene : Scene) (world : World), world.Quiet (change scene world).2.2) :
    player.world.Quiet (player.askScene change).2.world := by
  unfold askScene
  split
  · exact quiet _ _
  · exact .of_eq rfl

theorem quiet_touchEach (ids : List CharacterId) :
    ∀ player : Player, player.world.Quiet (touchEach ids player).2.world := by
  induction ids with
  | nil => exact fun _ => .of_eq rfl
  | cons id rest ih =>
    intro player
    have touched : player.world.Quiet (player.touch id).2.world :=
      quiet_askScene fun scene world => scene.quiet_touch id world
    exact touched.trans (ih _)

theorem quiet_touchNamed (player : Player) (name : String) :
    player.world.Quiet (player.touchNamed name).2.world := by
  unfold touchNamed
  split
  · exact quiet_touchEach _ player
  · exact .of_eq rfl

/-- **Nothing ends outside of frames.** -/
theorem quiet_perform {operation : Operation} (other : ∀ span, operation ≠ .frame span) :
    player.world.Quiet (player.perform operation).world := by
  cases operation with
  | start => exact player.quiet_start
  | enterScene id => exact player.quiet_enterScene id
  | frame span => exact absurd rfl (other span)
  | touch character => exact quiet_askScene fun scene world => scene.quiet_touch character world
  | touchNamed name => exact player.quiet_touchNamed name
  | pointerUpAt x y => exact quiet_askScene fun scene world => scene.quiet_pointerUpAt x y world
  | render viewport => exact .of_eq rfl
  | destroy sprite => exact .of_eq rfl
  | shutdown => exact player.quiet_clear

/-! ### Frames -/

theorem Midway.quiet_dispatch (midway : player.Midway lost first done) (task : Task) :
    player.world.Quiet (player.dispatch task).world := by
  obtain ⟨loose, scene, shows, midway⟩ := midway
  unfold Player.dispatch withScene
  rw [shows.current]
  cases task with
  | playSound link => exact scene.quiet_playSound link _
  | startMotion tick motion => exact .of_eq rfl
  | retrigger id => exact Scene.quiet_retrigger midway.kept id

theorem Midway.quiet_dispatchEach {tasks : List Task} (midway : player.Midway lost first done)
    (settled : first.Settled) (fits : ∀ task ∈ tasks, first.Fits task) :
    player.world.Quiet (tasks.foldl Player.dispatch player).world := by
  induction tasks generalizing done player with
  | nil => exact .of_eq rfl
  | cons task rest ih =>
    obtain ⟨head, tail⟩ := List.forall_mem_cons.mp fits
    exact (midway.quiet_dispatch task).trans (ih (midway.dispatch settled head) tail)

theorem quiet_finish (player : Player) (playback : PlaybackId) :
    player.world.Quiet (player.finish playback).world := by
  unfold finish
  split
  · have ended : player.world.Quiet player.endSplash.world := World.quiet_report _ not_false
    exact leaveSplash_cases (motive := fun next => player.world.Quiet next.world) (fun _ => ended)
      fun spec _ => ended.trans (player.endSplash.quiet_enterSpec _ spec)
  · unfold withScene
    split
    · exact (SoundChain.sounds_finish _ _ _).events.quiet
    · exact .of_eq rfl

theorem quiet_finishEach (playbacks : List PlaybackId) :
    ∀ player : Player, player.world.Quiet (playbacks.foldl finish player).world := by
  induction playbacks with
  | nil => exact fun _ => .of_eq rfl
  | cons playback rest ih => exact fun player => (player.quiet_finish playback).trans (ih _)

theorem quiet_beforeMotions (kept : player.Kept lost) (span : Nat) :
    player.world.Quiet (player.beforeMotions span).world := by
  have done : player.world.Quiet (player.during span (player.due span)).world := by
    cases kept with
    | waiting waits plain =>
      unfold during
      rw [due_of_waits waits]
      exact .of_eq rfl
    | playing scene shows active kept =>
      have begins : (player.during span []).Midway lost scene [] :=
        midway_during shows active kept span fun _ none => nomatch none
      exact begins.quiet_dispatchEach kept.settled fun _ => kept.fits
  exact done.trans (quiet_finishEach _ _)

end Player

end Storybook
