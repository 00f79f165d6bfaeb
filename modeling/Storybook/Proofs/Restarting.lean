/-
**Starts that are made again.**

The start of a story fails where the sound of its splash is not loaded and its start scene is missing. The
picture of the splash stays shown then, and the player still counts as not started. If it is started once more,
a second picture is shown, and the first one is left behind: nobody owns it from then on.

* `Player.NeverRestarts`: no start is made while the picture of a start that has failed is shown;
* `Player.CanStart`, `Player.start_fails_iff`: which stories can be started;
* `Player.neverRestarts_of_canStart`: where no start fails, none is made again in this way, as in every story
  that was read (`Player.neverRestarts_of_starts`);
* `Player.kept_run_neverRestarts`, `Player.kept_run_untouched`: no sprite is left behind then, nor is anything
  when the player is shut down (`Player.isBare_shutdown`).
-/

import Storybook.Proofs.Stances

namespace Storybook.Player

variable {player next : Player} {operations : List Operation}

/-- While the player is not started, no picture of a splash is shown. -/
def Fresh (player : Player) : Prop :=
  player.phase = .loaded → player.splashSprite = none

/-- No start is made while the picture of a start that has failed is shown. -/
def NeverRestarts (player : Player) (operations : List Operation) : Prop :=
  ∀ before after, operations = before ++ .start :: after → (player.run before).Fresh

theorem NeverRestarts.rest {operation : Operation} (never : player.NeverRestarts (operation :: operations)) :
    (player.perform operation).NeverRestarts operations :=
  fun before after split => never (operation :: before) after (congrArg (operation :: ·) split)

/-! ### Starts that cannot fail -/

/-- The story has its start scene, or the sound of its splash is loaded. -/
def CanStart (player : Player) : Prop :=
  (player.document.scene? player.document.start).isSome = true ∨
    (player.world.resources.sound? player.document.splash.sound).isSome = true

theorem CanStart.same (can : player.CanStart) (same : player.Same next) : next.CanStart := by
  unfold CanStart
  rw [same.document, same.resources]
  exact can

/-- **Starts are in vain exactly where they cannot be made**, as long as none was made. -/
theorem start_fails_iff (loaded : player.phase = .loaded) :
    (∃ fault, player.start.1 = .error fault) ↔ ¬ player.CanStart := by
  unfold CanStart
  cases sound : player.world.resources.sound? player.document.splash.sound with
  | some clip => simp [start_splash loaded sound]
  | none =>
    cases found : player.document.scene? player.document.start with
    | none => simp [start_misses loaded sound found]
    | some spec => simp [start_enters loaded sound found]

namespace Fresh

theorem stays (fresh : player.Fresh) (stays : player.Stays next) : next.Fresh := by
  unfold Fresh
  rw [stays.phase, stays.sprite]
  exact fresh

theorem enterSpec (player : Player) (id : String) (spec : Story.Scene) : (player.enterSpec id spec).Fresh :=
  nofun

theorem start (fresh : player.Fresh) (can : player.CanStart) : player.start.2.Fresh := by
  refine start_cases (fun _ => fresh) (fun _ _ _ => nofun) fun loaded mute => ?_
  rcases can with starts | sound
  · obtain ⟨spec, found⟩ := Option.isSome_iff_exists.mp starts
    rw [← start_mute loaded mute, start_enters loaded mute found]
    exact enterSpec _ _ spec
  · rw [mute] at sound
    cases sound

theorem finish (fresh : player.Fresh) (playback : PlaybackId) : (player.finish playback).Fresh := by
  by_cases awaited : player.splashPlayback = some playback
  · unfold Player.finish
    rw [if_pos awaited]
    exact leaveSplash_cases (fun _ => fresh) fun spec _ => enterSpec _ _ spec
  · exact fresh.stays (stays_finish awaited)

theorem frame (fresh : player.Fresh) (span : Nat) : (player.frame span).Fresh := by
  have before : (player.beforeMotions span).Fresh :=
    List.foldlRecOn (player.ended span) Player.finish (fresh.stays (player.stays_beforePlaybacks span))
      fun _ fresh playback _ => fresh.finish playback
  rw [frame_eq]
  exact before.stays (stays_tick _ span)

theorem perform (fresh : player.Fresh) (can : player.CanStart) (operation : Operation) :
    (player.perform operation).Fresh := by
  cases operation with
  | start => exact fresh.start can
  | enterScene id => exact enterScene_cases fresh fun spec _ => enterSpec player id spec
  | frame span => exact fresh.frame span
  | touch character => exact fresh.stays (player.stays_touch character)
  | touchNamed name => exact fresh.stays (player.stays_touchNamed name)
  | pointerUpAt x y => exact fresh.stays (player.stays_pointerUpAt x y)
  | render viewport => exact fresh.stays (player.stays_render viewport)
  | destroy sprite => exact fresh.stays (player.stays_destroySprite sprite)
  | shutdown => exact fun _ => rfl

theorem run (operations : List Operation) :
    ∀ {player : Player}, player.Fresh → player.CanStart → (player.run operations).Fresh := by
  induction operations with
  | nil => exact fun fresh _ => fresh
  | cons operation rest ih =>
    intro player fresh can
    exact ih (fresh.perform can operation) (can.same (player.same_perform operation))

end Fresh

/-- **Where no start fails, none is made again** while a picture is shown. -/
theorem neverRestarts_of_canStart (operations : List Operation) (fresh : player.Fresh)
    (can : player.CanStart) : player.NeverRestarts operations :=
  fun before _ _ => fresh.run before can

/-- In a story that has its start scene no start is made again in vain. -/
theorem neverRestarts_of_starts {document : Story.Document}
    (starts : (document.scene? document.start).isSome = true) (resources : Asset.Resources)
    (audio : Audio) (viewport : Viewport) (options : SceneOptions) (operations : List Operation) :
    (ofResources document resources audio viewport options).NeverRestarts operations :=
  neverRestarts_of_canStart operations (fun _ => rfl) (Or.inl starts)

/-! ### Nothing is left behind -/

/-- Without such starts only those sprites are lost that are taken away from outside. -/
theorem NeverRestarts.losesOnly {lost : Losses} (never : player.NeverRestarts operations)
    (taken : ∀ sprite, .destroy sprite ∈ operations → lost.taken sprite) {before after : List Operation}
    {operation : Operation} (split : operations = before ++ operation :: after) :
    (player.run before).LosesOnly lost operation := by
  cases operation with
  | start =>
    intro loaded sprite shown
    cases (never before after split loaded).symm.trans shown
  | destroy sprite => exact taken sprite (split ▸ List.mem_append_right _ List.mem_cons_self)
  | _ => trivial

/-- **Without such starts no sprite is left behind**, be it that some are taken away from outside. -/
theorem kept_run_neverRestarts (never : player.NeverRestarts operations) (kept : player.Kept .outside) :
    (player.run operations).Kept .outside :=
  kept_run operations kept fun _ _ _ => never.losesOnly fun _ _ => trivial

/-- Nothing is left then when the player is shut down. -/
theorem isBare_shutdown (kept : player.Kept .outside) : player.shutdown.world.IsBare :=
  isBare_clear (waits_leaveScene kept) fun _ => not_false

/-- If none is taken away from outside, no sprite is lost at all. -/
theorem kept_run_untouched (never : player.NeverRestarts operations)
    (inside : ∀ sprite, .destroy sprite ∉ operations) (kept : player.Kept .none) :
    (player.run operations).Kept .none :=
  kept_run operations kept fun _ _ _ => never.losesOnly inside

end Storybook.Player
