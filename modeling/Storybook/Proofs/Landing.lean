/-
**Nothing falls through the floor.**

A fall that would carry a sprite below the floor sets it down there and comes to rest. Where the floor is
depends on the viewport and on the extent of the sprite, which anything may change between two frames. But
in a frame nothing changes them, and no other motion changes how high a sprite stands. So at the end of a
frame every sprite that falls is not below the floor as it is then.

* `Single.lt_irrefl`: no number is less than itself, not even one that is none;
* `Stage.HoldsUp`: a sprite is not below its floor;
* `Motion.holdsUp_fall`, `Motion.holdsUp_step`: what one motion does about that;
* `Animator.holdsUp_steps`, `Animator.mem_running_gravity`: all motions;
* `Player.lands`: every frame of every play.
-/

import Storybook.Proofs.Commuting
import Storybook.Proofs.Holding.Players

namespace Storybook

/-! ### The order of numbers -/

namespace Single

theorem compare_self (x : Float.Model.UnpackedFloat) : x.compare x ≠ some .lt := by
  cases x with
  | infinity sign => cases sign <;> decide
  | notANumber => nofun
  | zero sign => nofun
  | finite sign significand exponent positive =>
    have same : (compare exponent exponent).then (compare significand significand) = .eq := by
      rw [Std.compare_self, Std.compare_self]
      rfl
    cases sign with
    | negative =>
      show some ((compare exponent exponent).then (compare significand significand)).swap ≠ _
      rw [same]
      decide
    | positive =>
      show some ((compare exponent exponent).then (compare significand significand)) ≠ _
      rw [same]
      decide

/-- **No number is less than itself**, not even one that is none. -/
theorem lt_irrefl (x : Single) : ¬ x < x := by
  intro less
  have less : x.toModel.lt x.toModel = true := of_decide_eq_true less
  exact compare_self _ (eq_of_beq less)

end Single

/-! ### Floors -/

namespace Stage

/-- The height at which a sprite stands on the bottom of the visible part. -/
def floor (stage : Stage) (sprite : Sprite) : Single :=
  stage.viewport.height - sprite.height

/-- **A sprite is not below its floor**, if it is there. -/
def HoldsUp (stage : Stage) (id : SpriteId) : Prop :=
  ∀ sprite, stage.find? id = some sprite → ¬ stage.floor sprite < sprite.place.y

end Stage

/-! ### One motion -/

namespace Motion

variable {motion : Motion} {stage : Stage} {delta : Single} {id : SpriteId}

theorem viewport_step (motion : Motion) (stage : Stage) (delta : Single) :
    (motion.step stage delta).stage.viewport = stage.viewport := by
  rw [step_eq]
  cases motion.stride? stage delta with
  | none => rfl
  | some stride =>
    unfold leave
    dsimp only
    split <;> rfl

/-- A motion leaves every sprite as it was, but for the measure of its kind on its own sprite. -/
theorem exists_find?_step (motion : Motion) (stage : Stage) (delta : Single) :
    ∃ change : Single → Single, ∀ id, (motion.step stage delta).stage.find? id =
      (stage.find? id).map fun sprite =>
        if id = motion.sprite then motion.kind.adjust change sprite else sprite := by
  obtain ⟨change, sprites⟩ : ∃ change : Single → Single, (motion.step stage delta).stage.sprites =
      (stage.modify motion.sprite (motion.kind.adjust change)).sprites := motion.exists_adjust_step
  refine ⟨change, fun id => ?_⟩
  rw [← Stage.find?_modify]
  exact congrArg (List.lookup id) sprites

/-- A fall ends on the floor, or above it. -/
theorem not_floor_lt_fall (strength velocity delta floor height : Single) :
    ¬ floor < (fall strength velocity delta floor height).2 := by
  unfold fall
  dsimp only
  split
  · exact Single.lt_irrefl floor
  · assumption

/-- What becomes of a sprite that falls. -/
theorem find?_step_gravity {sprite : Sprite} (found : stage.find? id = some sprite)
    (strength velocity delta : Single) :
    ((gravity id strength velocity).step stage delta).stage.find? id = some { sprite with
      place := ⟨sprite.place.x,
        (fall strength velocity delta (stage.floor sprite) sprite.place.y).2⟩ } := by
  unfold step
  dsimp only [Motion.sprite]
  rw [found]
  dsimp only
  rw [Stage.find?_modify, found, Option.map_some, if_pos rfl]
  rfl

/-- **A fall holds its sprite up.** -/
theorem holdsUp_fall (id : SpriteId) (strength velocity : Single) (stage : Stage) (delta : Single) :
    ((gravity id strength velocity).step stage delta).stage.HoldsUp id := by
  intro sprite found
  cases before : stage.find? id with
  | none =>
    obtain ⟨change, same⟩ := exists_find?_step (gravity id strength velocity) stage delta
    rw [same, before] at found
    cases found
  | some old =>
    rw [find?_step_gravity before strength velocity delta] at found
    cases found
    unfold Stage.floor
    rw [viewport_step]
    exact not_floor_lt_fall _ _ _ _ _

/-- **A sprite that is not below its floor stays so, whatever motion steps.** Motions of other kinds change
neither its height nor its extent. -/
theorem holdsUp_step (holds : stage.HoldsUp id) (motion : Motion) (delta : Single) :
    (motion.step stage delta).stage.HoldsUp id := by
  by_cases falls : motion.kind = .gravity ∧ motion.sprite = id
  · obtain ⟨kind, rfl⟩ := falls
    cases motion with
    | gravity id strength velocity => exact holdsUp_fall id strength velocity stage delta
    | _ => cases kind
  · intro sprite found
    obtain ⟨change, same⟩ := exists_find?_step motion stage delta
    rw [same] at found
    obtain ⟨old, there, rfl⟩ := Option.map_eq_some_iff.mp found
    unfold Stage.floor
    rw [viewport_step]
    split
    · rename_i mine
      have other : MotionKind.gravity ≠ motion.kind := fun kind => falls ⟨kind.symm, mine.symm⟩
      have height : (motion.kind.adjust change old).place.y = old.place.y :=
        MotionKind.measure_adjust_of_ne other
      rw [MotionKind.height_adjust, height]
      exact holds old there
    · exact holds old there

end Motion

/-! ### All motions -/

namespace Animator

variable {delta : Single} {entries : List (TickId × Motion)} {stage : Stage} {id : SpriteId}

/-- A sprite that is not below its floor stays so in a frame. -/
theorem holdsUp_steps (holds : stage.HoldsUp id) : (steps delta entries stage).stage.HoldsUp id := by
  induction entries generalizing stage with
  | nil => exact holds
  | cons entry rest ih =>
    have later := ih (Motion.holdsUp_step holds entry.2 delta)
    rw [steps_cons]
    unfold Frame.record
    split <;> exact later

/-- **A frame holds up every sprite that falls in it.** -/
theorem holdsUp_of_mem {tick : TickId} {strength velocity : Single}
    (member : (tick, .gravity id strength velocity) ∈ entries) :
    (steps delta entries stage).stage.HoldsUp id := by
  obtain ⟨first, rest, rfl⟩ := List.append_of_mem member
  rw [steps_append]
  dsimp only
  rw [steps_cons]
  have landed : (steps delta rest _).stage.HoldsUp id := holdsUp_steps
    (Motion.holdsUp_fall id strength velocity (steps delta first stage).stage delta)
  unfold Frame.record
  split <;> exact landed

/-- A fall whose sprite is there goes on, with the velocity that it has gained, or at rest on the floor. -/
theorem mem_running_gravity {first : List (TickId × Motion)} {sprite : Sprite}
    (found : (steps delta first stage).stage.find? id = some sprite) (tick : TickId)
    (strength velocity : Single) (rest : List (TickId × Motion)) :
    (tick, .gravity id strength (Motion.fall strength velocity delta
        ((steps delta first stage).stage.floor sprite) sprite.place.y).1) ∈
      (steps delta (first ++ (tick, .gravity id strength velocity) :: rest) stage).running := by
  rw [steps_append]
  refine List.mem_append_right _ ?_
  rw [steps_cons]
  have step : (Motion.gravity id strength velocity).step (steps delta first stage).stage delta =
      ⟨.gravity id strength (Motion.fall strength velocity delta
        ((steps delta first stage).stage.floor sprite) sprite.place.y).1,
        ((Motion.gravity id strength velocity).step (steps delta first stage).stage delta).stage,
        false⟩ := by
    unfold Motion.step
    dsimp only [Motion.sprite]
    rw [found]
    rfl
  rw [step]
  exact List.mem_cons_self

end Animator

/-! ### Every frame -/

namespace Player

/-- **Nothing falls through the floor.** Whatever was done with a player, after a frame no sprite that
falls is below the floor as it is then. And whenever a motion is about to carry its sprite below the floor,
on the stage that the motions before it leave, it sets it down there and is at rest after the frame; else
it goes on with the velocity that it has gained. -/
theorem lands (player : Player) (operations : List Operation) (span : Nat) :
    let ready := ((player.run operations).beforeMotions span).world
    let after := (player.run (operations ++ [.frame span])).world
    (∀ tick id strength velocity sprite,
      (tick, .gravity id strength velocity) ∈ after.animator.entries →
        after.stage.find? id = some sprite →
          ¬ after.stage.viewport.height - sprite.height < sprite.place.y) ∧
    ∀ first tick id strength velocity rest,
      ready.animator.entries = first ++ (tick, .gravity id strength velocity) :: rest →
        let met := (Animator.steps (Span.frames span) first ready.stage).stage
        ∀ sprite, met.find? id = some sprite →
          let left := ((Motion.gravity id strength velocity).step met (Span.frames span)).stage
          let gained := velocity + strength * Span.frames span
          let floor := met.viewport.height - sprite.height
          if floor < sprite.place.y + gained * Span.frames span then
            (tick, .gravity id strength 0) ∈ after.animator.entries ∧
              left.find? id = some { sprite with place := ⟨sprite.place.x, floor⟩ }
          else
            (tick, .gravity id strength gained) ∈ after.animator.entries ∧
              left.find? id = some { sprite with
                place := ⟨sprite.place.x, sprite.place.y + gained * Span.frames span⟩ } := by
  intro ready after
  have moved : after = ready.tick span := by
    show (player.run (operations ++ [.frame span])).world = _
    unfold run
    rw [List.foldl_concat]
    rfl
  have running : after.animator.entries =
      (Animator.steps (Span.frames span) ready.animator.entries ready.stage).running := by
    rw [moved, World.entries_tick]
  have stage : after.stage =
      (Animator.steps (Span.frames span) ready.animator.entries ready.stage).stage := by
    rw [moved, World.tick_eq]
  constructor
  · intro tick id strength velocity sprite member found
    rw [running] at member
    rw [stage] at found ⊢
    obtain ⟨old, before, _, same, _⟩ := Animator.mem_running member
    obtain ⟨number, motion⟩ := old
    -- only the velocity of a fall has changed in the frame
    cases motion with
    | gravity other strength velocity =>
      cases Motion.sprite_of_atRest same
      exact Animator.holdsUp_of_mem before sprite found
    | _ => cases same
  · intro first tick id strength velocity rest split met sprite found left gained floor
    have goesOn := Animator.mem_running_gravity found tick strength velocity rest
    have fallen := Motion.find?_step_gravity found strength velocity (Span.frames span)
    rw [← split, ← running] at goesOn
    dsimp only [Motion.fall] at goesOn fallen
    by_cases below : floor < sprite.place.y + gained * Span.frames span
    · have clamped : met.floor sprite < sprite.place.y + gained * Span.frames span := below
      rw [if_pos below]
      rw [if_pos clamped] at goesOn fallen
      exact ⟨goesOn, fallen⟩
    · have falling : ¬ met.floor sprite < sprite.place.y + gained * Span.frames span := below
      rw [if_neg below]
      rw [if_neg falling] at goesOn fallen
      exact ⟨goesOn, fallen⟩

end Player

end Storybook
