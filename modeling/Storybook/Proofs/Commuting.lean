/-
**The motions of a frame commute.**

The motions of a kind change one measure of their sprites: gravity the height of the place, drift its
other coordinate, spin the rotation and fade the alpha. What a motion does in a frame depends on this
measure, on the extent of its sprite and on the floor, and no motion of another kind changes any of
these. So the order of registration does not matter, unless two motions of one kind are on one sprite.

* `MotionKind.measure`, `MotionKind.adjust`: the measure that the motions of a kind change;
* `Motion.Stride`, `Motion.step_eq`: a motion changes this measure of its sprite only;
* `Motion.stride?_step`: it does the same after a motion that is apart from it;
* `Animator.steps_perm`: all motions, in two orders.
-/

import Storybook.Proofs.Abiding

namespace Storybook

/-! ### What the motions of a kind change -/

namespace MotionKind

variable {kind other : MotionKind} {change reshape : Single → Single} {sprite : Sprite}

/-- The measure of a sprite that the motions of a kind change. -/
def measure : MotionKind → Sprite → Single
  | gravity, sprite => sprite.place.y
  | drift, sprite => sprite.place.x
  | spin, sprite => sprite.rotation
  | fade, sprite => sprite.alpha

/-- Changes this measure of a sprite, and nothing else. -/
def adjust (change : Single → Single) : MotionKind → Sprite → Sprite
  | gravity, sprite => { sprite with place := ⟨sprite.place.x, change sprite.place.y⟩ }
  | drift, sprite => { sprite with place := ⟨change sprite.place.x, sprite.place.y⟩ }
  | spin, sprite => { sprite with rotation := change sprite.rotation }
  | fade, sprite => { sprite with alpha := change sprite.alpha }

@[simp]
theorem height_adjust : (kind.adjust change sprite).height = sprite.height := by
  cases kind <;> rfl

/-- The measures of different kinds are different ones. -/
theorem measure_adjust_of_ne (different : kind ≠ other) :
    kind.measure (other.adjust change sprite) = kind.measure sprite := by
  cases kind <;> cases other <;> first | rfl | exact absurd rfl different

theorem adjust_comm (different : kind ≠ other) :
    kind.adjust change (other.adjust reshape sprite) =
      other.adjust reshape (kind.adjust change sprite) := by
  cases kind <;> cases other <;> first | rfl | exact absurd rfl different

end MotionKind

/-! ### Stages -/

namespace Stage

variable {stage : Stage} {id other : SpriteId}

/-- Changes of different sprites commute, and so do changes that commute on each sprite. -/
theorem modify_comm {change reshape : Sprite → Sprite}
    (apart : id = other → ∀ sprite, change (reshape sprite) = reshape (change sprite)) :
    (stage.modify id change).modify other reshape =
      (stage.modify other reshape).modify id change := by
  unfold modify
  simp only [List.map_map, mk.injEq, true_and, and_true]
  apply List.map_congr_left
  rintro ⟨key, sprite⟩ _
  by_cases first : key = id
  · subst first
    by_cases second : key = other
    · subst second
      simp [apart rfl sprite]
    · simp [second]
  · simp [first]

theorem detach_comm : ((stage.detach id).2.detach other).2 = ((stage.detach other).2.detach id).2 := by
  unfold detach
  simp only [List.filter_filter, mk.injEq, true_and, and_true]
  apply List.filter_congr
  intro drawn _
  exact Bool.and_comm _ _

end Stage

/-! ### One motion -/

namespace Motion

/-- What a motion does in a frame: what becomes of it, how it changes its sprite, and whether it has
come to its end. -/
structure Stride where
  motion : Motion
  change : Single → Single
  finished : Bool

/-- What a motion does with a sprite of a given measure over a floor. -/
def stride (delta floor measure : Single) : Motion → Stride
  | gravity id strength velocity =>
    let fallen := fall strength velocity delta floor measure
    ⟨gravity id strength fallen.1, fun _ => fallen.2, false⟩
  | drift id velocity => ⟨drift id velocity, (· + velocity * delta), false⟩
  | spin id speed => ⟨spin id speed, (· + speed * delta), false⟩
  | fade id speed =>
    let alpha := measure - speed * delta
    if 0 < alpha then
      ⟨fade id speed, fun _ => alpha, false⟩
    else
      ⟨fade id speed, fun _ => 0, true⟩

/-- What a motion does on a stage, if its sprite is there. -/
def stride? (motion : Motion) (stage : Stage) (delta : Single) : Option Stride :=
  (stage.find? motion.sprite).map fun sprite =>
    motion.stride delta (stage.viewport.height - sprite.height) (motion.kind.measure sprite)

/-- The stage after what a motion does. -/
def leave (motion : Motion) (stage : Stage) (stride : Stride) : Stage :=
  let changed := stage.modify motion.sprite (motion.kind.adjust stride.change)
  if stride.finished then (changed.detach motion.sprite).2 else changed

variable {motion first second : Motion} {stage : Stage} {delta : Single}

/-- **A motion changes the measure of its kind only**, and of its own sprite only. -/
theorem step_eq (motion : Motion) (stage : Stage) (delta : Single) : motion.step stage delta =
    match motion.stride? stage delta with
    | none => ⟨motion, stage, true⟩
    | some stride => ⟨stride.motion, motion.leave stage stride, stride.finished⟩ := by
  unfold step stride?
  cases found : stage.find? motion.sprite with
  | none => rfl
  | some sprite =>
    cases motion with
    | fade id speed =>
      by_cases visible : 0 < sprite.alpha - speed * delta <;>
        simp only [Option.map_some, stride, kind, MotionKind.measure, visible, if_true, if_false] <;> rfl
    | _ => rfl

/-- Two motions are of different kinds or on different sprites. -/
def Apart (first second : Motion) : Prop :=
  first.kind = second.kind → first.sprite ≠ second.sprite

instance : DecidableRel Apart :=
  fun first second => inferInstanceAs (Decidable (first.kind = second.kind → _))

theorem Apart.symm (apart : first.Apart second) : second.Apart first :=
  fun same equal => apart same.symm equal.symm

/-- A motion finds its sprite as it was, but for the measures of other kinds, after a motion that is
apart from it. -/
theorem stride?_leave (apart : first.Apart second) (stride : Stride) :
    second.stride? (first.leave stage stride) delta = second.stride? stage delta := by
  have viewport : (first.leave stage stride).viewport = stage.viewport := by
    unfold leave
    dsimp only
    split <;> rfl
  have found : (first.leave stage stride).find? second.sprite =
      (stage.modify first.sprite (first.kind.adjust stride.change)).find? second.sprite := by
    unfold leave
    dsimp only
    split <;> rfl
  unfold stride?
  rw [found, viewport, Stage.find?_modify, Option.map_map]
  congr 1
  funext sprite
  by_cases same : second.sprite = first.sprite
  · have different : second.kind ≠ first.kind := fun equal => apart.symm equal same
    simp [same, MotionKind.measure_adjust_of_ne different]
  · simp [same]

theorem stride?_step (apart : first.Apart second) :
    second.stride? (first.step stage delta).stage delta = second.stride? stage delta := by
  rw [step_eq]
  cases first.stride? stage delta with
  | none => rfl
  | some stride => exact stride?_leave apart stride

/-- What becomes of a motion, and whether it ends, does not depend on one that is apart from it. -/
theorem outcome_step (apart : first.Apart second) (stage : Stage) (delta : Single) :
    let later := second.step (first.step stage delta).stage delta
    later.motion = (second.step stage delta).motion ∧
      later.finished = (second.step stage delta).finished := by
  dsimp only
  rw [step_eq second, step_eq second stage, stride?_step apart]
  cases second.stride? stage delta <;> exact ⟨rfl, rfl⟩

theorem leave_comm (apart : first.Apart second) (stride other : Stride) :
    second.leave (first.leave stage stride) other = first.leave (second.leave stage other) stride := by
  have changes : ∀ stage : Stage,
      (stage.modify first.sprite (first.kind.adjust stride.change)).modify second.sprite
          (second.kind.adjust other.change) =
        (stage.modify second.sprite (second.kind.adjust other.change)).modify first.sprite
          (first.kind.adjust stride.change) := by
    intro stage
    apply Stage.modify_comm
    intro same sprite
    exact MotionKind.adjust_comm fun equal => apart equal same
  unfold leave
  dsimp only
  -- What is drawn and how the sprites look are apart: a detachment passes a change by.
  split <;> split
  · exact Stage.detach_comm.trans (congrArg (fun stage : Stage => ((stage.detach _).2.detach _).2) (changes stage))
  · exact congrArg (fun stage : Stage => (stage.detach _).2) (changes stage)
  · exact congrArg (fun stage : Stage => (stage.detach _).2) (changes stage)
  · exact changes stage

/-- **Motions that are apart commute.** -/
theorem step_comm (apart : first.Apart second) :
    (second.step (first.step stage delta).stage delta).stage =
      (first.step (second.step stage delta).stage delta).stage := by
  rw [step_eq second, stride?_step apart, step_eq first (second.step stage delta).stage,
    stride?_step apart.symm, step_eq first, step_eq second stage]
  cases first.stride? stage delta with
  | none => cases second.stride? stage delta <;> rfl
  | some stride =>
    cases second.stride? stage delta with
    | none => rfl
    | some other => exact leave_comm apart stride other

/-- A motion changes nothing of the sprites but the measure of its kind. -/
theorem exists_adjust_step (motion : Motion) : ∃ change : Single → Single,
    (motion.step stage delta).stage.sprites =
      (stage.modify motion.sprite (motion.kind.adjust change)).sprites := by
  rw [step_eq]
  cases motion.stride? stage delta with
  | none =>
    have still : motion.kind.adjust id = id := by
      funext sprite
      cases motion.kind <;> rfl
    refine ⟨id, ?_⟩
    simp [still, Stage.modify]
  | some stride =>
    refine ⟨stride.change, ?_⟩
    unfold leave
    dsimp only
    split <;> rfl

end Motion

/-! ### All motions -/

namespace Animator

variable {delta : Single} {stage : Stage}

/-- Two frames leave the same stage, and of the same motions the same ones go on and the same ones are
finished, in whatever order. -/
structure Frame.Alike (first second : Frame) : Prop where
  stage : first.stage = second.stage
  running : first.running.Perm second.running
  finished : first.finished.Perm second.finished

theorem Frame.Alike.refl (frame : Frame) : frame.Alike frame :=
  ⟨rfl, .refl _, .refl _⟩

theorem Frame.Alike.trans {first second third : Frame} (left : first.Alike second)
    (right : second.Alike third) : first.Alike third where
  stage := left.stage.trans right.stage
  running := left.running.trans right.running
  finished := left.finished.trans right.finished

/-- Adds what has become of a motion to a frame. -/
def Frame.record (id : TickId) (outcome : Motion.Outcome) (frame : Frame) : Frame :=
  if outcome.finished then
    { frame with finished := (id, outcome.motion) :: frame.finished }
  else
    { frame with running := (id, outcome.motion) :: frame.running }

theorem steps_cons (entry : TickId × Motion) (rest : List (TickId × Motion)) :
    steps delta (entry :: rest) stage =
      (steps delta rest (entry.2.step stage delta).stage).record entry.1 (entry.2.step stage delta) :=
  rfl

/-- The motions of a list step one after the other: the later ones on the stage that the earlier ones
leave. -/
theorem steps_append (first rest : List (TickId × Motion)) :
    ∀ stage : Stage, steps delta (first ++ rest) stage =
      let before := steps delta first stage
      let after := steps delta rest before.stage
      ⟨after.stage, before.running ++ after.running, before.finished ++ after.finished⟩ := by
  induction first with
  | nil => exact fun stage => rfl
  | cons entry others ih =>
    intro stage
    rw [List.cons_append, steps_cons, ih, steps_cons]
    unfold Frame.record
    split <;> rfl

/-- Nothing of a frame but its lists depends on the outcomes that are added to it, and only what they
say of the motion counts. -/
theorem Frame.record_congr {id : TickId} {outcome other : Motion.Outcome} (frame : Frame)
    (motion : outcome.motion = other.motion) (finished : outcome.finished = other.finished) :
    frame.record id outcome = frame.record id other := by
  unfold record
  rw [motion, finished]

theorem Frame.Alike.record {first second : Frame} (alike : first.Alike second) (id : TickId)
    (outcome : Motion.Outcome) : (first.record id outcome).Alike (second.record id outcome) := by
  unfold Frame.record
  split
  · exact ⟨alike.stage, alike.running, alike.finished.cons _⟩
  · exact ⟨alike.stage, alike.running.cons _, alike.finished⟩

/-- Two outcomes may be added in either order. -/
theorem Frame.alike_record_swap (id other : TickId) (outcome following : Motion.Outcome)
    (frame : Frame) :
    ((frame.record other following).record id outcome).Alike
      ((frame.record id outcome).record other following) := by
  unfold Frame.record
  by_cases first : outcome.finished <;> by_cases second : following.finished <;>
    simp only [first, second, if_true]
  · exact ⟨rfl, .refl _, .swap _ _ _⟩
  · exact .refl _
  · exact .refl _
  · exact ⟨rfl, .swap _ _ _, .refl _⟩

/-- **The order of the motions does not matter**, unless two of one kind are on one sprite. -/
theorem alike_steps {first second : List (TickId × Motion)} (same : first.Perm second)
    (apart : first.Pairwise fun one other => one.2.Apart other.2) :
    ∀ stage : Stage, (steps delta first stage).Alike (steps delta second stage) := by
  induction same with
  | nil => exact fun stage => .refl _
  | cons entry _ ih =>
    intro stage
    rw [steps_cons, steps_cons]
    exact (ih (List.pairwise_cons.mp apart).2 _).record _ _
  | swap entry other rest =>
    intro stage
    have pair : other.2.Apart entry.2 := (List.pairwise_cons.mp apart).1 entry (List.mem_cons_self ..)
    obtain ⟨motion, finished⟩ := Motion.outcome_step pair stage delta
    obtain ⟨motion', finished'⟩ := Motion.outcome_step pair.symm stage delta
    simp only [steps_cons]
    rw [Motion.step_comm pair, Frame.record_congr _ motion finished]
    rw [← Frame.record_congr _ motion' finished']
    exact Frame.alike_record_swap _ _ _ _ _
  | trans left _ before after =>
    intro stage
    have kept := (left.pairwise_iff fun pair => pair.symm).mp apart
    exact (before apart stage).trans (after kept stage)

/-- **The motions of a frame commute.** Of the same motions, registered in two orders, the frame leaves
the same stage, ends the same ones and lets the same ones go on, with the same velocities, unless two
motions of one kind are on one sprite. What a motion changes on a stage is only the measure of its kind. -/
theorem tick_reordered {first second : Animator} (same : first.entries.Perm second.entries)
    (apart : first.entries.Pairwise fun one other => one.2.Apart other.2) (stage : Stage)
    (delta : Single) :
    (first.tick stage delta).2.2 = (second.tick stage delta).2.2 ∧
      (first.tick stage delta).1.Perm (second.tick stage delta).1 ∧
        (first.tick stage delta).2.1.entries.Perm (second.tick stage delta).2.1.entries ∧
          ∀ motion : Motion, ∃ change : Single → Single,
            (motion.step stage delta).stage.sprites =
              (stage.modify motion.sprite (motion.kind.adjust change)).sprites := by
  have alike : (steps delta first.entries stage).Alike (steps delta second.entries stage) :=
    alike_steps same apart stage
  exact ⟨alike.stage, alike.finished, alike.running, fun motion => motion.exists_adjust_step⟩

/-- A stage with a kite. -/
def kiteStage : Stage where
  issued := 1
  sprites := [(⟨1⟩, .ofTexture "kite.png" ⟨20, 50⟩)]
  order := [⟨1⟩]
  viewport := ⟨200, 200⟩

/-- The kite falls, drifts, spins and fades. -/
def kite : Animator where
  issued := 4
  entries := [(⟨1⟩, .gravity ⟨1⟩ 1 0), (⟨2⟩, .drift ⟨1⟩ 2), (⟨3⟩, .spin ⟨1⟩ 0.5), (⟨4⟩, .fade ⟨1⟩ 1)]

/-- In the reverse order, too, it has faded away after one frame, and its fall goes on at the same
velocity. -/
theorem reordered_kite :
    (kite.entries.Perm kite.entries.reverse ∧
      kite.entries.Pairwise fun one other => one.2.Apart other.2) ∧
    let back : Animator := { kite with entries := kite.entries.reverse }
    (kite.tick kiteStage 1).2.2 = (back.tick kiteStage 1).2.2 ∧
      (kite.tick kiteStage 1).1.Perm (back.tick kiteStage 1).1 ∧
        (back.tick kiteStage 1).1 = [(⟨4⟩, .fade ⟨1⟩ 1)] ∧
          (⟨1⟩, .gravity ⟨1⟩ 1 1) ∈ (back.tick kiteStage 1).2.1.entries := by
  have same : kite.entries.Perm kite.entries.reverse := (List.reverse_perm _).symm
  have apart : kite.entries.Pairwise fun one other => one.2.Apart other.2 := by decide
  let back : Animator := { kite with entries := kite.entries.reverse }
  have reordered := tick_reordered (show kite.entries.Perm back.entries from same) apart kiteStage 1
  exact ⟨⟨same, apart⟩, reordered.1, reordered.2.1, by decide +kernel, by decide +kernel⟩

end Animator

end Storybook
