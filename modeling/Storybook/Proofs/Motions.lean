/-
**Motions, frame by frame.**

A frame never changes what a motion is: only the velocity of a fall grows. It keeps every sprite, and
it ends a motion in two cases only, when its sprite is gone or when its sprite has faded away.

* `Motion.atRest`: a motion without the velocity that it has gained;
* `Stage.Thins`: what a frame leaves alone on the stage;
* `Animator.mem_running`, `Animator.mem_finished`, `Animator.finished_of_gone`: the motions that go
  on and that end.
-/

import Storybook.Stage.Animator
import Storybook.Proofs.Sprites

namespace Storybook

namespace Motion

/-- A motion without the velocity that it has gained. -/
def atRest : Motion → Motion
  | gravity sprite strength _ => gravity sprite strength 0
  | motion => motion

@[simp]
theorem sprite_atRest (motion : Motion) : motion.atRest.sprite = motion.sprite := by
  cases motion <;> rfl

@[simp]
theorem kind_atRest (motion : Motion) : motion.atRest.kind = motion.kind := by
  cases motion <;> rfl

theorem sprite_of_atRest {first second : Motion} (same : first.atRest = second.atRest) :
    first.sprite = second.sprite := by
  rw [← sprite_atRest first, same, sprite_atRest]

theorem kind_of_atRest {first second : Motion} (same : first.atRest = second.atRest) :
    first.kind = second.kind := by
  rw [← kind_atRest first, same, kind_atRest]

end Motion

namespace Stage

/-- The two stages have the same sprites, and some that are drawn before are drawn no longer. -/
structure Thins (before after : Stage) : Prop where
  issued : after.issued = before.issued
  keys : after.keys = before.keys
  order : after.order.Sublist before.order

theorem Thins.refl (stage : Stage) : stage.Thins stage :=
  ⟨rfl, rfl, .refl _⟩

theorem Thins.trans {first second third : Stage} (left : first.Thins second)
    (right : second.Thins third) : first.Thins third :=
  ⟨right.issued.trans left.issued, right.keys.trans left.keys, right.order.trans left.order⟩

theorem Keeps.thins {before after : Stage} (keeps : before.Keeps after) : before.Thins after :=
  ⟨keeps.issued, keeps.keys, keeps.order ▸ .refl _⟩

theorem thins_detach (stage : Stage) (id : SpriteId) : stage.Thins (stage.detach id).2 :=
  ⟨rfl, rfl, List.filter_sublist⟩

theorem Valid.thin {before after : Stage} (valid : before.Valid) (thins : before.Thins after) :
    after.Valid := by
  refine ⟨?_, ?_, ?_, valid.once.sublist thins.order⟩
  · rw [thins.keys, thins.issued]
    exact valid.issued
  · rw [thins.keys]
    exact valid.distinct
  · intro id drawn
    rw [thins.keys]
    exact valid.drawn id (thins.order.subset drawn)

end Stage

/-! ### One motion -/

namespace Motion

variable (motion : Motion) (stage : Stage) (delta : Single)

theorem find?_eq_none_iff {stage : Stage} {id : SpriteId} :
    stage.find? id = none ↔ id ∉ stage.keys := by
  rw [← Stage.isLive_iff, Stage.isLive, Option.not_isSome_iff_eq_none]

theorem atRest_step : (motion.step stage delta).motion.atRest = motion.atRest := by
  unfold step
  split
  · rfl
  · cases motion with
    | fade id speed =>
      dsimp only
      split <;> rfl
    | _ => rfl

theorem thins_step : stage.Thins (motion.step stage delta).stage := by
  unfold step
  split
  · exact .refl _
  · cases motion with
    | fade id speed =>
      dsimp only
      split <;> dsimp only
      · exact (stage.keeps_modify id _).thins
      · exact (stage.keeps_modify id _).thins.trans (Stage.thins_detach _ id)
    | _ =>
      dsimp only
      exact (stage.keeps_modify _ _).thins

/-- A motion whose sprite is gone ends as it is, and does nothing. -/
theorem step_of_gone (gone : motion.sprite ∉ stage.keys) :
    motion.step stage delta = ⟨motion, stage, true⟩ := by
  unfold step
  rw [find?_eq_none_iff.mpr gone]

/-- While its sprite is there, only a fade ends. -/
theorem kind_of_finished (finished : (motion.step stage delta).finished = true)
    (live : motion.sprite ∈ stage.keys) : motion.kind = .fade := by
  unfold step at finished
  split at finished
  · rename_i gone
    exact absurd live (find?_eq_none_iff.mp gone)
  · cases motion with
    | fade id speed => rfl
    | _ => cases finished

end Motion

/-! ### All motions -/

namespace Animator

theorem isRegistered_iff {animator : Animator} {tick : TickId} :
    animator.isRegistered tick = true ↔ ∃ entry ∈ animator.entries, entry.1 = tick := by
  simp [isRegistered]

theorem isRegistered_iff_mem {animator : Animator} {tick : TickId} :
    animator.isRegistered tick = true ↔ tick ∈ animator.entries.map Prod.fst :=
  isRegistered_iff.trans List.mem_map.symm

theorem mem_deregister {animator : Animator} {tick : TickId} {entry : TickId × Motion} :
    entry ∈ (animator.deregister tick).2.entries ↔ entry ∈ animator.entries ∧ tick ≠ entry.1 := by
  simp only [deregister, List.mem_filter, decide_eq_true_eq, ne_comm]

theorem sublist_deregister (animator : Animator) (tick : TickId) :
    (animator.deregister tick).2.entries.Sublist animator.entries :=
  List.filter_sublist

variable {delta : Single} {entries : List (TickId × Motion)} {stage : Stage}

theorem thins_steps : stage.Thins (steps delta entries stage).stage := by
  induction entries generalizing stage with
  | nil => exact .refl _
  | cons entry rest ih =>
    have frame : stage.Thins (steps delta rest (entry.2.step stage delta).stage).stage :=
      (entry.2.thins_step stage delta).trans ih
    unfold steps
    dsimp only
    split <;> exact frame

/-- The motions that go on and those that are finished are those that were registered, each under its
handle. -/
theorem perm_steps : ((steps delta entries stage).running.map Prod.fst ++
    (steps delta entries stage).finished.map Prod.fst).Perm (entries.map Prod.fst) := by
  induction entries generalizing stage with
  | nil => exact .refl _
  | cons entry rest ih =>
    unfold steps
    dsimp only
    split
    · rw [List.map_cons, List.map_cons]
      exact List.perm_middle.trans (ih.cons entry.1)
    · rw [List.map_cons, List.map_cons]
      exact ih.cons entry.1

/-- The motions that go on do so in their order. -/
theorem sublist_running :
    ((steps delta entries stage).running.map Prod.fst).Sublist (entries.map Prod.fst) := by
  induction entries generalizing stage with
  | nil => exact .slnil
  | cons entry rest ih =>
    unfold steps
    dsimp only
    split
    · exact ih.cons _
    · exact ih.cons_cons _

/-- A motion that goes on was registered before, and its sprite is there. -/
theorem mem_running {entry : TickId × Motion} (running : entry ∈ (steps delta entries stage).running) :
    ∃ old ∈ entries, old.1 = entry.1 ∧ old.2.atRest = entry.2.atRest ∧ old.2.sprite ∈ stage.keys := by
  induction entries generalizing stage with
  | nil => cases running
  | cons first rest ih =>
    have later : entry ∈ (steps delta rest (first.2.step stage delta).stage).running →
        ∃ old ∈ first :: rest, old.1 = entry.1 ∧ old.2.atRest = entry.2.atRest ∧
          old.2.sprite ∈ stage.keys := by
      intro inside
      obtain ⟨old, member, id, motion, live⟩ := ih inside
      rw [(first.2.thins_step stage delta).keys] at live
      exact ⟨old, List.mem_cons_of_mem _ member, id, motion, live⟩
    unfold steps at running
    dsimp only at running
    split at running
    · exact later running
    · rename_i goesOn
      rcases List.mem_cons.mp running with rfl | inside
      · refine ⟨first, List.mem_cons_self, rfl, (first.2.atRest_step stage delta).symm, ?_⟩
        by_contra gone
        rw [first.2.step_of_gone stage delta gone] at goesOn
        exact goesOn rfl
      · exact later inside

/-- A motion that ends was registered before, and either its sprite is gone or it is a fade. -/
theorem mem_finished {entry : TickId × Motion}
    (finished : entry ∈ (steps delta entries stage).finished) :
    ∃ old ∈ entries, old.1 = entry.1 ∧ old.2.atRest = entry.2.atRest ∧
      (entry.2.sprite ∉ stage.keys ∨ entry.2.kind = .fade) := by
  induction entries generalizing stage with
  | nil => cases finished
  | cons first rest ih =>
    have later : entry ∈ (steps delta rest (first.2.step stage delta).stage).finished →
        ∃ old ∈ first :: rest, old.1 = entry.1 ∧ old.2.atRest = entry.2.atRest ∧
          (entry.2.sprite ∉ stage.keys ∨ entry.2.kind = .fade) := by
      intro inside
      obtain ⟨old, member, id, motion, reason⟩ := ih inside
      rw [(first.2.thins_step stage delta).keys] at reason
      exact ⟨old, List.mem_cons_of_mem _ member, id, motion, reason⟩
    unfold steps at finished
    dsimp only at finished
    split at finished
    · rename_i ends
      rcases List.mem_cons.mp finished with rfl | inside
      · have same := first.2.atRest_step stage delta
        refine ⟨first, List.mem_cons_self, rfl, same.symm, ?_⟩
        rw [Motion.sprite_of_atRest same, Motion.kind_of_atRest same]
        by_cases live : first.2.sprite ∈ stage.keys
        · exact Or.inr (first.2.kind_of_finished stage delta ends live)
        · exact Or.inl live
      · exact later inside
    · exact later finished

/-- A motion whose sprite is gone ends. -/
theorem finished_of_gone {entry : TickId × Motion} (member : entry ∈ entries)
    (gone : entry.2.sprite ∉ stage.keys) : entry ∈ (steps delta entries stage).finished := by
  induction entries generalizing stage with
  | nil => cases member
  | cons first rest ih =>
    unfold steps
    dsimp only
    rcases List.mem_cons.mp member with rfl | member
    · rw [entry.2.step_of_gone stage delta gone]
      exact List.mem_cons_self
    · have inside : entry ∈ (steps delta rest (first.2.step stage delta).stage).finished :=
        ih member (by rwa [(first.2.thins_step stage delta).keys])
      split
      · exact List.mem_cons_of_mem _ inside
      · exact inside

end Animator

end Storybook
