/-
**What is reported.**

Events are only ever added, at the end. What is added by a part of the play is told by a property of
events.

* `World.Reports`: the events between two states of a world have a property;
* `Event.OfCast`: the events that characters cause;
* `Event.OfMotions`: the events that motions cause at their end;
* `World.Quiet`: no motion is reported to have ended.
-/

import Storybook.Play.World

namespace Storybook

namespace Event

/-- An event that characters cause. -/
def OfCast : Event → Prop
  | characterShown _ _ => True
  | soundStarted _ _ => True
  | effectExecuted _ _ _ => True
  | effectSkipped _ _ => True
  | _ => False

/-- An event that the end of a motion causes. -/
def OfMotions : Event → Prop
  | motionFinished _ _ => True
  | spriteRemoved _ => True
  | _ => False

theorem OfCast.not_ofMotions {event : Event} (cast : event.OfCast) : ¬ event.OfMotions := by
  cases event <;> first | exact cast.elim | exact id

end Event

namespace World

variable {p q : Event → Prop} {first second third : World}

/-- Between two states of a world, events with a property are added. -/
def Reports (p : Event → Prop) (before after : World) : Prop :=
  ∃ new : List Event, after.events.toList = before.events.toList ++ new ∧ ∀ event ∈ new, p event

theorem Reports.of_eq (same : second.events = first.events) : Reports p first second :=
  ⟨[], by rw [same, List.append_nil], fun _ member => nomatch member⟩

theorem Reports.refl (world : World) : Reports p world world :=
  .of_eq rfl

theorem Reports.trans (left : Reports p first second) (right : Reports p second third) :
    Reports p first third := by
  obtain ⟨earlier, before, firstOnes⟩ := left
  obtain ⟨later, after, lastOnes⟩ := right
  refine ⟨earlier ++ later, by rw [after, before, List.append_assoc], fun event member => ?_⟩
  exact (List.mem_append.mp member).elim (firstOnes event) (lastOnes event)

theorem Reports.imp (reports : Reports p first second) (weaker : ∀ event, p event → q event) :
    Reports q first second := by
  obtain ⟨new, added, all⟩ := reports
  exact ⟨new, added, fun event member => weaker event (all event member)⟩

theorem reports_report (world : World) {event : Event} (holds : p event) :
    Reports p world (world.report event) :=
  ⟨[event], by simp [report], fun _ member => List.mem_singleton.mp member ▸ holds⟩

theorem reports_reportAll (world : World) (events : List Event) (holds : ∀ event ∈ events, p event) :
    Reports p world (world.reportAll events) := by
  induction events generalizing world with
  | nil => exact .refl world
  | cons event rest ih =>
    exact (world.reports_report (holds event List.mem_cons_self)).trans
      (ih _ fun other member => holds other (List.mem_cons_of_mem _ member))

/-- An event that is there was there before or has been added. -/
theorem Reports.mem {event : Event} (reports : Reports p first second)
    (member : event ∈ second.events) : event ∈ first.events ∨ p event := by
  obtain ⟨new, added, all⟩ := reports
  rw [← Array.mem_toList_iff, added, List.mem_append] at member
  exact member.imp Array.mem_toList_iff.mp (all event)

/-- An event that was there stays. -/
theorem Reports.mono {event : Event} (reports : Reports p first second)
    (member : event ∈ first.events) : event ∈ second.events := by
  obtain ⟨new, added, _⟩ := reports
  rw [← Array.mem_toList_iff, added, List.mem_append]
  exact Or.inl (Array.mem_toList_iff.mpr member)

/-- Between two states of a world no motion is reported to have ended. -/
def Quiet (before after : World) : Prop :=
  Reports (fun event => ¬ event.OfMotions) before after

theorem Reports.quiet (reports : Reports Event.OfCast first second) : first.Quiet second :=
  reports.imp fun _ cast => cast.not_ofMotions

theorem Quiet.of_eq (same : second.events = first.events) : first.Quiet second :=
  Reports.of_eq same

theorem Quiet.trans (left : first.Quiet second) (right : second.Quiet third) : first.Quiet third :=
  Reports.trans left right

theorem quiet_report (world : World) {event : Event} (other : ¬ event.OfMotions) :
    world.Quiet (world.report event) :=
  world.reports_report other

/-- Several reports change nothing but the events. -/
theorem reportAll_eq (world : World) (events : List Event) :
    world.reportAll events = { world with events := (world.reportAll events).events } := by
  induction events generalizing world with
  | nil => rfl
  | cons event rest ih => exact ih (world.report event)

end World

end Storybook
