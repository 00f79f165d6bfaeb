/-
**Timers fire at their times.**

A timer that is set once occurs when its delay has passed, and a repeating one whenever its period has
passed again, until it is cancelled. A diary keeps a record beside a queue: which timers were set in it,
when and how, and which occurrences were handed out.

* `Timer.Recurs`: a timer at its next occurrence or at one after that;
* `TimerQueue.mem_drain_iff`, `TimerQueue.recurs_drain_iff`, `TimerQueue.sorted_drain`: what is handed out
  when time passes, in which order, and what stays;
* `Diary`, `Diary.use`: a queue with its record, and everything that can be done with it;
* `Diary.Exact`: at an advance exactly those occurrences are handed out whose time has come;
* `Diary.advance_exact`: so it is, whatever was done with the queue before.
-/

import Mathlib.Data.List.Nodup
import Storybook.Proofs.Queue

namespace Storybook

variable {τ : Type}

/-! ### The occurrences of a timer -/

namespace Timer

/-- A timer at its next occurrence, or at one after that. -/
inductive Recurs : Timer τ → Timer τ → Prop
  | next (timer : Timer τ) : Recurs timer timer
  | again {timer occurrence : Timer τ} (period : Period) (repeats : timer.period = some period)
      (recurs : Recurs (timer.later period) occurrence) : Recurs timer occurrence

variable {timer other occurrence : Timer τ} {period : Period}

theorem due_later (timer : Timer τ) (period : Period) :
    (timer.later period).due = timer.due + period.length :=
  rfl

theorem Recurs.renews (recurs : timer.Recurs occurrence) : occurrence.Renews timer := by
  induction recurs with
  | next timer => exact .refl timer
  | again period repeats recurs ih => exact ih.trans (later_renews _ period)

theorem Recurs.due_le (recurs : timer.Recurs occurrence) : timer.due ≤ occurrence.due := by
  induction recurs with
  | next timer => exact Nat.le_refl _
  | again period repeats recurs ih => exact Nat.le_trans (Nat.le_add_right _ _) ih

/-- A timer that is due once has no later occurrence. -/
theorem recurs_once (once : timer.period = none) : timer.Recurs occurrence ↔ occurrence = timer := by
  constructor
  · rintro (_ | ⟨period, repeats, _⟩)
    · rfl
    · cases once.symm.trans repeats
  · rintro rfl
    exact .next occurrence

/-- A repeating timer occurs next, or later as the timer after one more period does. -/
theorem recurs_again (repeats : timer.period = some period) :
    timer.Recurs occurrence ↔ occurrence = timer ∨ (timer.later period).Recurs occurrence := by
  constructor
  · rintro (_ | ⟨other, same, recurs⟩)
    · exact Or.inl rfl
    · cases repeats.symm.trans same
      exact Or.inr recurs
  · rintro (rfl | recurs)
    · exact .next occurrence
    · exact .again period repeats recurs

/-- The occurrences of a repeating timer are whole periods apart. -/
theorem recurs_iff (repeats : timer.period = some period) :
    timer.Recurs occurrence ↔
      occurrence.Renews timer ∧ ∃ count, occurrence.due = timer.due + count * period.length := by
  constructor
  · intro recurs
    refine ⟨recurs.renews, ?_⟩
    induction recurs with
    | next timer => exact ⟨0, by rw [Nat.zero_mul, Nat.add_zero]⟩
    | again other same recurs ih =>
      cases repeats.symm.trans same
      obtain ⟨count, due⟩ := ih repeats
      refine ⟨count + 1, ?_⟩
      rw [due, due_later, Nat.succ_mul]
      omega
  · rintro ⟨renews, count, due⟩
    induction count generalizing timer with
    | zero =>
      rw [Nat.zero_mul, Nat.add_zero] at due
      obtain ⟨id, _, _, task⟩ := occurrence
      cases timer
      cases renews.id
      cases renews.period
      cases renews.task
      cases due
      exact .next _
    | succ count ih =>
      refine .again period repeats (ih repeats ⟨renews.id, renews.period, renews.task⟩ ?_)
      rw [due, due_later, Nat.succ_mul]
      omega

/-- A timer that is handed out before another is handed out before all occurrences of it. -/
theorem before_recurs (earlier : timer.before other) (recurs : other.Recurs occurrence) :
    timer.before occurrence := by
  have later := recurs.due_le
  have same := recurs.renews.id
  rw [before_iff] at earlier ⊢
  rw [same]
  omega

end Timer

/-! ### Passing time -/

namespace TimerQueue

open Timer (Ordered)

variable {now : Nat} {timers : List (Timer τ)} {timer : Timer τ}

/-- Some timer of a list occurs as the given one. -/
def Occurs (timers : List (Timer τ)) (occurrence : Timer τ) : Prop :=
  ∃ timer ∈ timers, timer.Recurs occurrence

theorem occurs_cons {first : Timer τ} {rest : List (Timer τ)} :
    Occurs (first :: rest) timer ↔ first.Recurs timer ∨ Occurs rest timer :=
  List.exists_mem_cons_iff ..

theorem occurs_enqueue {first : Timer τ} {rest : List (Timer τ)} :
    Occurs (first.enqueue rest) timer ↔ first.Recurs timer ∨ Occurs rest timer := by
  rw [← occurs_cons]
  exact exists_congr fun other => and_congr_left fun _ => by rw [Timer.mem_enqueue, List.mem_cons]

/-- Where the first timer is not due, nothing occurs yet. -/
theorem late_of_occurs {first : Timer τ} {rest : List (Timer τ)} (ordered : Ordered (first :: rest))
    (early : ¬ first.due ≤ now) (occurs : Occurs (first :: rest) timer) : now < timer.due := by
  obtain ⟨other, member, recurs⟩ := occurs
  exact Nat.lt_of_lt_of_le (early_of_ordered ordered early other member) recurs.due_le

/-- **When time passes, exactly those occurrences are handed out whose time has come.** -/
theorem mem_drain_iff (ordered : Ordered timers) :
    timer ∈ (drain now timers).1 ↔ timer.due ≤ now ∧ Occurs timers timer := by
  fun_induction drain now timers with
  | case1 =>
    refine ⟨fun handed => absurd handed List.not_mem_nil, ?_⟩
    rintro ⟨_, _, none, _⟩
    cases none
  | case2 first rest due once fired waiting split ih =>
    rw [split] at ih
    rw [List.mem_cons, ih (List.pairwise_cons.mp ordered).2, occurs_cons, Timer.recurs_once once,
      and_or_left]
    exact or_congr_left (iff_and_self.mpr fun same => same ▸ due)
  | case3 first rest due period again fired waiting split ih =>
    rw [split] at ih
    rw [List.mem_cons, ih (Ordered.enqueue (List.pairwise_cons.mp ordered).2 _), occurs_enqueue,
      occurs_cons, Timer.recurs_again again, or_assoc, and_or_left (b := timer = first)]
    exact or_congr_left (iff_and_self.mpr fun same => same ▸ due)
  | case4 first rest early =>
    refine ⟨fun handed => absurd handed List.not_mem_nil, ?_⟩
    rintro ⟨due, occurs⟩
    exact absurd (late_of_occurs ordered early occurs) (Nat.not_lt.mpr due)

/-- **All others are still to come** from the timers that wait on. -/
theorem recurs_drain_iff (ordered : Ordered timers) :
    Occurs (drain now timers).2 timer ↔ now < timer.due ∧ Occurs timers timer := by
  have past : ∀ {first : Timer τ}, first.due ≤ now → ¬ (now < timer.due ∧ timer = first) :=
    fun due ⟨late, same⟩ => absurd (same ▸ due) (Nat.not_le.mpr late)
  fun_induction drain now timers with
  | case1 =>
    refine iff_and_self.mpr ?_
    rintro ⟨_, none, _⟩
    cases none
  | case2 first rest due once fired waiting split ih =>
    rw [split] at ih
    refine (ih (List.pairwise_cons.mp ordered).2).trans ?_
    rw [occurs_cons, Timer.recurs_once once, and_or_left]
    exact (or_iff_right (past due)).symm
  | case3 first rest due period again fired waiting split ih =>
    rw [split] at ih
    refine (ih (Ordered.enqueue (List.pairwise_cons.mp ordered).2 _)).trans ?_
    rw [occurs_enqueue, occurs_cons, Timer.recurs_again again, or_assoc,
      and_or_left (b := timer = first)]
    exact (or_iff_right (past due)).symm
  | case4 first rest early => exact iff_and_self.mpr (late_of_occurs ordered early)

/-- The handles of timers. -/
def ids (timers : List (Timer τ)) : List TimerId :=
  timers.map Timer.id

/-- A timer that is put in its place adds its handle. -/
theorem perm_ids_enqueue (timer : Timer τ) (timers : List (Timer τ)) :
    (ids (timer.enqueue timers)).Perm (timer.id :: ids timers) :=
  (timer.perm_enqueue timers).map Timer.id

/-- No two timers come to have the same handle. -/
theorem nodup_ids_drain (distinct : (ids timers).Nodup) : (ids (drain now timers).2).Nodup := by
  fun_induction drain now timers with
  | case1 => exact distinct
  | case2 first rest due once fired waiting split ih =>
    rw [split] at ih
    exact ih (List.nodup_cons.mp distinct).2
  | case3 first rest due period again fired waiting split ih =>
    rw [split] at ih
    exact ih ((perm_ids_enqueue _ rest).nodup_iff.mpr distinct)
  | case4 first rest early => exact distinct

/-- The first timer is handed out before all others. -/
theorem before_of_mem {first : Timer τ} {rest : List (Timer τ)} (ordered : Ordered (first :: rest))
    (distinct : (ids (first :: rest)).Nodup) (member : timer ∈ rest) : first.before timer := by
  have behind := (List.pairwise_cons.mp ordered).1 timer member
  have apart : first.id.number ≠ timer.id.number := fun same =>
    (List.nodup_cons.mp distinct).1 (List.mem_map.mpr ⟨timer, member, congrArg TimerId.mk same.symm⟩)
  rw [Timer.before_iff] at behind ⊢
  omega

/-- **What is handed out is sorted** by time, and among equal times by the age of the timers. -/
theorem sorted_drain (ordered : Ordered timers) (distinct : (ids timers).Nodup) :
    (drain now timers).1.Pairwise fun first second => first.before second := by
  fun_induction drain now timers with
  | case1 => exact .nil
  | case2 first rest due once fired waiting split ih =>
    have sorted := (List.pairwise_cons.mp ordered).2
    rw [split] at ih
    refine List.pairwise_cons.mpr ⟨fun timer member => ?_, ih sorted (List.nodup_cons.mp distinct).2⟩
    have handed : timer ∈ (drain now rest).1 := split ▸ member
    obtain ⟨_, other, inside, recurs⟩ := (mem_drain_iff sorted).mp handed
    exact Timer.before_recurs (before_of_mem ordered distinct inside) recurs
  | case3 first rest due period again fired waiting split ih =>
    have sorted := Ordered.enqueue (List.pairwise_cons.mp ordered).2 (first.later period)
    rw [split] at ih
    refine List.pairwise_cons.mpr ⟨fun timer member => ?_,
      ih sorted ((perm_ids_enqueue _ rest).nodup_iff.mpr distinct)⟩
    have handed : timer ∈ (drain now ((first.later period).enqueue rest)).1 := split ▸ member
    obtain ⟨_, other, inside, recurs⟩ := (mem_drain_iff sorted).mp handed
    refine Timer.before_recurs ?_ recurs
    rcases Timer.mem_enqueue.mp inside with rfl | inside
    · have length := period.atLeast
      rw [Timer.before_iff, Timer.due_later]
      omega
    · exact before_of_mem ordered distinct inside
  | case4 => exact .nil

end TimerQueue

/-! ### Timers as they are set -/

/-- How a timer that is set is to occur. -/
inductive Plan
  /-- Once, after a delay. -/
  | once (delay : Nat)
  /-- Again and again, whenever a span has passed. -/
  | every (span : Nat)
deriving DecidableEq, Repr

/-- Whether a plan that was made at an instant falls on another one. A millisecond at least passes
between the occurrences of a repeating timer. -/
def Plan.Falls (made due : Nat) : Plan → Prop
  | once delay => due = made + delay
  | every span => ∃ count, 1 ≤ count ∧ due = made + count * max span 1000000

/-- One occurrence of a timer. -/
structure Occurrence (τ : Type) where
  due : Nat
  id : TimerId
  task : τ
deriving DecidableEq, Repr

/-- The order of occurrences: by time, and among equal times by the age of the timers. -/
def Occurrence.Before (first second : Occurrence τ) : Prop :=
  first.due < second.due ∨ first.due = second.due ∧ first.id.number < second.id.number

/-- The occurrence that a timer waits for. -/
def Timer.occurrence (timer : Timer τ) : Occurrence τ :=
  ⟨timer.due, timer.id, timer.task⟩

/-- A timer as it was set. -/
structure Appointment (τ : Type) where
  id : TimerId
  /-- The instant at which it was set. -/
  made : Nat
  plan : Plan
  task : τ
deriving DecidableEq, Repr

namespace Appointment

/-- An occurrence is one of the timer that was set. -/
structure Has (appointment : Appointment τ) (occurrence : Occurrence τ) : Prop where
  id : occurrence.id = appointment.id
  task : occurrence.task = appointment.task
  falls : appointment.plan.Falls appointment.made occurrence.due

/-- The timer that is put into the queue. -/
def timer (appointment : Appointment τ) : Timer τ :=
  match appointment.plan with
  | .once delay => ⟨appointment.id, appointment.made + delay, none, appointment.task⟩
  | .every span =>
    ⟨appointment.id, appointment.made + (Period.ofSpan span).length, some (Period.ofSpan span),
      appointment.task⟩

theorem id_timer (appointment : Appointment τ) : appointment.timer.id = appointment.id := by
  unfold timer
  split <;> rfl

/-- A timer that is set once has one occurrence. -/
theorem has_once {id : TimerId} {made delay : Nat} {task : τ} {occurrence : Occurrence τ} :
    (Appointment.mk id made (.once delay) task).Has occurrence ↔
      occurrence = ⟨made + delay, id, task⟩ := by
  constructor
  · rintro ⟨rfl, rfl, due⟩
    exact congrArg (Occurrence.mk · occurrence.id occurrence.task) due
  · rintro rfl
    exact ⟨rfl, rfl, rfl⟩

/-- What was set and what is put into the queue occur alike. -/
theorem has_iff {appointment : Appointment τ} {occurrence : Occurrence τ} :
    appointment.Has occurrence ↔
      ∃ timer : Timer τ, appointment.timer.Recurs timer ∧ timer.occurrence = occurrence := by
  obtain ⟨id, made, plan, task⟩ := appointment
  cases plan with
  | once delay =>
    rw [has_once]
    constructor
    · rintro rfl
      exact ⟨_, .next _, rfl⟩
    · rintro ⟨timer, recurs, rfl⟩
      rw [(Timer.recurs_once rfl).mp recurs]
      rfl
  | every span =>
    constructor
    · rintro ⟨rfl, rfl, count, positive, due⟩
      obtain ⟨before, rfl⟩ := Nat.exists_eq_add_of_le' positive
      refine ⟨⟨occurrence.id, occurrence.due, some (.ofSpan span), occurrence.task⟩,
        (Timer.recurs_iff rfl).mpr ⟨⟨rfl, rfl, rfl⟩, before, ?_⟩, rfl⟩
      rw [Nat.succ_mul] at due
      show occurrence.due = made + max span 1000000 + before * max span 1000000
      rw [due, Nat.add_assoc, Nat.add_comm (max span 1000000)]
    · rintro ⟨timer, recurs, rfl⟩
      obtain ⟨renews, count, due⟩ := (Timer.recurs_iff rfl).mp recurs
      refine ⟨renews.id, renews.task, count + 1, Nat.le_add_left _ _, ?_⟩
      rw [Nat.succ_mul, Nat.add_comm _ (max span 1000000), ← Nat.add_assoc]
      exact due

end Appointment

/-! ### A queue with its record -/

/-- A queue of timers, with a record of what was done with it. -/
structure Diary (τ : Type) where
  queue : TimerQueue τ
  /-- The timers that were set and not cancelled. -/
  appointments : List (Appointment τ)
  /-- The occurrences that were handed out. -/
  past : List (Occurrence τ)

namespace Diary

/-- Something that is done with a queue. -/
inductive Use (τ : Type)
  | schedule (delay : Nat) (task : τ)
  | repeatEvery (span : Nat) (task : τ)
  | cancel (id : TimerId)
  | advance (span : Nat)

/-- The diary of a queue without timers. -/
def empty : Diary τ :=
  ⟨.empty, [], []⟩

/-- What is done with the queue is done and recorded. -/
def use (diary : Diary τ) : Use τ → Diary τ
  | .schedule delay task =>
    let (id, queue) := diary.queue.schedule delay task
    { diary with
      queue
      appointments := diary.appointments ++ [⟨id, diary.queue.now, .once delay, task⟩] }
  | .repeatEvery span task =>
    let (id, queue) := diary.queue.repeatEvery span task
    { diary with
      queue
      appointments := diary.appointments ++ [⟨id, diary.queue.now, .every span, task⟩] }
  | .cancel id =>
    { diary with
      queue := (diary.queue.cancel id).2
      appointments := diary.appointments.filter fun appointment => appointment.id ≠ id }
  | .advance span =>
    let (fired, queue) := diary.queue.advance span
    { diary with queue, past := diary.past ++ fired.map Timer.occurrence }

/-- The diary after all that is done. -/
def after (diary : Diary τ) (uses : List (Use τ)) : Diary τ :=
  uses.foldl use diary

/-- **When time passes, the right occurrences are handed out**: those of the timers that were set and
not cancelled, if their time has come and they were not handed out before. -/
structure Exact (diary : Diary τ) (span : Nat) : Prop where
  handed : ∀ occurrence, occurrence ∈ (diary.queue.advance span).1.map Timer.occurrence ↔
    occurrence.due ≤ diary.queue.now + span ∧ occurrence ∉ diary.past ∧
      ∃ appointment ∈ diary.appointments, appointment.Has occurrence
  /-- They are handed out in order, and each of them once. -/
  sorted : ((diary.queue.advance span).1.map Timer.occurrence).Pairwise Occurrence.Before
  now : (diary.queue.advance span).2.now = diary.queue.now + span
  /-- Nothing that is due is left in the queue. -/
  later : ∀ timer ∈ (diary.queue.advance span).2.timers, diary.queue.now + span < timer.due
  /-- A timer that was set once waits on unless it has been handed out, now or before. -/
  once : ∀ appointment ∈ diary.appointments, ∀ delay, appointment.plan = .once delay →
    ((diary.queue.advance span).2.isPending appointment.id ↔
      ⟨appointment.made + delay, appointment.id, appointment.task⟩ ∉
        diary.past ++ (diary.queue.advance span).1.map Timer.occurrence)
  /-- A repeating timer waits on. -/
  every : ∀ appointment ∈ diary.appointments, ∀ length, appointment.plan = .every length →
    (diary.queue.advance span).2.isPending appointment.id

/-! ### The record is faithful -/

/-- What the queue still waits for are the occurrences of the timers that were set and not cancelled,
without those that were handed out. -/
structure Faithful (diary : Diary τ) : Prop where
  ordered : Timer.Ordered diary.queue.timers
  distinct : (TimerQueue.ids diary.queue.timers).Nodup
  issued : ∀ appointment ∈ diary.appointments, appointment.id.number ≤ diary.queue.issued
  single : (diary.appointments.map Appointment.id).Nodup
  given : ∀ occurrence ∈ diary.past, occurrence.id.number ≤ diary.queue.issued
  past : ∀ occurrence ∈ diary.past, occurrence.due ≤ diary.queue.now
  ahead : ∀ timer, TimerQueue.Occurs diary.queue.timers timer ↔
    ∃ appointment ∈ diary.appointments, appointment.timer.Recurs timer ∧
      timer.occurrence ∉ diary.past

theorem faithful_empty : (empty : Diary τ).Faithful where
  ordered := TimerQueue.ordered_empty
  distinct := .nil
  issued := nofun
  single := .nil
  given := nofun
  past := nofun
  ahead timer := by
    constructor <;> rintro ⟨_, none, _⟩ <;> cases none

namespace Faithful

variable {diary : Diary τ} {appointment : Appointment τ}

/-- A timer of the queue is one that was set. -/
theorem exists_appointment (faithful : diary.Faithful) {timer : Timer τ}
    (member : timer ∈ diary.queue.timers) :
    ∃ appointment ∈ diary.appointments, timer.id = appointment.id := by
  obtain ⟨appointment, set, recurs, _⟩ := (faithful.ahead timer).mp ⟨timer, member, .next timer⟩
  exact ⟨appointment, set, recurs.renews.id.trans appointment.id_timer⟩

/-- A timer waits on while there is an occurrence of it that was not handed out. -/
theorem isPending_iff (faithful : diary.Faithful) (member : appointment ∈ diary.appointments) :
    diary.queue.isPending appointment.id ↔
      ∃ occurrence, appointment.Has occurrence ∧ occurrence ∉ diary.past := by
  rw [TimerQueue.isPending_iff]
  constructor
  · rintro ⟨timer, inside, same⟩
    obtain ⟨other, set, recurs, new⟩ := (faithful.ahead timer).mp ⟨timer, inside, .next timer⟩
    have own : other = appointment := List.inj_on_of_nodup_map faithful.single set member
      ((recurs.renews.id.trans other.id_timer).symm.trans same)
    exact ⟨_, Appointment.has_iff.mpr ⟨timer, own ▸ recurs, rfl⟩, new⟩
  · rintro ⟨occurrence, has, new⟩
    obtain ⟨timer, recurs, rfl⟩ := Appointment.has_iff.mp has
    obtain ⟨waiting, inside, later⟩ := (faithful.ahead timer).mpr ⟨appointment, member, recurs, new⟩
    refine ⟨waiting, inside, ?_⟩
    rw [← later.renews.id, recurs.renews.id, appointment.id_timer]

/-- The handle of a timer that is set is new. -/
theorem ne_new (faithful : diary.Faithful) {id : TimerId} (new : id.number = diary.queue.issued + 1)
    {other : Appointment τ} (set : other ∈ diary.appointments) : other.id ≠ id := by
  intro same
  have below := faithful.issued other set
  rw [same, new] at below
  exact Nat.not_succ_le_self _ below

/-- So none of its occurrences was handed out before, and they are all ahead. -/
theorem ahead_enqueue (faithful : diary.Faithful)
    (new : appointment.id.number = diary.queue.issued + 1) (timer : Timer τ) :
    TimerQueue.Occurs (appointment.timer.enqueue diary.queue.timers) timer ↔
      ∃ other ∈ diary.appointments ++ [appointment], other.timer.Recurs timer ∧
        timer.occurrence ∉ diary.past := by
  have unspent : appointment.timer.Recurs timer → timer.occurrence ∉ diary.past := by
    intro recurs member
    have below := faithful.given _ member
    rw [Timer.occurrence, recurs.renews.id, appointment.id_timer, new] at below
    exact Nat.not_succ_le_self _ below
  rw [TimerQueue.occurs_enqueue, faithful.ahead]
  constructor
  · rintro (recurs | ⟨old, set, recurs⟩)
    · exact ⟨appointment, List.mem_append_right _ List.mem_cons_self, recurs, unspent recurs⟩
    · exact ⟨old, List.mem_append_left _ set, recurs⟩
  · rintro ⟨old, set, recurs, unspent⟩
    rcases List.mem_append.mp set with set | last
    · exact Or.inr ⟨old, set, recurs, unspent⟩
    · exact Or.inl (List.mem_singleton.mp last ▸ recurs)

/-- A timer that is set is put into the queue. -/
theorem insert (faithful : diary.Faithful) {delay : Nat} {period : Option Period} {task : τ}
    (timer : appointment.timer =
      ⟨⟨diary.queue.issued + 1⟩, diary.queue.now + delay, period, task⟩) :
    Faithful { diary with
      queue := (diary.queue.insert delay period task).2
      appointments := diary.appointments ++ [appointment] } := by
  have new : appointment.id.number = diary.queue.issued + 1 := by
    rw [← appointment.id_timer, timer]
  refine ⟨TimerQueue.ordered_insert faithful.ordered _ _ _, ?_, ?_, ?_, ?_, faithful.past, ?_⟩
  · refine (TimerQueue.perm_ids_enqueue _ _).nodup_iff.mpr (List.nodup_cons.mpr ⟨?_, faithful.distinct⟩)
    intro known
    obtain ⟨old, member, same⟩ := List.mem_map.mp known
    obtain ⟨other, set, own⟩ := faithful.exists_appointment member
    exact faithful.ne_new rfl set (own.symm.trans same)
  · refine List.forall_mem_append.mpr ⟨fun other set => Nat.le_succ_of_le (faithful.issued other set), ?_⟩
    exact List.forall_mem_singleton.mpr (Nat.le_of_eq new)
  · rw [List.map_append]
    refine List.nodup_append.mpr ⟨faithful.single, List.nodup_singleton _, fun id known other last => ?_⟩
    obtain ⟨old, set, rfl⟩ := List.mem_map.mp known
    exact List.mem_singleton.mp last ▸ faithful.ne_new new set
  · exact fun occurrence member => Nat.le_succ_of_le (faithful.given occurrence member)
  · intro other
    refine Iff.trans ?_ (faithful.ahead_enqueue new other)
    rw [timer]
    exact Iff.rfl

/-- A timer that is cancelled leaves the queue. -/
theorem cancel (faithful : diary.Faithful) (id : TimerId) : (diary.use (.cancel id)).Faithful := by
  refine ⟨TimerQueue.ordered_cancel faithful.ordered id, ?_, ?_, ?_, faithful.given, faithful.past, ?_⟩
  · exact faithful.distinct.sublist (List.filter_sublist.map Timer.id)
  · exact fun appointment member => faithful.issued appointment (List.mem_of_mem_filter member)
  · exact faithful.single.sublist (List.filter_sublist.map Appointment.id)
  · intro timer
    constructor
    · rintro ⟨old, member, recurs⟩
      obtain ⟨inside, other⟩ := TimerQueue.mem_cancel.mp member
      obtain ⟨appointment, set, occurs, new⟩ := (faithful.ahead timer).mp ⟨old, inside, recurs⟩
      refine ⟨appointment, List.mem_filter.mpr ⟨set, decide_eq_true fun same => other ?_⟩, occurs, new⟩
      rw [← recurs.renews.id, occurs.renews.id, appointment.id_timer, same]
    · rintro ⟨appointment, member, occurs, new⟩
      obtain ⟨set, other⟩ := List.mem_filter.mp member
      obtain ⟨old, inside, recurs⟩ := (faithful.ahead timer).mpr ⟨appointment, set, occurs, new⟩
      refine ⟨old, TimerQueue.mem_cancel.mpr ⟨inside, fun same => of_decide_eq_true other ?_⟩, recurs⟩
      rw [← same, ← recurs.renews.id, occurs.renews.id, appointment.id_timer]

/-- What is handed out has come from a timer that was set, and was not handed out before. -/
theorem mem_fired_iff (faithful : diary.Faithful) {span : Nat} {occurrence : Occurrence τ} :
    occurrence ∈ (diary.queue.advance span).1.map Timer.occurrence ↔
      occurrence.due ≤ diary.queue.now + span ∧ occurrence ∉ diary.past ∧
        ∃ appointment ∈ diary.appointments, appointment.Has occurrence := by
  rw [List.mem_map]
  constructor
  · rintro ⟨timer, fired, rfl⟩
    obtain ⟨due, occurs⟩ := (TimerQueue.mem_drain_iff faithful.ordered).mp fired
    obtain ⟨appointment, set, recurs, new⟩ := (faithful.ahead timer).mp occurs
    exact ⟨due, new, appointment, set, Appointment.has_iff.mpr ⟨timer, recurs, rfl⟩⟩
  · rintro ⟨due, new, appointment, set, has⟩
    obtain ⟨timer, recurs, rfl⟩ := Appointment.has_iff.mp has
    exact ⟨timer, (TimerQueue.mem_drain_iff faithful.ordered).mpr
      ⟨due, (faithful.ahead timer).mpr ⟨appointment, set, recurs, new⟩⟩, rfl⟩

/-- Time passes: what is handed out is past, and all else is still ahead. -/
theorem advance (faithful : diary.Faithful) (span : Nat) : (diary.use (.advance span)).Faithful := by
  refine ⟨TimerQueue.ordered_advance faithful.ordered span, TimerQueue.nodup_ids_drain faithful.distinct,
    faithful.issued, faithful.single, ?_, ?_, ?_⟩
  · refine List.forall_mem_append.mpr ⟨faithful.given, fun occurrence fired => ?_⟩
    obtain ⟨_, _, appointment, set, has⟩ := faithful.mem_fired_iff.mp fired
    exact has.id ▸ faithful.issued appointment set
  · refine List.forall_mem_append.mpr ⟨fun occurrence member => ?_, fun occurrence fired => ?_⟩
    · exact Nat.le_add_right_of_le (faithful.past occurrence member)
    · exact (faithful.mem_fired_iff.mp fired).1
  · intro timer
    refine (TimerQueue.recurs_drain_iff faithful.ordered).trans ?_
    rw [faithful.ahead]
    constructor
    · rintro ⟨late, appointment, set, recurs, new⟩
      refine ⟨appointment, set, recurs, fun spent => ?_⟩
      rcases List.mem_append.mp spent with old | fired
      · exact new old
      · exact absurd (faithful.mem_fired_iff.mp fired).1 (Nat.not_le.mpr late)
    · rintro ⟨appointment, set, recurs, unspent⟩
      obtain ⟨new, unfired⟩ := not_or.mp (mt List.mem_append.mpr unspent)
      refine ⟨Nat.not_le.mp fun due => unfired ?_, appointment, set, recurs, new⟩
      exact faithful.mem_fired_iff.mpr
        ⟨due, new, appointment, set, Appointment.has_iff.mpr ⟨timer, recurs, rfl⟩⟩

/-- **Whatever is done with the queue, the record stays faithful.** -/
theorem use (faithful : diary.Faithful) (use : Use τ) : (diary.use use).Faithful := by
  cases use with
  | schedule delay task => exact faithful.insert rfl
  | repeatEvery span task => exact faithful.insert rfl
  | cancel id => exact faithful.cancel id
  | advance span => exact faithful.advance span

theorem after (faithful : diary.Faithful) (uses : List (Use τ)) : (diary.after uses).Faithful :=
  List.foldlRecOn uses Diary.use faithful fun _ faithful use _ => faithful.use use

/-- **At an advance the right occurrences are handed out.** -/
theorem exact (faithful : diary.Faithful) (span : Nat) : diary.Exact span where
  handed _ := faithful.mem_fired_iff
  sorted := by
    refine List.pairwise_map.mpr ((TimerQueue.sorted_drain faithful.ordered faithful.distinct).imp ?_)
    exact fun before => Timer.before_iff.mp before
  now := rfl
  later timer member :=
    ((TimerQueue.recurs_drain_iff faithful.ordered).mp ⟨timer, member, .next timer⟩).1
  once appointment set delay planned := by
    refine ((faithful.advance span).isPending_iff set).trans ?_
    obtain ⟨id, made, plan, task⟩ := appointment
    cases planned
    simp only [Appointment.has_once, exists_eq_left]
    rfl
  every appointment set length planned := by
    refine ((faithful.advance span).isPending_iff set).mpr ?_
    let now := diary.queue.now + span
    let due := appointment.made + (now + 1) * max length 1000000
    have beyond : now < due := by
      have product := Nat.mul_le_mul_left (now + 1) (Nat.le_max_right length 1000000)
      dsimp only [due]
      omega
    refine ⟨⟨due, appointment.id, appointment.task⟩, ⟨rfl, rfl, ?_⟩, fun spent => ?_⟩
    · rw [planned]
      exact ⟨now + 1, Nat.le_add_left _ _, rfl⟩
    · exact absurd ((faithful.advance span).past _ spent) (Nat.not_le.mpr beyond)

end Faithful

/-! ### Timers that are cancelled -/

/-- A handle was given out, and it is not that of a timer that is set. -/
structure Dropped (id : TimerId) (diary : Diary τ) : Prop where
  given : id.number ≤ diary.queue.issued
  absent : ∀ appointment ∈ diary.appointments, appointment.id ≠ id

theorem dropped_cancel {diary : Diary τ} {id : TimerId} (given : id.number ≤ diary.queue.issued) :
    Dropped id (diary.use (.cancel id)) :=
  ⟨given, fun _ member => of_decide_eq_true (List.mem_filter.mp member).2⟩

/-- It is not given out again. -/
theorem Dropped.use {id : TimerId} {diary : Diary τ} (dropped : Dropped id diary) (use : Use τ) :
    Dropped id (diary.use use) := by
  have fresh : (⟨diary.queue.issued + 1⟩ : TimerId) ≠ id := fun same =>
    Nat.not_succ_le_self _ (same ▸ dropped.given)
  cases use with
  | schedule delay task =>
    exact ⟨Nat.le_succ_of_le dropped.given,
      List.forall_mem_append.mpr ⟨dropped.absent, List.forall_mem_singleton.mpr fresh⟩⟩
  | repeatEvery span task =>
    exact ⟨Nat.le_succ_of_le dropped.given,
      List.forall_mem_append.mpr ⟨dropped.absent, List.forall_mem_singleton.mpr fresh⟩⟩
  | cancel other =>
    exact ⟨dropped.given, fun appointment member =>
      dropped.absent appointment (List.mem_of_mem_filter member)⟩
  | advance span => exact ⟨dropped.given, dropped.absent⟩

theorem Dropped.after {id : TimerId} {diary : Diary τ} (dropped : Dropped id diary)
    (uses : List (Use τ)) : Dropped id (diary.after uses) :=
  List.foldlRecOn uses Diary.use dropped fun _ dropped use _ => dropped.use use

/-- **A queue hands out exactly what is due**, in order and each occurrence once, whatever was done
with it before. A timer that was cancelled is never handed out again. -/
theorem advance_exact (uses : List (Use τ)) (span : Nat) :
    (empty.after uses).Exact span ∧
      ∀ id : TimerId, id.number ≤ (empty.after uses).queue.issued → ∀ later : List (Use τ),
        ∀ timer ∈ ((((empty.after uses).use (.cancel id)).after later).queue.advance span).1,
          timer.id ≠ id := by
  have faithful : (empty.after uses).Faithful := faithful_empty.after uses
  refine ⟨faithful.exact span, fun id given later timer fired same => ?_⟩
  obtain ⟨_, _, appointment, set, has⟩ := ((faithful.cancel id).after later).mem_fired_iff.mp
    (List.mem_map_of_mem fired)
  exact ((dropped_cancel given).after later).absent appointment set (has.id.symm.trans same)

end Diary

end Storybook
