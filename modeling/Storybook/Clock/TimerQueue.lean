/-
**Timers.**

A queue holds tasks that are due at later instants, once or again after every period. Time moves
only by `advance`, which hands out what has become due: sorted by due time, and among equal due
times by the age of the timers. A repeating timer is handed out once for every period that has
passed; periods are at least a millisecond long, so that `advance` ends.

* `TimerQueue.schedule`, `TimerQueue.repeatEvery`, `TimerQueue.cancel`: the timers of a queue;
* `TimerQueue.drain`: what is due at an instant, and what still waits;
* `TimerQueue.advance`: moves the time on.
-/

namespace Storybook

/-- The handle of a timer. -/
structure TimerId where
  number : Nat
deriving DecidableEq, Repr

/-- The time from one occurrence of a timer to the next. -/
structure Period where
  length : Nat
  atLeast : 1000000 ≤ length
deriving DecidableEq, Repr

/-- A period that is as long as a span, but not too short. -/
def Period.ofSpan (span : Nat) : Period :=
  ⟨max span 1000000, Nat.le_max_right _ _⟩

/-- A timer with its next due time. -/
structure Timer (τ : Type) where
  id : TimerId
  due : Nat
  period : Option Period
  task : τ
deriving DecidableEq, Repr

namespace Timer

variable {τ : Type}

/-- The order in which timers are handed out. -/
def before (first second : Timer τ) : Bool :=
  first.due < second.due || (first.due = second.due && first.id.number < second.id.number)

/-- The timer after one more period. -/
def later (timer : Timer τ) (period : Period) : Timer τ :=
  { timer with due := timer.due + period.length }

/-- Puts a timer in its place in a list of timers. -/
def enqueue (timer : Timer τ) : List (Timer τ) → List (Timer τ)
  | [] => [timer]
  | other :: rest =>
    if other.before timer then other :: enqueue timer rest else timer :: other :: rest

/-- How much of the time until `now` is still ahead of the timers: it bounds the number of
occurrences. -/
def ahead (now : Nat) : List (Timer τ) → Nat
  | [] => 0
  | timer :: rest => now + 1 - timer.due + ahead now rest

theorem ahead_enqueue (now : Nat) (timer : Timer τ) (timers : List (Timer τ)) :
    ahead now (timer.enqueue timers) = ahead now timers + (now + 1 - timer.due) := by
  induction timers with
  | nil => simp [enqueue, ahead]
  | cons other rest ih =>
    unfold enqueue
    split
    · simp only [ahead]
      omega
    · simp only [ahead]
      omega

end Timer

/-- Timers in the order in which they are handed out. -/
structure TimerQueue (τ : Type) where
  now : Nat
  /-- How many handles have been given out. -/
  issued : Nat
  timers : List (Timer τ)
deriving DecidableEq, Repr

namespace TimerQueue

variable {τ : Type}

/-- A queue without timers. -/
def empty : TimerQueue τ :=
  ⟨0, 0, []⟩

/-- Adds a timer that is due after a delay. -/
def insert (queue : TimerQueue τ) (delay : Nat) (period : Option Period) (task : τ) :
    TimerId × TimerQueue τ :=
  let id : TimerId := ⟨queue.issued + 1⟩
  let timer : Timer τ := ⟨id, queue.now + delay, period, task⟩
  (id, { queue with issued := queue.issued + 1, timers := timer.enqueue queue.timers })

/-- Adds a timer that is due once. -/
def schedule (queue : TimerQueue τ) (delay : Nat) (task : τ) : TimerId × TimerQueue τ :=
  queue.insert delay none task

/-- Adds a timer that is due after every period. -/
def repeatEvery (queue : TimerQueue τ) (span : Nat) (task : τ) : TimerId × TimerQueue τ :=
  let period := Period.ofSpan span
  queue.insert period.length (some period) task

/-- Whether a timer is still in the queue. -/
def isPending (queue : TimerQueue τ) (id : TimerId) : Bool :=
  queue.timers.any fun timer => timer.id = id

/-- Takes a timer out of the queue. Answers whether fewer timers are left. -/
def cancel (queue : TimerQueue τ) (id : TimerId) : Bool × TimerQueue τ :=
  let timers := queue.timers.filter fun timer => timer.id ≠ id
  (queue.timers.length != timers.length, { queue with timers })

/-- How many timers there are. -/
def size (queue : TimerQueue τ) : Nat :=
  queue.timers.length

/-- The occurrences that are due at an instant, in order, and the timers that wait for later
ones. -/
def drain (now : Nat) : List (Timer τ) → List (Timer τ) × List (Timer τ)
  | [] => ([], [])
  | timer :: rest =>
    if timer.due ≤ now then
      match timer.period with
      | none =>
        let (fired, waiting) := drain now rest
        (timer :: fired, waiting)
      | some period =>
        let (fired, waiting) := drain now ((timer.later period).enqueue rest)
        (timer :: fired, waiting)
    else
      ([], timer :: rest)
termination_by timers => Timer.ahead now timers
decreasing_by
  · simp only [Timer.ahead]
    omega
  · have shorter := period.atLeast
    rw [Timer.ahead_enqueue]
    simp only [Timer.ahead, Timer.later]
    omega

/-- Moves the time on by a span, and hands out what has become due. -/
def advance (queue : TimerQueue τ) (span : Nat) : List (Timer τ) × TimerQueue τ :=
  let now := queue.now + span
  let (fired, waiting) := drain now queue.timers
  (fired, { queue with now, timers := waiting })

end TimerQueue

end Storybook
