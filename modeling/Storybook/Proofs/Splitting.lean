/-
**Time that passes in parts.**

It makes no difference to timers in how many steps time passes: what is handed out is the same, and so is
whatever they are asked later. That holds for timers in a queue, which are kept in order, and for timers in
a pile, which are not.

* `Keeping`: a way to keep timers, `Keeping.respond`: what it answers to a request;
* `Keeping.Alike`: nothing that is asked later tells two states apart;
* `Keeping.Splits`: time that passes in two parts does what it does at once;
* `TimerQueue.drain_drain`: first what is due early, and then what is due late;
* `splits_time`: time can be split, whatever was asked before.
-/

import Storybook.Proofs.Piles

namespace Storybook

variable {τ σ ρ : Type}

/-! ### Requests -/

/-- What is asked of timers. -/
inductive Request (τ : Type)
  | schedule (delay : Nat) (task : τ)
  | repeatEvery (span : Nat) (task : τ)
  | cancel (id : TimerId)
  | isPending (id : TimerId)
  | size
  | advance (span : Nat)

/-- What is answered. -/
inductive Answer (τ : Type)
  | given (id : TimerId)
  | whether (holds : Bool)
  | count (timers : Nat)
  | handed (tasks : List (TimerId × τ))

/-- A way to keep timers. -/
structure Keeping (τ σ : Type) where
  empty : σ
  schedule : σ → Nat → τ → TimerId × σ
  repeatEvery : σ → Nat → τ → TimerId × σ
  cancel : σ → TimerId → Bool × σ
  isPending : σ → TimerId → Bool
  size : σ → Nat
  advance : σ → Nat → List (Timer τ) × σ

namespace Keeping

/-- Timers in order. -/
def queues : Keeping τ (TimerQueue τ) where
  empty := TimerQueue.empty
  schedule := TimerQueue.schedule
  repeatEvery := TimerQueue.repeatEvery
  cancel := TimerQueue.cancel
  isPending := TimerQueue.isPending
  size := TimerQueue.size
  advance := TimerQueue.advance

/-- Timers as they come to lie. -/
def piles : Keeping τ (TimerPile τ) where
  empty := TimerPile.empty
  schedule := TimerPile.schedule
  repeatEvery := TimerPile.repeatEvery
  cancel := TimerPile.cancel
  isPending := TimerPile.isPending
  size := TimerPile.size
  advance := TimerPile.advance

/-- What is handed out when time passes: the tasks, with the handles of their timers. -/
def handed (keeping : Keeping τ σ) (state : σ) (span : Nat) : List (TimerId × τ) :=
  (keeping.advance state span).1.map fun timer => (timer.id, timer.task)

/-- The timers when time has passed. -/
def later (keeping : Keeping τ σ) (state : σ) (span : Nat) : σ :=
  (keeping.advance state span).2

/-- What is answered to a request, and the timers afterwards. -/
def respond (keeping : Keeping τ σ) (state : σ) : Request τ → Answer τ × σ
  | .schedule delay task =>
    let (id, state) := keeping.schedule state delay task
    (.given id, state)
  | .repeatEvery span task =>
    let (id, state) := keeping.repeatEvery state span task
    (.given id, state)
  | .cancel id =>
    let (fewer, state) := keeping.cancel state id
    (.whether fewer, state)
  | .isPending id => (.whether (keeping.isPending state id), state)
  | .size => (.count (keeping.size state), state)
  | .advance span => (.handed (keeping.handed state span), keeping.later state span)

/-- The timers after all that is asked. -/
def after (keeping : Keeping τ σ) (state : σ) (requests : List (Request τ)) : σ :=
  requests.foldl (fun state request => (keeping.respond state request).2) state

/-- What is answered to one request after the other. -/
def answers (keeping : Keeping τ σ) (state : σ) : List (Request τ) → List (Answer τ)
  | [] => []
  | request :: rest =>
    let response := keeping.respond state request
    response.1 :: answers keeping response.2 rest

/-- Nothing that is asked later tells two states apart. -/
def Alike (keeping : Keeping τ σ) (first second : σ) : Prop :=
  ∀ requests, keeping.answers first requests = keeping.answers second requests

/-- **Time that passes in two parts does what it does at once.** -/
structure Splits (keeping : Keeping τ σ) (state : σ) (first second : Nat) : Prop where
  handed : keeping.handed state first ++ keeping.handed (keeping.later state first) second =
    keeping.handed state (first + second)
  alike : keeping.Alike (keeping.later (keeping.later state first) second)
    (keeping.later state (first + second))

/-! ### One way for another -/

/-- **One way to keep timers does for another**: their states match at first, and whatever is asked, both
answer the same, and their states still match. -/
structure Simulates (one : Keeping τ σ) (other : Keeping τ ρ) (Match : σ → ρ → Prop) : Prop where
  empty : Match one.empty other.empty
  respond : ∀ {state model}, Match state model → ∀ request,
    (one.respond state request).1 = (other.respond model request).1 ∧
      Match (one.respond state request).2 (other.respond model request).2

namespace Simulates

variable {one : Keeping τ σ} {other : Keeping τ ρ} {Match : σ → ρ → Prop} {state : σ} {model : ρ}

theorem after (simulates : one.Simulates other Match) (fits : Match state model)
    (requests : List (Request τ)) : Match (one.after state requests) (other.after model requests) := by
  induction requests generalizing state model with
  | nil => exact fits
  | cons request rest ih => exact ih (simulates.respond fits request).2

/-- What matches answers the same. -/
theorem answers (simulates : one.Simulates other Match) (fits : Match state model)
    (requests : List (Request τ)) : one.answers state requests = other.answers model requests := by
  induction requests generalizing state model with
  | nil => rfl
  | cons request rest ih =>
    obtain ⟨same, further⟩ := simulates.respond fits request
    exact congrArg₂ List.cons same (ih further)

theorem handed (simulates : one.Simulates other Match) (fits : Match state model) (span : Nat) :
    one.handed state span = other.handed model span := by
  have same := (simulates.respond fits (.advance span)).1
  exact Answer.handed.inj same

theorem later (simulates : one.Simulates other Match) (fits : Match state model) (span : Nat) :
    Match (one.later state span) (other.later model span) :=
  (simulates.respond fits (.advance span)).2

/-- **Where time can be split for one, it can be split for the other.** -/
theorem splits (simulates : one.Simulates other Match) (fits : Match state model) {first second : Nat}
    (splits : other.Splits model first second) : one.Splits state first second where
  handed := by
    rw [simulates.handed fits, simulates.handed (simulates.later fits first),
      simulates.handed fits]
    exact splits.handed
  alike requests := by
    have parts := simulates.later (simulates.later fits first) second
    have whole := simulates.later fits (first + second)
    rw [simulates.answers parts, simulates.answers whole]
    exact splits.alike requests

end Simulates

/-- **A pile does for a queue.** -/
theorem piles_simulate : (piles : Keeping τ (TimerPile τ)).Simulates queues TimerPile.Sorts where
  empty := TimerPile.sorts_empty
  respond {pile queue} sorts request := by
    cases request with
    | schedule delay task =>
      obtain ⟨same, further⟩ := sorts.insert delay none task
      exact ⟨congrArg Answer.given same, further⟩
    | repeatEvery span task =>
      obtain ⟨same, further⟩ := sorts.insert (Period.ofSpan span).length (some (.ofSpan span)) task
      exact ⟨congrArg Answer.given same, further⟩
    | cancel id =>
      obtain ⟨same, fewer⟩ := sorts.cancel id
      exact ⟨congrArg Answer.whether same, fewer⟩
    | isPending id => exact ⟨congrArg Answer.whether (sorts.isPending id), sorts⟩
    | size => exact ⟨congrArg Answer.count sorts.size, sorts⟩
    | advance span =>
      obtain ⟨same, further⟩ := sorts.advance span
      have handed : piles.handed pile span = queues.handed queue span := congrArg (List.map _) same
      exact ⟨congrArg Answer.handed handed, further⟩

end Keeping

/-! ### Splitting time -/

namespace TimerQueue

/-- **First what is due early is handed out, and then what is due late**: together that is all that is due
late, and in its order. -/
theorem drain_drain {early late : Nat} (sooner : early ≤ late) (timers : List (Timer τ)) :
    drain late timers =
      ((drain early timers).1 ++ (drain late (drain early timers).2).1,
        (drain late (drain early timers).2).2) := by
  fun_induction drain early timers with
  | case1 => rfl
  | case2 first rest due once fired waiting split ih =>
    rw [split] at ih
    rw [drain, if_pos (Nat.le_trans due sooner)]
    simp only [once, ih, List.cons_append]
  | case3 first rest due period again fired waiting split ih =>
    rw [split] at ih
    rw [drain, if_pos (Nat.le_trans due sooner)]
    simp only [again, ih, List.cons_append]
  | case4 first rest wait => rfl

/-- A queue for which time has passed in two parts is the queue for which it has passed at once. -/
theorem advance_advance (queue : TimerQueue τ) (first second : Nat) :
    queue.advance (first + second) =
      ((queue.advance first).1 ++ ((queue.advance first).2.advance second).1,
        ((queue.advance first).2.advance second).2) := by
  have parts := drain_drain (Nat.le_add_right (queue.now + first) second) queue.timers
  unfold advance
  dsimp only
  rw [← Nat.add_assoc, parts]

theorem splits (queue : TimerQueue τ) (first second : Nat) :
    Keeping.queues.Splits queue first second where
  handed := by
    have whole := congrArg Prod.fst (queue.advance_advance first second)
    show List.map _ (queue.advance first).1 ++ List.map _ ((queue.advance first).2.advance second).1 =
      List.map _ (queue.advance (first + second)).1
    rw [whole, List.map_append]
  alike requests := by
    have whole := congrArg Prod.snd (queue.advance_advance first second)
    exact congrArg (Keeping.queues.answers · requests) whole.symm

end TimerQueue

/-- **Time can be split**: whatever was asked before, and whatever the two parts are, the same is handed out
in the same order, and nothing that is asked later tells the difference. That holds in a queue and in a
pile, which answer the same to everything. -/
theorem splits_time (requests : List (Request τ)) (first second : Nat) :
    (Keeping.queues.Splits (Keeping.queues.after .empty requests) first second ∧
      Keeping.piles.Splits (Keeping.piles.after .empty requests) first second) ∧
      Keeping.piles.answers (.empty : TimerPile τ) requests =
        Keeping.queues.answers (.empty : TimerQueue τ) requests := by
  have simulates := Keeping.piles_simulate (τ := τ)
  have start := simulates.empty
  have ordered := (Keeping.queues.after .empty requests).splits first second
  exact ⟨⟨ordered, simulates.splits (simulates.after start requests) ordered⟩,
    simulates.answers start requests⟩

end Storybook
