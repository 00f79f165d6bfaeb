/-
**The timers of a sound chain.**

A sound chain sets a timer for each sound whose turn is to come, and keeps its handle as pending until
the sound is played.

* `World.Sounds`: what a sound chain leaves alone;
* `SoundChain.Plans`: every timer for a sound is pending in the chain, and its sound is there;
* `SoundChain.plans_start`, `SoundChain.plans_play`, `SoundChain.plans_finish`: that stays so;
* `SoundChain.mem_timers_stop`: a chain that is stopped takes its timers with it.
-/

import Storybook.Proofs.Reports
import Storybook.Proofs.Timers
import Storybook.Sound.Chain

namespace Storybook

/-! ### What a sound chain leaves alone -/

/-- A timer that is to play a sound. -/
def Timer.PlaysSound (timer : Timer Task) : Prop :=
  ∃ link, timer.task = .playSound link

/-- Between the two worlds only a sound chain acts: the stage and the motions stay as they are, and
timers come only to play sounds. -/
structure World.Sounds (before after : World) : Prop where
  resources : after.resources = before.resources
  stage : after.stage = before.stage
  animator : after.animator = before.animator
  timers : ∀ timer ∈ after.timers.timers, timer ∈ before.timers.timers ∨ timer.PlaysSound
  grows : before.timers.Grows after.timers
  events : World.Reports Event.OfCast before after

namespace World

theorem Sounds.refl (world : World) : world.Sounds world :=
  ⟨rfl, rfl, rfl, fun _ member => Or.inl member, .refl _, .refl world⟩

theorem Sounds.trans {first second third : World} (left : first.Sounds second)
    (right : second.Sounds third) : first.Sounds third where
  resources := right.resources.trans left.resources
  stage := right.stage.trans left.stage
  animator := right.animator.trans left.animator
  timers timer member := (right.timers timer member).elim (left.timers timer) Or.inr
  grows := left.grows.trans right.grows
  events := left.events.trans right.events

/-- After timers are cancelled, the others are left. -/
theorem mem_cancelTimers {timers : List TimerId} {timer : Timer Task} :
    ∀ {world : World}, timer ∈ (timers.foldl cancelTimer world).timers.timers ↔
      timer ∈ world.timers.timers ∧ timer.id ∉ timers := by
  induction timers with
  | nil => simp
  | cons first rest ih =>
    intro world
    rw [List.foldl_cons, ih, cancelTimer, TimerQueue.mem_cancel, List.mem_cons, not_or, and_assoc]

/-- The cancelling of timers changes nothing else. -/
theorem cancelTimers_eq (timers : List TimerId) :
    ∀ world : World, timers.foldl cancelTimer world
      = { world with timers := (timers.foldl cancelTimer world).timers } := by
  induction timers with
  | nil => exact fun _ => rfl
  | cons first rest ih => exact fun world => ih (world.cancelTimer first)

theorem grows_cancelTimers (timers : List TimerId) :
    ∀ world : World, world.timers.Grows (timers.foldl cancelTimer world).timers := by
  induction timers with
  | nil => exact fun world => .refl world.timers
  | cons first rest ih =>
    exact fun world => (world.timers.grows_cancel first).trans (ih (world.cancelTimer first))

theorem sounds_cancelTimers (timers : List TimerId) (world : World) :
    world.Sounds (timers.foldl cancelTimer world) := by
  have grows := grows_cancelTimers timers world
  rw [cancelTimers_eq] at grows ⊢
  exact ⟨rfl, rfl, rfl, fun _ member => Or.inl (mem_cancelTimers.mp member).1, grows, .of_eq rfl⟩

end World

namespace SoundChain

variable {chain : SoundChain} {world : World}

/-- Every timer that is to play a sound is pending in the chain, and is due once. -/
def Plans (chain : SoundChain) (timers : List (Timer Task)) : Prop :=
  ∀ timer ∈ timers, ∀ link, timer.task = .playSound link →
    timer.period = none ∧ link < chain.links.length ∧ timer.id ∈ chain.pending

/-! ### The sounds that a chain names are there -/

theorem lt_of_mem_successors {links : List Story.Sound} {link next : Nat}
    (member : next ∈ successors links link) : next < links.length := by
  obtain ⟨_, _, _, _, _, found, _⟩ := mem_successors.mp member
  exact (List.getElem?_eq_some_iff.mp found).1

theorem lt_of_mem_roots {links : List Story.Sound} {link : Nat} (member : link ∈ roots links) :
    link < links.length :=
  List.mem_range.mp (List.mem_filter.mp member).1

/-! ### Waiting for a turn -/

theorem links_scheduleAll (links : List Nat) :
    ∀ (chain : SoundChain) (world : World),
      (chain.scheduleAll links world).1.links = chain.links := by
  induction links with
  | nil => exact fun _ _ => rfl
  | cons link rest ih => exact fun chain world => ih (chain.schedule link world).1 _

theorem sounds_scheduleAll (links : List Nat) :
    ∀ (chain : SoundChain) (world : World), world.Sounds (chain.scheduleAll links world).2 := by
  induction links with
  | nil => exact fun _ world => .refl world
  | cons link rest ih =>
    intro chain world
    have first : world.Sounds (chain.schedule link world).2 := by
      refine ⟨rfl, rfl, rfl, fun timer member => ?_, world.timers.grows_insert _ _ _, .of_eq rfl⟩
      rcases TimerQueue.mem_schedule.mp member with rfl | old
      · exact Or.inr ⟨link, rfl⟩
      · exact Or.inl old
    exact first.trans (ih _ _)

theorem plans_schedule {link : Nat} (plans : chain.Plans world.timers.timers)
    (inside : link < chain.links.length) :
    (chain.schedule link world).1.Plans (chain.schedule link world).2.timers.timers := by
  intro timer member other task
  rcases TimerQueue.mem_schedule.mp member with rfl | old
  · cases task
    exact ⟨rfl, inside, List.mem_append_right _ (List.mem_singleton.mpr rfl)⟩
  · obtain ⟨once, there, pending⟩ := plans timer old other task
    exact ⟨once, there, List.mem_append_left _ pending⟩

theorem plans_scheduleAll (links : List Nat) :
    ∀ {chain : SoundChain} {world : World}, chain.Plans world.timers.timers →
      (∀ link ∈ links, link < chain.links.length) →
        (chain.scheduleAll links world).1.Plans (chain.scheduleAll links world).2.timers.timers := by
  induction links with
  | nil => exact fun plans _ => plans
  | cons link rest ih =>
    intro chain world plans inside
    exact ih (plans_schedule plans (inside link List.mem_cons_self))
      fun other member => inside other (List.mem_cons_of_mem _ member)

/-! ### The course of a chain -/

theorem sounds_start (chain : SoundChain) (world : World) : world.Sounds (chain.start world).2 :=
  sounds_scheduleAll _ chain world

theorem plans_start (plans : chain.Plans world.timers.timers) :
    (chain.start world).1.Plans (chain.start world).2.timers.timers :=
  plans_scheduleAll _ plans fun _ => lt_of_mem_roots

theorem links_play (chain : SoundChain) (link : Nat) (world : World) :
    (chain.play link world).1.links = chain.links := by
  unfold play
  dsimp only
  split
  · rfl
  · split <;> rfl

theorem sounds_play (chain : SoundChain) (link : Nat) (world : World) :
    world.Sounds (chain.play link world).2 := by
  unfold play
  dsimp only
  split
  · exact ⟨rfl, rfl, rfl, fun _ member => Or.inl member, .refl _, .of_eq rfl⟩
  · split <;>
      exact ⟨rfl, rfl, rfl, fun _ member => Or.inl member, .refl _, World.reports_report _ trivial⟩

/-- The sounds whose timers are still there stay pending when a sound is played. -/
theorem plans_play (plans : chain.Plans world.timers.timers) (link : Nat) :
    (chain.play link world).1.Plans (chain.play link world).2.timers.timers := by
  have kept : ∀ timer ∈ world.timers.timers, ∀ other, timer.task = .playSound other →
      timer.period = none ∧ other < chain.links.length ∧
        timer.id ∈ chain.pending.filter world.timers.isPending := by
    intro timer member other task
    obtain ⟨once, inside, pending⟩ := plans timer member other task
    refine ⟨once, inside, List.mem_filter.mpr ⟨pending, ?_⟩⟩
    exact TimerQueue.isPending_iff.mpr ⟨timer, member, rfl⟩
  unfold play
  dsimp only
  split
  · exact kept
  · split <;> exact kept

theorem links_finish (chain : SoundChain) (playback : PlaybackId) (world : World) :
    (chain.finish playback world).2.1.links = chain.links := by
  unfold finish
  split
  · rfl
  · exact links_scheduleAll _ _ _

theorem sounds_finish (chain : SoundChain) (playback : PlaybackId) (world : World) :
    world.Sounds (chain.finish playback world).2.2 := by
  unfold finish
  split
  · exact .refl world
  · exact sounds_scheduleAll _ _ _

theorem plans_finish (plans : chain.Plans world.timers.timers) (playback : PlaybackId) :
    (chain.finish playback world).2.1.Plans (chain.finish playback world).2.2.timers.timers := by
  unfold finish
  split
  · exact plans
  · exact plans_scheduleAll _ plans fun _ => lt_of_mem_successors

/-! ### Stopping -/

theorem mem_timers_stop {chain : SoundChain} {world : World} {timer : Timer Task} :
    timer ∈ (chain.stop world).2.timers.timers ↔
      timer ∈ world.timers.timers ∧ timer.id ∉ chain.pending :=
  World.mem_cancelTimers

theorem sounds_stop (chain : SoundChain) (world : World) : world.Sounds (chain.stop world).2 := by
  have cancelled := world.sounds_cancelTimers chain.pending
  exact ⟨cancelled.resources, cancelled.stage, cancelled.animator, cancelled.timers,
    cancelled.grows, cancelled.events⟩

end SoundChain

end Storybook
