/-
**How many sounds are under way.**

Of a chain that is under way those instances of sounds are live that wait for their turn, and the playings
that others may follow. When a playing has ended, it is replaced by one instance of each sound that follows
it, and nothing else ever adds one. So there are never more of them than the roots branch out into; but where
ways part and meet again, they multiply.

* `SoundChain.Replaces`: an instance is replaced by those that follow it, `SoundChain.Yields`: time and again;
* `SoundChain.Bears`: weights of the sounds that no replacement adds to, `Yields.weight_le`;
* `Course.instances`: the live instances of a course, `Course.Moment`: what a frame has still to do;
* `Course.Tidy`: they have come of the roots, `Course.tidy_moment`: that is so at every moment;
* `Course.bounded_run`: how many there can be.

There may be more of them than there are sounds (`Course.twins_multiply`).
-/

import Mathlib.Algebra.Order.BigOperators.Group.Multiset
import Mathlib.Algebra.Order.Group.Nat
import Storybook.Proofs.Searches
import Storybook.Proofs.Succession

namespace Storybook

open Story.Sound (waitOf isFollowed)

/-! ### Replacements -/

namespace SoundChain

variable {links : List Story.Sound} {first last : Multiset Nat}

/-- An instance of a sound is replaced by one of each sound that follows it. -/
inductive Replaces (links : List Story.Sound) : Multiset Nat → Multiset Nat → Prop
  | step (link : Nat) (rest : Multiset Nat) :
      Replaces links (link ::ₘ rest) (successors links link + rest)

/-- Some instances of sounds come of others, when one after the other is replaced. -/
def Yields (links : List Story.Sound) : Multiset Nat → Multiset Nat → Prop :=
  Relation.ReflTransGen (Replaces links)

/-- What is replaced is replaced among others, too. -/
theorem Yields.add_right (yields : Yields links first last) (others : Multiset Nat) :
    Yields links (first + others) (last + others) := by
  induction yields with
  | refl => exact .refl
  | tail _ step ih =>
    cases step with
    | step link rest =>
      rw [Multiset.cons_add] at ih
      rw [add_assoc]
      exact ih.tail (.step link (rest + others))

theorem Yields.add_left (yields : Yields links first last) (others : Multiset Nat) :
    Yields links (others + first) (others + last) := by
  rw [add_comm others first, add_comm others last]
  exact yields.add_right others

/-- The sounds that nothing can follow go away. -/
theorem yields_filter (links : List Story.Sound) (instances : List Nat) :
    Yields links instances (instances.filter (isFollowed links ·) : List Nat) := by
  induction instances with
  | nil => exact .refl
  | cons link rest ih =>
    by_cases followed : isFollowed links link = true
    · rw [List.filter_cons_of_pos followed]
      exact ih.add_left {link}
    · have none : successors links link = [] := Course.successors_eq_nil followed
      have gone : Replaces links (link ::ₘ rest) rest := by
        have step : Replaces links _ _ := .step link rest
        rwa [none, Multiset.coe_nil, zero_add] at step
      rw [List.filter_cons_of_neg followed]
      exact .head gone ih

/-! ### Weights -/

/-- A sound that is played if the sounds are started: a root, or one that a root leads to. -/
def IsReached (links : List Story.Sound) (link : Nat) : Prop :=
  ∃ root ∈ roots links, Reaches links root link

/-- **Weights that the sounds bear**: each that is reached weighs something, and at least as much as all that
follow it together. -/
def Bears (links : List Story.Sound) (weight : Nat → Nat) : Prop :=
  ∀ link, IsReached links link →
    1 ≤ weight link ∧ ((successors links link).map weight).sum ≤ weight link

theorem isReached_of_mem_roots {root : Nat} (member : root ∈ roots links) : IsReached links root :=
  ⟨root, member, .refl⟩

theorem IsReached.follow {link follower : Nat} (reached : IsReached links link)
    (follows : follower ∈ successors links link) : IsReached links follower := by
  obtain ⟨root, member, reaches⟩ := reached
  exact ⟨root, member, reaches.tail follows⟩

theorem IsReached.lt {link : Nat} (reached : IsReached links link) : link < links.length := by
  obtain ⟨root, member, reaches⟩ := reached
  cases reaches with
  | refl => exact lt_of_mem_roots member
  | tail _ follows => exact lt_of_mem_successors follows

/-- Of sounds that are reached only such come that are reached. -/
theorem Yields.isReached (yields : Yields links first last)
    (reached : ∀ link ∈ first, IsReached links link) : ∀ link ∈ last, IsReached links link := by
  induction yields with
  | refl => exact reached
  | tail _ step ih =>
    cases step with
    | step link rest =>
      intro other member
      rcases Multiset.mem_add.mp member with follows | old
      · exact (ih link (Multiset.mem_cons_self _ _)).follow follows
      · exact ih other (Multiset.mem_cons_of_mem old)

/-- **No replacement adds to the weight** of all instances together. -/
theorem Yields.weight_le {weight : Nat → Nat} (bears : Bears links weight)
    (yields : Yields links first last) (reached : ∀ link ∈ first, IsReached links link) :
    (last.map weight).sum ≤ (first.map weight).sum := by
  induction yields with
  | refl => exact Nat.le_refl _
  | tail before step ih =>
    cases step with
    | step link rest =>
      have there := Yields.isReached before reached link (Multiset.mem_cons_self _ _)
      have lighter := (bears link there).2
      rw [Multiset.map_cons, Multiset.sum_cons] at ih
      rw [Multiset.map_add, Multiset.sum_add, Multiset.map_coe, Multiset.sum_coe]
      omega

/-- So there are no more instances of sounds than those weigh that they come of. -/
theorem Yields.card_le {weight : Nat → Nat} (bears : Bears links weight)
    (yields : Yields links first last) (reached : ∀ link ∈ first, IsReached links link) :
    last.card ≤ (first.map weight).sum := by
  have each : ∀ one ∈ last.map weight, 1 ≤ one := by
    intro one member
    obtain ⟨link, inside, rfl⟩ := Multiset.mem_map.mp member
    exact (bears link (yields.isReached reached link inside)).1
  have heavy := Multiset.card_nsmul_le_sum each
  rw [Multiset.card_map, Nat.nsmul_eq_mul, Nat.mul_one] at heavy
  exact heavy.trans (yields.weight_le bears reached)

/-! ### Sounds that do not multiply -/

/-- No sound that is reached is followed by more than one. -/
def Unbranched (links : List Story.Sound) : Prop :=
  ∀ link, IsReached links link → (successors links link).length ≤ 1

/-- Two sounds reach no sound in common. -/
def Apart (links : List Story.Sound) (link other : Nat) : Prop :=
  ∀ target, Reaches links link target → ¬ Reaches links other target

/-- **Ways that part never meet again**: neither those from the sounds that follow the same one, nor those
from two roots. -/
structure Parted (links : List Story.Sound) : Prop where
  followers : ∀ link, IsReached links link → (successors links link).Pairwise (Apart links)
  roots : (roots links).Pairwise (Apart links)

/-- Where no sound is followed by more than one, all may weigh the same. -/
theorem Unbranched.bears (unbranched : Unbranched links) : Bears links fun _ => 1 := by
  intro link reached
  have single := unbranched link reached
  simpa using single

open Classical in
/-- The sounds that a sound reaches. -/
noncomputable def realm (links : List Story.Sound) (link : Nat) : Finset Nat :=
  (Finset.range links.length).filter (Reaches links link)

theorem mem_realm {link other : Nat} :
    other ∈ realm links link ↔ other < links.length ∧ Reaches links link other := by
  simp [realm]

/-- Sets that have nothing in common have together no more members than one that holds them all. -/
theorem sum_card_le {realm : Nat → Finset Nat} {list : List Nat} {all : Finset Nat}
    (inside : ∀ link ∈ list, realm link ⊆ all)
    (apart : list.Pairwise fun link other => Disjoint (realm link) (realm other)) :
    (list.map fun link => (realm link).card).sum ≤ all.card := by
  induction list generalizing all with
  | nil => exact Nat.zero_le _
  | cons link rest ih =>
    obtain ⟨own, others⟩ := List.forall_mem_cons.mp inside
    obtain ⟨away, further⟩ := List.pairwise_cons.mp apart
    have left : ∀ other ∈ rest, realm other ⊆ all \ realm link := fun other member =>
      Finset.subset_sdiff.mpr ⟨others other member, (away other member).symm⟩
    have fewer := ih left further
    have whole := Finset.card_sdiff_add_card_eq_card own
    rw [List.map_cons, List.sum_cons]
    omega

theorem Apart.disjoint {link other : Nat} (apart : Apart links link other) :
    Disjoint (realm links link) (realm links other) := by
  rw [Finset.disjoint_left]
  intro target first second
  exact apart target (mem_realm.mp first).2 (mem_realm.mp second).2

/-- Where ways that part never meet again, each sound may weigh as much as it reaches. -/
theorem Parted.bears (parted : Parted links) : Bears links fun link => (realm links link).card := by
  intro link reached
  constructor
  · exact Finset.card_pos.mpr ⟨link, mem_realm.mpr ⟨reached.lt, .refl⟩⟩
  · apply sum_card_le
    · intro follower follows other member
      obtain ⟨inside, reaches⟩ := mem_realm.mp member
      exact mem_realm.mpr ⟨inside, .head follows reaches⟩
    · exact (parted.followers link reached).imp Apart.disjoint

/-- The roots weigh no more than there are sounds then. -/
theorem Parted.sum_roots_le (parted : Parted links) :
    ((SoundChain.roots links).map fun link => (realm links link).card).sum ≤ links.length := by
  have inside : ∀ root ∈ SoundChain.roots links, realm links root ⊆ Finset.range links.length :=
    fun root _ other member => Finset.mem_range.mpr (mem_realm.mp member).1
  have few := sum_card_le inside (parted.roots.imp Apart.disjoint)
  rwa [Finset.card_range] at few

end SoundChain

/-! ### Courses -/

namespace Course

open SoundChain (roots successors Yields IsReached Bears Unbranched Parted)

variable {links : List Story.Sound} {world : World} {course : Course}

/-- **How many instances of sounds are live**: those that wait for their turn, and the playings that others may
follow. -/
def live (course : Course) : Nat :=
  course.world.timers.turns.length + course.chain.awaiting.length

/-- The sounds of which they are. -/
def instances (course : Course) : Multiset Nat :=
  ↑(course.world.timers.turns.map Prod.fst) + ↑(course.chain.awaiting.map Prod.snd)

theorem card_instances (course : Course) : course.instances.card = course.live := by
  simp [instances, live]

/-- **A moment of a course**: some tasks of its frame are still to be done, and some ends of playings are
still to be told. -/
inductive Moment (links : List Story.Sound) (world : World) : List Task → List PlaybackId → Course → Prop
  | start : Moment links world [] [] (start links world)
  | lapse {course : Course} (span : Nat) (before : Moment links world [] [] course) :
      Moment links world (course.world.advanceClock span).1 [] (course.lapse span)
  | perform {task : Task} {tasks : List Task} {course : Course}
      (before : Moment links world (task :: tasks) [] course) :
      Moment links world tasks [] (course.perform task)
  | drain {course : Course} (before : Moment links world [] [] course) :
      Moment links world [] course.world.takeFinished.1
        { course with world := course.world.takeFinished.2 }
  | finish {playback : PlaybackId} {playbacks : List PlaybackId} {course : Course}
      (before : Moment links world [] (playback :: playbacks) course) :
      Moment links world [] playbacks (course.finish playback)

theorem Moment.performEach {tasks : List Task} (before : Moment links world tasks [] course) :
    Moment links world [] [] (tasks.foldl Course.perform course) := by
  induction tasks generalizing course with
  | nil => exact before
  | cons task rest ih => exact ih before.perform

theorem Moment.finishEach {playbacks : List PlaybackId} (before : Moment links world [] playbacks course) :
    Moment links world [] [] (playbacks.foldl Course.finish course) := by
  induction playbacks generalizing course with
  | nil => exact before
  | cons playback rest ih => exact ih before.finish

/-- Between its frames a course is at a moment at which nothing is left to do. -/
theorem moment_run (links : List Story.Sound) (world : World) (spans : List Nat) :
    Moment links world [] [] (run links world spans) := by
  induction spans using List.reverseRecOn with
  | nil => exact .start
  | append_singleton spans span ih =>
    have last : run links world (spans ++ [span]) = (run links world spans).pass span := by
      rw [run, List.foldl_append]
      rfl
    exact last ▸ ((ih.lapse span).performEach).drain.finishEach

/-- **The live instances of a course have come of the roots**, together with the sounds that it has in hand.
Every playing that the chain waits for has a handle of its own. -/
structure Tidy (links : List Story.Sound) (tasks : List Task) (course : Course) : Prop where
  own : course.chain.links = links
  regular : course.world.timers.Regular
  single : (course.chain.awaiting.map Prod.fst).Nodup
  issued : ∀ entry ∈ course.chain.awaiting, entry.1.number ≤ course.world.audio.issued
  yields : Yields links (roots links) (course.instances + ↑(tasks.filterMap Task.link?))

variable {tasks : List Task}

theorem Tidy.isReached (tidy : Tidy links tasks course) :
    ∀ link ∈ course.instances + ↑(tasks.filterMap Task.link?), IsReached links link :=
  tidy.yields.isReached fun _ root => SoundChain.isReached_of_mem_roots root

/-! ### Every moment -/

/-- A chain that has just been started: the roots wait for their turn. -/
theorem tidy_start (links : List Story.Sound) (ordered : Timer.Ordered world.timers.timers)
    (free : ∀ timer ∈ world.timers.timers, ¬ timer.PlaysSound) : Tidy links [] (start links world) := by
  obtain ⟨pending, timers, whole, _, regular, turns⟩ :=
    scheduleAll_eq (roots links) (SoundChain.ofLinks links) world
      (TimerQueue.regular_of_free ordered free)
  have begins : start links world = ⟨⟨links, [], pending⟩, { world with timers }, 0, [], []⟩ := by
    unfold start SoundChain.start
    rw [show (SoundChain.ofLinks links).links = links from rfl, whole]
    rfl
  rw [TimerQueue.turns_eq_nil free, List.nil_append] at turns
  have wait : (timers.turns.map Prod.fst).Perm (roots links) := by
    have firsts := turns.map Prod.fst
    rwa [List.map_map, show (Prod.fst ∘ fun link => (link, _)) = id from rfl, List.map_id] at firsts
  rw [begins]
  refine ⟨rfl, regular, List.nodup_nil, nofun, ?_⟩
  show Yields links _ (↑(timers.turns.map Prod.fst) + 0 + 0)
  rw [add_zero, add_zero, Multiset.coe_eq_coe.mpr wait]
  exact .refl

/-- **Time passes**: the sounds that are due are in hand, and the others wait on. -/
theorem Tidy.lapse (tidy : Tidy links [] course) (span : Nat) :
    Tidy links (course.world.advanceClock span).1 (course.lapse span) where
  own := tidy.own
  regular := TimerQueue.regular_advance tidy.regular span
  single := tidy.single
  issued := tidy.issued
  yields := by
    have parts := (List.filter_append_perm
      (fun turn : Nat × Nat => decide (turn.2 ≤ course.world.timers.now + span))
      course.world.timers.turns).map Prod.fst
    rw [List.map_append] at parts
    have whole : (course.lapse span).instances +
        ↑((course.world.advanceClock span).1.filterMap Task.link?) = course.instances := by
      have waiting : (course.lapse span).world.timers.turns = _ :=
        TimerQueue.turns_advance tidy.regular span
      rw [instances, instances, waiting, links_advanceClock tidy.regular, add_right_comm,
        ← Multiset.coe_eq_coe.mpr parts, ← Multiset.coe_add, add_comm (Multiset.ofList _)]
      rfl
    rw [whole]
    exact (add_zero course.instances) ▸ tidy.yields

/-- A sound that is played joins the instances, if it can be followed. -/
theorem instances_play {link : Nat} (inside : link < course.chain.links.length) :
    (course.play link).instances =
      course.instances + ↑([link].filter (isFollowed course.chain.links ·)) := by
  have plays := plays_play course inside
  rw [instances, instances, plays.awaiting, plays.timers, List.map_append, ← Multiset.coe_add, ← add_assoc]
  by_cases followed : isFollowed course.chain.links link <;> simp [followed]

/-- A playing that is waited for from now on has a handle that is new. -/
theorem Tidy.single_play (tidy : Tidy links tasks course) {link : Nat}
    (inside : link < course.chain.links.length) :
    ((course.play link).chain.awaiting.map Prod.fst).Nodup ∧
      ∀ entry ∈ (course.play link).chain.awaiting, entry.1.number ≤ (course.play link).world.audio.issued := by
  have plays := plays_play course inside
  rw [plays.awaiting, plays.issued, List.map_append]
  by_cases followed : isFollowed course.chain.links link
  · refine ⟨List.nodup_append.mpr ⟨tidy.single, by simp [followed], fun old before new begun same => ?_⟩,
      List.forall_mem_append.mpr ⟨fun entry member => ?_, by simp [followed]⟩⟩
    · obtain ⟨entry, member, rfl⟩ := List.mem_map.mp before
      have fresh : new = ⟨course.world.audio.issued + 1⟩ := by simpa [followed] using begun
      have known := tidy.issued entry member
      rw [same, fresh] at known
      exact absurd known (Nat.not_succ_le_self _)
    · exact Nat.le_succ_of_le (tidy.issued entry member)
  · simp only [followed, Bool.false_eq_true, not_false_eq_true, List.filter_cons_of_neg, List.filter_nil,
      List.map_nil, List.append_nil]
    exact ⟨tidy.single, fun entry member => Nat.le_succ_of_le (tidy.issued entry member)⟩

/-- **A sound is played** and then waited for, or it goes away if none can follow it. -/
theorem Tidy.perform {task : Task} (tidy : Tidy links (task :: tasks) course) :
    Tidy links tasks (course.perform task) := by
  have yields := tidy.yields
  cases turn : task.link? with
  | none =>
    have idle : course.perform task = course := by rw [Course.perform, turn]
    rw [List.filterMap_cons_none turn] at yields
    rw [idle]
    exact ⟨tidy.own, tidy.regular, tidy.single, tidy.issued, yields⟩
  | some link =>
    have does : course.perform task = course.play link := by rw [Course.perform, turn]
    have reached := tidy.isReached
    rw [List.filterMap_cons_some turn] at yields reached
    have here : link ∈ course.instances + ↑(link :: tasks.filterMap Task.link?) :=
      Multiset.mem_add.mpr (.inr List.mem_cons_self)
    have inside : link < course.chain.links.length := tidy.own ▸ (reached link here).lt
    have plays := plays_play course inside
    obtain ⟨single, issued⟩ := tidy.single_play inside
    rw [does]
    refine ⟨plays.links.trans tidy.own, plays.timers ▸ tidy.regular, single, issued, ?_⟩
    -- The sound in hand becomes an instance, or goes away.
    have gone := (SoundChain.yields_filter links [link]).add_left
      (course.instances + ↑(tasks.filterMap Task.link?))
    rw [Multiset.coe_singleton] at gone
    rw [instances_play inside, tidy.own, add_right_comm]
    rw [← Multiset.cons_coe, ← Multiset.singleton_add, add_left_comm, add_comm] at yields
    exact yields.trans gone

/-- A playing that the chain waits for stands there once. -/
theorem perm_forget {chain : SoundChain} {playback : PlaybackId} {link : Nat}
    (single : (chain.awaiting.map Prod.fst).Nodup)
    (awaited : chain.awaiting.lookup playback = some link) :
    chain.awaiting.Perm ((playback, link) :: (chain.forget playback).awaiting) := by
  obtain ⟨before, after, split, _⟩ := List.lookup_eq_some_iff.mp awaited
  rw [split] at single
  have others : (chain.forget playback).awaiting = before ++ after := by
    unfold SoundChain.forget
    rw [split]
    exact filter_ne_of_distinct single
  rw [others, split]
  exact List.perm_middle

/-- **A playing that has ended is replaced by the sounds that follow it.** -/
theorem Tidy.finish (tidy : Tidy links tasks course) (playback : PlaybackId) :
    Tidy links tasks (course.finish playback) := by
  unfold Course.finish
  cases found : course.chain.awaiting.lookup playback with
  | none =>
    have idle : course.chain.finish playback course.world = (false, course.chain, course.world) := by
      unfold SoundChain.finish
      rw [found]
    rw [idle]
    exact ⟨tidy.own, tidy.regular, tidy.single, tidy.issued, tidy.yields⟩
  | some link =>
    obtain ⟨pending, timers, whole, _, regular, turns⟩ :=
      scheduleAll_eq (successors course.chain.links link) (course.chain.forget playback) course.world
        tidy.regular
    have rest := perm_forget tidy.single found
    have kept : (course.chain.forget playback).awaiting.Sublist course.chain.awaiting :=
      List.filter_sublist
    rw [SoundChain.finish_eq found, whole]
    refine ⟨tidy.own, regular, tidy.single.sublist (kept.map Prod.fst),
      fun entry member => tidy.issued entry (kept.subset member), ?_⟩
    -- The instance of the playing is replaced by those that are scheduled.
    have before : course.instances = link ::ₘ (↑(course.world.timers.turns.map Prod.fst) +
        ↑((course.chain.forget playback).awaiting.map Prod.snd)) := by
      rw [instances, Multiset.coe_eq_coe.mpr (rest.map Prod.snd), List.map_cons, ← Multiset.cons_coe,
        Multiset.add_cons]
    have firsts : (timers.turns.map Prod.fst).Perm
        (successors links link ++ course.world.timers.turns.map Prod.fst) := by
      have both := turns.map Prod.fst
      rw [List.map_append, List.map_map, tidy.own] at both
      refine both.trans (List.perm_append_comm.trans (.of_eq ?_))
      exact congrArg (· ++ _) (List.map_id _)
    have yields := tidy.yields
    rw [before, Multiset.cons_add] at yields
    have step := yields.tail (SoundChain.Replaces.step link _)
    show Yields links _ (↑(timers.turns.map Prod.fst) +
      ↑((course.chain.forget playback).awaiting.map Prod.snd) + _)
    rw [Multiset.coe_eq_coe.mpr firsts, ← Multiset.coe_add, add_assoc, add_assoc]
    rwa [add_assoc] at step

/-- **What one step keeps**, whatever is still to be done in its frame. -/
theorem tidy_moment (ordered : Timer.Ordered world.timers.timers)
    (free : ∀ timer ∈ world.timers.timers, ¬ timer.PlaysSound) {playbacks : List PlaybackId}
    (moment : Moment links world tasks playbacks course) : Tidy links tasks course := by
  induction moment with
  | start => exact tidy_start links ordered free
  | lapse span _ ih => exact ih.lapse span
  | perform _ ih => exact ih.perform
  | drain _ ih => exact ⟨ih.own, ih.regular, ih.single, ih.issued, ih.yields⟩
  | finish _ ih => exact ih.finish _

/-! ### How many there can be -/

/-- **How many live instances a course has at most**, while it has some tasks in hand. -/
structure Bounded (links : List Story.Sound) (tasks : List Task) (course : Course) : Prop where
  /-- They have come of the roots by replacements, and so has what is in hand. -/
  yields : Yields links (roots links) (course.instances + ↑(tasks.filterMap Task.link?))
  /-- They weigh no more than the roots. -/
  weighed : ∀ weight, Bears links weight → course.live ≤ ((roots links).map weight).sum
  /-- If no sound is followed by more than one, there are no more of them than there are roots. -/
  unbranched : Unbranched links → course.live ≤ (roots links).length
  /-- If ways that part never meet again, there are no more of them than there are sounds, either. -/
  few : Unbranched links ∨ Parted links → course.live ≤ links.length

theorem Tidy.live_le (tidy : Tidy links tasks course) {weight : Nat → Nat} (bears : Bears links weight) :
    course.live ≤ ((roots links).map weight).sum := by
  have all := tidy.yields.card_le bears fun _ root => SoundChain.isReached_of_mem_roots root
  rw [Multiset.card_add, card_instances, Multiset.map_coe, Multiset.sum_coe] at all
  omega

/-- **Sounds multiply only where they branch out.** For every list of sounds, and at every moment of every
course, the live instances are what the roots have been replaced by. -/
theorem bounded_run (links : List Story.Sound) (world : World)
    (ordered : Timer.Ordered world.timers.timers)
    (free : ∀ timer ∈ world.timers.timers, ¬ timer.PlaysSound) :
    (∀ spans, Moment links world [] [] (run links world spans)) ∧
      ∀ tasks playbacks course, Moment links world tasks playbacks course →
        Bounded links tasks course := by
  refine ⟨moment_run links world, fun tasks playbacks course moment => ?_⟩
  have tidy := tidy_moment ordered free moment
  have unbranched : Unbranched links → course.live ≤ (roots links).length := by
    intro single
    have light := tidy.live_le single.bears
    simpa using light
  refine ⟨tidy.yields, fun weight bears => tidy.live_le bears, unbranched, ?_⟩
  rintro (single | parted)
  · have roots_le : (roots links).length ≤ links.length :=
      (List.length_filter_le _ _).trans_eq List.length_range
    exact (unbranched single).trans roots_le
  · exact (tidy.live_le parted.bears).trans parted.sum_roots_le

/-- Two bells that are both followed by a drum, which goes on and on. -/
def peal : List Story.Sound :=
  [⟨some "dawn", "bell.mp3", 1, some 100, some "toll"⟩,
   ⟨some "dusk", "bell.mp3", 1, some 400, some "toll"⟩,
   ⟨some "toll", "drum.mp3", 1, none, some "toll"⟩]

/-- The drum is played twice at a time then, and never a third time. -/
theorem bounded_peal :
    Timer.Ordered hall.timers.timers ∧ (∀ timer ∈ hall.timers.timers, ¬ timer.PlaysSound) ∧
      Unbranched peal ∧ roots peal = [0, 1] ∧
      (∀ spans, Moment peal hall [] [] (run peal hall spans)) ∧
      (∀ tasks playbacks course, Moment peal hall tasks playbacks course → course.live ≤ 2) ∧
      (run peal hall ([100, 300, 700, 1, 299, 1].map Span.millis)).instances = {2, 2} := by
  have heads : roots peal = [0, 1] := by decide +kernel
  have single : Unbranched peal := by
    have each : ∀ link < 3, (successors peal link).length ≤ 1 := by decide +kernel
    exact fun link reached => each link reached.lt
  obtain ⟨runs, all⟩ := bounded_run peal hall .nil nofun
  refine ⟨.nil, nofun, single, heads, runs, fun tasks playbacks course moment => ?_, by decide +kernel⟩
  have few := (all tasks playbacks course moment).unbranched single
  rwa [heads] at few

/-- Two bells of one id, both of which name that id. -/
def twins : List Story.Sound :=
  [⟨some "gong", "bell.mp3", 1, some 0, some "gong"⟩, ⟨some "gong", "bell.mp3", 1, some 100, some "gong"⟩]

/-- **Sounds do multiply** where ways part and meet again: when a twin has ended, both wait for their turn.
So there are three instances of two sounds when the first twin has ended twice. -/
theorem twins_multiply :
    ¬ ∀ (links : List Story.Sound) (world : World) (spans : List Nat),
      Timer.Ordered world.timers.timers → (∀ timer ∈ world.timers.timers, ¬ timer.PlaysSound) →
        (run links world spans).live ≤ links.length := by
  intro never
  have two := never twins hall ([1, 1000, 1, 99, 901].map Span.millis) .nil nofun
  have three : (run twins hall ([1, 1000, 1, 99, 901].map Span.millis)).live = 3 := by decide +kernel
  rw [three] at two
  exact absurd two (by decide)

end Course

end Storybook
