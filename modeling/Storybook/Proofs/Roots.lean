/-
**Which sounds start by themselves.**

A sound leads to the sounds that follow it. The sounds that start by themselves are picked in order:
first those that no sound names, then each that nothing picked so far leads to. So nothing that is
picked leads to a later one; but one that is picked late may lead to one that was picked early.

* `SoundChain.mem_explore`: a search leaves what the sounds it starts from do not reach;
* `SoundChain.mem_pick`: what is picked, and `SoundChain.exists_root`: it reaches every sound with a wait;
* `SoundChain.independent_iff`: when no root leads to another, and how two roots can be related.

Roots need not be independent (`SoundChain.fed_root`).
-/

import Mathlib.Logic.Relation
import Storybook.Proofs.Sounding.Chains

namespace Storybook.SoundChain

variable {links : List Story.Sound} {unreached stack : List Nat}

/-- A sound leads to another one: that follows it, directly or after others. -/
def Leads (links : List Story.Sound) : Nat → Nat → Prop :=
  Relation.TransGen fun link follower => follower ∈ successors links link

/-- A sound is another one or leads to it. -/
def Reaches (links : List Story.Sound) : Nat → Nat → Prop :=
  Relation.ReflTransGen fun link follower => follower ∈ successors links link

/-- None of the sounds that start by themselves leads to another of them. -/
def Independent (links : List Story.Sound) : Prop :=
  ∀ root ∈ roots links, ∀ other ∈ roots links, other ≠ root → ¬ Leads links other root

/-- Whoever reaches a sound is the sound or leads to it. -/
theorem reaches_iff {link other : Nat} :
    Reaches links link other ↔ other = link ∨ Leads links link other :=
  Relation.reflTransGen_iff_eq_or_transGen

/-- What a sound reaches is the sound, or is reached from one that follows it. -/
theorem reaches_iff_successors {link other : Nat} :
    Reaches links link other ↔
      other = link ∨ ∃ follower ∈ successors links link, Reaches links follower other := by
  rw [Reaches, Relation.ReflTransGen.cases_head_iff, eq_comm]

/-! ### Search -/

/-- Nothing leads from a sound that was reached to an unreached one, but through the stack. -/
def Closed (links : List Story.Sound) (unreached stack : List Nat) : Prop :=
  ∀ link ∉ unreached, ∀ follower ∈ successors links link, follower ∈ unreached → follower ∈ stack

/-- What a sound reached so far leads to is reached already, or from the stack. -/
theorem Closed.enters (closed : Closed links unreached stack) {link other : Nat}
    (reaches : Reaches links link other) (left : other ∈ unreached) (gone : link ∉ unreached) :
    ∃ entry ∈ stack, Reaches links entry other := by
  induction reaches using Relation.ReflTransGen.head_induction_on with
  | refl => exact absurd left gone
  | @head link follower follows rest ih =>
    by_cases fresh : follower ∈ unreached
    · exact ⟨follower, closed link gone follower follows fresh, rest⟩
    · exact ih fresh

/-- To take a sound from the stack and put those that follow it there. -/
theorem Closed.visit {link : Nat} (closed : Closed links unreached (link :: stack))
    (distinct : unreached.Nodup) :
    Closed links (unreached.erase link) (successors links link ++ stack) := by
  intro other gone follower follows fresh
  obtain ⟨different, left⟩ := distinct.mem_erase_iff.mp fresh
  by_cases same : other = link
  · exact List.mem_append_left _ (same ▸ follows)
  · have before : other ∉ unreached := fun inside =>
      gone (distinct.mem_erase_iff.mpr ⟨same, inside⟩)
    exact List.mem_append_right _ <|
      (List.mem_cons.mp (closed other before follower follows left)).resolve_left different

/-- To skip a sound that was reached before. -/
theorem Closed.skip {link : Nat} (closed : Closed links unreached (link :: stack))
    (gone : link ∉ unreached) : Closed links unreached stack := by
  intro other outside follower follows left
  refine (List.mem_cons.mp (closed other outside follower follows left)).resolve_left ?_
  rintro rfl
  exact gone left

/-- **A search leaves what the stack does not reach.** -/
theorem mem_explore {link : Nat} (distinct : unreached.Nodup)
    (closed : Closed links unreached stack) :
    link ∈ explore links unreached stack ↔
      link ∈ unreached ∧ ∀ entry ∈ stack, ¬ Reaches links entry link := by
  fun_induction explore links unreached stack with
  | case1 unreached => simp
  | case2 unreached entry stack fresh ih =>
    rw [ih (distinct.erase entry) (closed.visit distinct), distinct.mem_erase_iff]
    rw [List.forall_mem_append, List.forall_mem_cons, reaches_iff_successors]
    constructor
    · rintro ⟨⟨different, left⟩, behind, others⟩
      exact ⟨left, not_or.mpr ⟨different, fun ⟨follower, follows, reaches⟩ =>
        behind follower follows reaches⟩, others⟩
    · rintro ⟨left, apart, others⟩
      obtain ⟨different, behind⟩ := not_or.mp apart
      exact ⟨⟨different, left⟩, fun follower follows reaches =>
        behind ⟨follower, follows, reaches⟩, others⟩
  | case3 unreached entry stack gone ih =>
    have rest := closed.skip gone
    rw [ih distinct rest, List.forall_mem_cons]
    refine and_congr_right fun left => ⟨fun others => ⟨fun reaches => ?_, others⟩, And.right⟩
    obtain ⟨other, inside, further⟩ := rest.enters reaches left gone
    exact others other inside further

/-- A search does not reach a sound twice. -/
theorem nodup_explore (distinct : unreached.Nodup) : (explore links unreached stack).Nodup := by
  fun_induction explore links unreached stack with
  | case1 => exact distinct
  | case2 unreached entry stack fresh ih => exact ih (distinct.erase entry)
  | case3 unreached entry stack gone ih => exact ih distinct

/-- After a search nothing leads from what was reached to what was not. -/
theorem closed_explore (distinct : unreached.Nodup) (closed : Closed links unreached stack) :
    Closed links (explore links unreached stack) [] := by
  intro link gone follower follows left
  rw [mem_explore distinct closed] at left
  obtain ⟨fresh, apart⟩ := left
  exfalso
  by_cases inside : link ∈ unreached
  · -- the sound was reached in this search, and then so is the follower
    refine gone ((mem_explore distinct closed).mpr ⟨inside, fun entry member reaches => ?_⟩)
    exact apart entry member (reaches.tail follows)
  · exact apart follower (closed link inside follower follows fresh) .refl

/-! ### Picking -/

/-- **What is picked**: the sounds with a wait that were not reached, and are not reached from one
that was picked before. -/
theorem mem_pick {list : List Nat} : ∀ {unreached : List Nat}, list.Pairwise (· < ·) →
    unreached.Nodup → Closed links unreached [] → ∀ link,
      (link ∈ pick links list unreached ↔
        link ∈ list ∧ isTimed links link ∧ link ∈ unreached ∧
          ∀ earlier ∈ pick links list unreached, earlier < link → ¬ Reaches links earlier link) := by
  induction list with
  | nil => simp [pick]
  | cons first rest ih =>
    intro unreached ordered distinct closed link
    obtain ⟨before, sorted⟩ := List.pairwise_cons.mp ordered
    have later : first ∉ rest := fun inside => Nat.lt_irrefl _ (before first inside)
    unfold pick
    by_cases fits : isTimed links first ∧ first ∈ unreached
    · rw [if_pos fits]
      have onward : Closed links unreached [first] := fun other outside follower follows left =>
        absurd (closed other outside follower follows left) List.not_mem_nil
      have known := ih sorted (nodup_explore distinct) (closed_explore distinct onward)
      simp only [mem_explore distinct onward, List.forall_mem_singleton] at known
      rw [List.mem_cons, List.mem_cons, List.forall_mem_cons]
      rw [known link]
      constructor
      · rintro (rfl | ⟨inside, timed, ⟨left, apart⟩, others⟩)
        · refine ⟨.inl rfl, fits.1, fits.2, fun less => absurd less (Nat.lt_irrefl _), ?_⟩
          intro earlier picked less
          exact absurd less (Nat.lt_asymm (before earlier ((known earlier).mp picked).1))
        · exact ⟨.inr inside, timed, left, fun _ => apart, others⟩
      · rintro ⟨rfl | inside, timed, left, apart, others⟩
        · exact .inl rfl
        · exact .inr ⟨inside, timed, ⟨left, apart (before link inside)⟩, others⟩
    · rw [if_neg fits]
      have known := ih sorted distinct closed link
      constructor
      · intro picked
        obtain ⟨inside, facts⟩ := known.mp picked
        exact ⟨List.mem_cons_of_mem _ inside, facts⟩
      · rintro ⟨inside, timed, left, others⟩
        refine known.mpr ⟨(List.mem_cons.mp inside).resolve_left ?_, timed, left, others⟩
        rintro rfl
        exact fits ⟨timed, left⟩

/-! ### Roots -/

/-- Nothing is reached before the first search. -/
theorem closed_range : Closed links (List.range links.length) (heads links) := by
  intro link outside follower follows _
  refine absurd (List.mem_range.mpr ?_) outside
  obtain ⟨_, _, found, _⟩ := mem_successors.mp follows
  exact (List.getElem?_eq_some_iff.mp found).1

/-- The sounds that no sound with a wait, named by none, reaches. -/
def unfed (links : List Story.Sound) : List Nat :=
  explore links (List.range links.length) (heads links)

theorem mem_unfed {link : Nat} :
    link ∈ unfed links ↔
      link < links.length ∧ ∀ head ∈ heads links, ¬ Reaches links head link := by
  rw [unfed, mem_explore List.nodup_range closed_range, List.mem_range]

theorem mem_heads {link : Nat} :
    link ∈ heads links ↔
      link < links.length ∧ isTimed links link ∧ isTargeted links link = false := by
  simp [heads]

/-- The sounds that are picked after the heads. -/
def picked (links : List Story.Sound) : List Nat :=
  pick links (List.range links.length) (unfed links)

/-- A sound is picked after the heads if it has a wait, and neither a head nor one that was picked
before reaches it. -/
theorem mem_picked {link : Nat} :
    link ∈ picked links ↔
      link < links.length ∧ isTimed links link ∧ link ∈ unfed links ∧
        ∀ earlier ∈ picked links, earlier < link → ¬ Reaches links earlier link := by
  have sorted : (List.range links.length).Pairwise (· < ·) := List.pairwise_lt_range
  have closed : Closed links (unfed links) [] := closed_explore List.nodup_range closed_range
  have facts := mem_pick sorted (nodup_explore List.nodup_range) closed link
  rwa [List.mem_range] at facts

/-- The sounds that start by themselves are the heads and the picked ones. -/
theorem mem_roots {link : Nat} :
    link ∈ roots links ↔ link ∈ heads links ∨ link ∈ picked links := by
  show link ∈ (List.range links.length).filter _ ↔ _
  simp only [List.mem_filter, List.mem_range, Bool.or_eq_true, List.contains_iff_mem]
  refine and_iff_right_of_imp ?_
  rintro (head | late)
  · exact (mem_heads.mp head).1
  · exact (mem_picked.mp late).1

/-- A sound that starts by itself has a wait. -/
theorem timed_of_mem_roots {link : Nat} (root : link ∈ roots links) : isTimed links link := by
  rcases mem_roots.mp root with head | late
  · exact (mem_heads.mp head).2.1
  · exact (mem_picked.mp late).2.1

theorem lt_of_isTimed {link : Nat} (timed : isTimed links link) : link < links.length := by
  obtain ⟨_, _, found, _⟩ := isTimed_iff.mp timed
  exact (List.getElem?_eq_some_iff.mp found).1

/-- **Every sound with a wait is reached** from one that starts by itself. -/
theorem exists_root {link : Nat} (timed : isTimed links link) :
    ∃ root ∈ roots links, Reaches links root link := by
  by_cases fed : link ∈ unfed links
  · by_cases late : link ∈ picked links
    · exact ⟨link, mem_roots.mpr (.inr late), .refl⟩
    · rw [mem_picked] at late
      push Not at late
      obtain ⟨earlier, first, _, reaches⟩ := late (lt_of_isTimed timed) timed fed
      exact ⟨earlier, mem_roots.mpr (.inr first), reaches⟩
  · rw [mem_unfed] at fed
    push Not at fed
    obtain ⟨head, first, reaches⟩ := fed (lt_of_isTimed timed)
    exact ⟨head, mem_roots.mpr (.inl first), reaches⟩

/-- A sound that follows another one is named. -/
theorem isTargeted_of_mem_successors {link follower : Nat}
    (follows : follower ∈ successors links link) : isTargeted links follower := by
  obtain ⟨sound, next, found, names, other, inside, own⟩ := mem_successors.mp follows
  exact isTargeted_iff.mpr ⟨other, next, inside, own, sound, List.mem_of_getElem? found, names⟩

/-- A sound that another one leads to is named. -/
theorem isTargeted_of_leads {link other : Nat} (leads : Leads links link other) :
    isTargeted links other := by
  obtain ⟨_, _, follows⟩ := Relation.TransGen.tail'_iff.mp leads
  exact isTargeted_of_mem_successors follows

/-- A root that is named is a picked one. -/
theorem picked_of_isTargeted {link : Nat} (root : link ∈ roots links)
    (targeted : isTargeted links link) :
    link ∈ picked links := by
  refine (mem_roots.mp root).resolve_left fun head => ?_
  rw [(mem_heads.mp head).2.2] at targeted
  exact absurd targeted Bool.false_ne_true

/-- **A root that leads to another one** comes after it in the order, both are named, and the other
one does not lead back. -/
theorem lt_of_leads {root other : Nat} (first : root ∈ roots links) (second : other ∈ roots links)
    (different : other ≠ root) (leads : Leads links other root) :
    root < other ∧ isTargeted links other ∧ ¬ Leads links root other := by
  have fed := picked_of_isTargeted first (isTargeted_of_leads leads)
  obtain ⟨_, _, left, apart⟩ := mem_picked.mp fed
  have late : other ∈ picked links :=
    (mem_roots.mp second).resolve_left fun head =>
      (mem_unfed.mp left).2 other head leads.to_reflTransGen
  have before : root < other := by
    refine Nat.lt_of_le_of_ne (Nat.not_lt.mp fun after => ?_) different.symm
    exact apart other late after leads.to_reflTransGen
  have named : isTargeted links other := by
    by_contra unnamed
    refine (mem_unfed.mp (mem_picked.mp late).2.2.1).2 other ?_ .refl
    exact mem_heads.mpr ⟨(mem_picked.mp late).1, (mem_picked.mp late).2.1, by simpa using unnamed⟩
  exact ⟨before, named, fun back =>
    (mem_picked.mp late).2.2.2 root fed before back.to_reflTransGen⟩

/-- **When the roots are independent**: exactly when every sound with a wait that leads to a root is
also reached from it. Where a root leads to another one, it comes after it in the order, both are
named, and the other one does not lead back. -/
theorem independent_iff (links : List Story.Sound) :
    (Independent links ↔ ∀ root ∈ roots links, ∀ link, isTimed links link → Leads links link root →
      Reaches links root link) ∧
    ∀ root ∈ roots links, ∀ other ∈ roots links, other ≠ root → Leads links other root →
      root < other ∧ isTargeted links root ∧ isTargeted links other ∧ ¬ Leads links root other := by
  refine ⟨⟨fun independent root first link timed leads => ?_,
    fun returns root first other second different leads => ?_⟩,
    fun root first other second different leads => ?_⟩
  · obtain ⟨source, second, reaches⟩ := exists_root timed
    have same : source = root := by
      by_contra different
      exact independent root first source second different (leads.trans_right reaches)
    exact same ▸ reaches
  · have back := returns root first other (timed_of_mem_roots second) leads
    exact (lt_of_leads first second different leads).2.2 <|
      (reaches_iff.mp back).resolve_left different
  · obtain ⟨before, named, ahead⟩ := lt_of_leads first second different leads
    exact ⟨before, isTargeted_of_leads leads, named, ahead⟩

/-- Three sounds: the last one, without a wait, is followed by the second and the second by the first. -/
def backward : List Story.Sound :=
  [{ id := some "a", file := "a.mp3", wait := some 0, volume := 1, next := none },
   { id := some "b", file := "b.mp3", wait := some 0, volume := 1, next := some "a" },
   { id := some "p", file := "p.mp3", wait := none, volume := 1, next := some "b" }]

/-- **A root that leads to another one**: the first sound is picked before the second, which it
follows. -/
theorem fed_root : roots backward = [0, 1] ∧ ¬ Independent backward := by
  have both : roots backward = [0, 1] := by decide +kernel
  refine ⟨both, fun independent => ?_⟩
  have follows : 0 ∈ successors backward 1 := by decide
  refine independent 0 ?_ 1 ?_ Nat.one_ne_zero (.single follows)
  · rw [both]; exact List.mem_cons_self
  · rw [both]; exact List.mem_cons_of_mem _ List.mem_cons_self

end Storybook.SoundChain
