/-
**Every sound with a wait is started.**

The sounds that start by themselves are found by searches. A search keeps the sounds that it has reached and
a stack of those that are still to be looked at. In whatever order the stack is worked off, a search ends
after a bounded number of steps, and has reached the same sounds then. So the roots are found, and every
sound with a wait is one of them or follows one of them, after however many others. A ring of sounds, some
of which have a wait, is therefore always entered.

* `Search.Step`: one step of a search, `Search.length_le_cost`: how many there can be;
* `Search.mem_reached`: what a search has reached when it has ended;
* `Rooted`: the roots as they are found, one search after the other, with `Rooted.perm_roots` and
  `exists_rooted`;
* `SoundChain.roots_cover`: every sound with a wait is covered by a root.
-/

import Mathlib.Data.Finset.Card
import Mathlib.Data.List.Cycle
import Storybook.Proofs.Roots

namespace Storybook.SoundChain

variable {links : List Story.Sound}

/-! ### Searches -/

/-- A search that is under way: the sounds that it has reached, and those that are still to be looked
at. -/
structure Search where
  reached : Finset Nat
  stack : Multiset Nat

namespace Search

/-- **One step of a search**: some sound is taken from the stack. If it is reached for the first time, those
that follow it are put onto the stack. -/
inductive Step (links : List Story.Sound) : Search → Search → Prop
  | reach {reached : Finset Nat} {link : Nat} {rest : Multiset Nat} (fresh : link ∉ reached) :
      Step links ⟨reached, link ::ₘ rest⟩ ⟨insert link reached, successors links link + rest⟩
  | skip {reached : Finset Nat} {link : Nat} {rest : Multiset Nat} (known : link ∈ reached) :
      Step links ⟨reached, link ::ₘ rest⟩ ⟨reached, rest⟩

/-- How many steps a search can still take at most: each of the sounds that it has not reached may put all
of them onto the stack. -/
def cost (links : List Story.Sound) (search : Search) : Nat :=
  (Finset.range links.length \ search.reached).card * links.length + search.stack.card

variable {search next last : Search} {link : Nat}

/-- A sound that is not there is followed by none. -/
theorem successors_of_le (beyond : links.length ≤ link) : successors links link = [] := by
  refine List.eq_nil_iff_forall_not_mem.mpr fun _ follows => ?_
  obtain ⟨_, _, found, _⟩ := mem_successors.mp follows
  exact Nat.not_lt.mpr beyond (List.getElem?_eq_some_iff.mp found).1

/-- **Every step brings a search nearer to its end.** -/
theorem Step.cost_lt (step : Step links search next) : next.cost links < search.cost links := by
  cases step with
  | @reach reached link rest fresh =>
    have few := length_successors_le links link
    by_cases inside : link < links.length
    · -- One sound less is unreached, and no more than all sounds follow it.
      have left : link ∈ Finset.range links.length \ reached := by
        simp [inside, fresh]
      have fewer : (Finset.range links.length \ insert link reached).card + 1 =
          (Finset.range links.length \ reached).card := by
        rw [Finset.sdiff_insert, Finset.card_erase_add_one left]
      simp only [cost, Multiset.card_add, Multiset.coe_card, Multiset.card_cons]
      rw [← fewer, Nat.succ_mul]
      omega
    · have same : Finset.range links.length \ insert link reached =
          Finset.range links.length \ reached := by
        rw [Finset.sdiff_insert, Finset.erase_eq_of_notMem]
        simp [inside]
      simp [cost, same, successors_of_le (Nat.not_lt.mp inside)]
  | skip known => simp [cost]

/-- **A search ends**: no sequence of steps is longer than what it costs. -/
theorem length_le_cost {steps : List Search} (goes : (search :: steps).IsChain (Step links)) :
    steps.length ≤ search.cost links := by
  induction steps generalizing search with
  | nil => exact Nat.zero_le _
  | cons next rest ih =>
    obtain ⟨step, further⟩ := List.isChain_cons_cons.mp goes
    have less := step.cost_lt
    have later := ih further
    rw [List.length_cons]
    omega

/-- A search from some sounds has come to its end. -/
def Ends (links : List Story.Sound) (search : Search) (reached : Finset Nat) : Prop :=
  Relation.ReflTransGen (Step links) search ⟨reached, 0⟩

/-- A search goes on as long as there is a sound on the stack, and so it comes to its end. -/
theorem exists_ends (links : List Story.Sound) (search : Search) : ∃ reached, search.Ends links reached := by
  induction costs : search.cost links using Nat.strong_induction_on generalizing search with
  | _ cost ih =>
    obtain ⟨reached, stack⟩ := search
    by_cases empty : stack = 0
    · subst empty
      exact ⟨reached, .refl⟩
    · obtain ⟨link, waits⟩ := Multiset.exists_mem_of_ne_zero empty
      obtain ⟨rest, rfl⟩ := Multiset.exists_cons_of_mem waits
      have goes : ∃ next, Step links ⟨reached, link ::ₘ rest⟩ next := by
        by_cases known : link ∈ reached
        · exact ⟨_, .skip known⟩
        · exact ⟨_, .reach known⟩
      obtain ⟨next, step⟩ := goes
      obtain ⟨last, ends⟩ := ih _ (costs ▸ step.cost_lt) next rfl
      exact ⟨last, .head step ends⟩

/-! ### What is found -/

/-- Whatever follows a sound that was reached was reached as well, or is on the stack. -/
def Closed (links : List Story.Sound) (search : Search) : Prop :=
  ∀ link ∈ search.reached, ∀ follower ∈ successors links link,
    follower ∈ search.reached ∨ follower ∈ search.stack

/-- What a search has reached, or will reach from its stack. -/
def Finds (links : List Story.Sound) (search : Search) (link : Nat) : Prop :=
  link ∈ search.reached ∨ ∃ entry ∈ search.stack, Reaches links entry link

theorem Step.closed (step : Step links search next) (closed : search.Closed links) :
    next.Closed links := by
  cases step with
  | @reach reached link rest fresh =>
    intro other member follower follows
    rcases Finset.mem_insert.mp member with rfl | old
    · exact Or.inr (Multiset.mem_add.mpr (Or.inl follows))
    · rcases closed other old follower follows with there | waits
      · exact Or.inl (Finset.mem_insert_of_mem there)
      · rcases Multiset.mem_cons.mp waits with rfl | later
        · exact Or.inl (Finset.mem_insert_self _ _)
        · exact Or.inr (Multiset.mem_add.mpr (Or.inr later))
  | @skip reached link rest known =>
    intro other member follower follows
    rcases closed other member follower follows with there | waits
    · exact Or.inl there
    · rcases Multiset.mem_cons.mp waits with rfl | later
      · exact Or.inl known
      · exact Or.inr later

/-- What follows a sound that was reached, after however many others, will be found. -/
theorem Closed.finds (closed : search.Closed links) {first : Nat} (member : first ∈ search.reached)
    (reaches : Reaches links first link) : search.Finds links link := by
  induction reaches using Relation.ReflTransGen.head_induction_on with
  | refl => exact Or.inl member
  | @head first follower follows rest ih =>
    rcases closed first member follower follows with there | waits
    · exact ih there
    · exact Or.inr ⟨follower, waits, rest⟩

/-- **A step changes nothing in what will be found.** -/
theorem Step.finds_iff (step : Step links search next) (closed : search.Closed links) :
    next.Finds links link ↔ search.Finds links link := by
  cases step with
  | @reach reached entry rest fresh =>
    simp only [Finds, Finset.mem_insert, Multiset.mem_add, Multiset.mem_coe, Multiset.mem_cons,
      or_and_right, exists_or, exists_eq_left]
    have enters : Reaches links entry link ↔ _ := reaches_iff_successors
    rw [enters, or_assoc, or_left_comm, or_assoc]
  | @skip reached entry rest known =>
    constructor
    · rintro (there | ⟨other, waits, reaches⟩)
      · exact Or.inl there
      · exact Or.inr ⟨other, Multiset.mem_cons_of_mem waits, reaches⟩
    · rintro (there | ⟨other, waits, reaches⟩)
      · exact Or.inl there
      · rcases Multiset.mem_cons.mp waits with rfl | later
        · exact (Step.closed (.skip known) closed).finds known reaches
        · exact Or.inr ⟨other, later, reaches⟩

/-- **What a search has reached at its end**, in whatever order its stack was worked off: what it had
reached before, and all that the sounds of its stack lead to. -/
theorem mem_reached {reached : Finset Nat} (ends : search.Ends links reached)
    (closed : search.Closed links) : link ∈ reached ↔ search.Finds links link := by
  induction ends using Relation.ReflTransGen.head_induction_on with
  | refl => simp [Finds]
  | head step rest ih => exact (ih (step.closed closed)).trans (step.finds_iff closed)

/-- At its end it has reached whatever follows what it has reached. -/
theorem Ends.closed {reached : Finset Nat} (ends : search.Ends links reached)
    (closed : search.Closed links) : Closed links ⟨reached, 0⟩ := by
  induction ends using Relation.ReflTransGen.head_induction_on with
  | refl => exact closed
  | head step rest ih => exact ih (step.closed closed)

/-- The sounds of a list are those that a search has not reached. -/
def Lacks (links : List Story.Sound) (search : Search) (unreached : List Nat) : Prop :=
  ∀ link, link ∈ unreached ↔ link < links.length ∧ link ∉ search.reached

/-- **To explore is to search to the end**: what is left is what a search has not reached. -/
theorem lacks_explore {reached after : Finset Nat} {unreached stack : List Nat}
    (distinct : unreached.Nodup) (lacks : Lacks links ⟨reached, stack⟩ unreached)
    (closed : Closed links ⟨reached, stack⟩) (ends : Ends links ⟨reached, stack⟩ after) :
    Lacks links ⟨after, 0⟩ (explore links unreached stack) := by
  have onward : SoundChain.Closed links unreached stack := by
    intro link outside follower follows left
    by_cases inside : link < links.length
    · have there : link ∈ reached := by
        by_contra fresh
        exact outside ((lacks link).mpr ⟨inside, fresh⟩)
      exact (closed link there follower follows).resolve_left ((lacks follower).mp left).2
    · rw [successors_of_le (Nat.not_lt.mp inside)] at follows
      exact absurd follows List.not_mem_nil
  intro link
  rw [mem_explore distinct onward, lacks link, mem_reached ends closed]
  simp [Finds, not_or, and_assoc]

end Search

/-! ### Roots as they are found -/

/-- The second pass over some sounds: each with a wait that has not been reached is picked, and what it leads
to is searched. -/
inductive Picks (links : List Story.Sound) : List Nat → Finset Nat → List Nat → Prop
  | nil {reached : Finset Nat} : Picks links [] reached []
  | pick {link : Nat} {rest picked : List Nat} {reached after : Finset Nat} (timed : isTimed links link)
      (fresh : link ∉ reached) (ends : Search.Ends links ⟨reached, {link}⟩ after)
      (further : Picks links rest after picked) : Picks links (link :: rest) reached (link :: picked)
  | pass {link : Nat} {rest picked : List Nat} {reached : Finset Nat}
      (other : isTimed links link → link ∈ reached) (further : Picks links rest reached picked) :
      Picks links (link :: rest) reached picked

/-- **The roots as they are found**: first the sounds with a wait that no sound names, and what they lead to
is searched; then those that a second pass over all sounds picks. -/
def Rooted (links : List Story.Sound) (found : List Nat) : Prop :=
  ∃ reached picked, Search.Ends links ⟨∅, heads links⟩ reached ∧
    Picks links (List.range links.length) reached picked ∧ found = heads links ++ picked

/-- The second pass comes to its end. -/
theorem exists_picks (links : List Story.Sound) (list : List Nat) :
    ∀ reached, ∃ picked, Picks links list reached picked := by
  induction list with
  | nil => exact fun reached => ⟨[], .nil⟩
  | cons link rest ih =>
    intro reached
    by_cases fits : isTimed links link ∧ link ∉ reached
    · obtain ⟨after, ends⟩ := Search.exists_ends links ⟨reached, {link}⟩
      obtain ⟨picked, further⟩ := ih after
      exact ⟨link :: picked, .pick fits.1 fits.2 ends further⟩
    · obtain ⟨picked, further⟩ := ih reached
      exact ⟨picked, .pass (fun timed => not_not.mp fun fresh => fits ⟨timed, fresh⟩) further⟩

/-- **Roots are always found.** -/
theorem exists_rooted (links : List Story.Sound) : ∃ found, Rooted links found := by
  obtain ⟨reached, ends⟩ := Search.exists_ends links ⟨∅, heads links⟩
  obtain ⟨picked, picks⟩ := exists_picks links (List.range links.length) reached
  exact ⟨_, reached, picked, ends, picks, rfl⟩

/-- The second pass picks what `pick` picks, in whatever order the searches go. -/
theorem Picks.eq_pick {list picked : List Nat} {reached : Finset Nat}
    (picks : Picks links list reached picked) {unreached : List Nat} (distinct : unreached.Nodup)
    (lacks : Search.Lacks links ⟨reached, 0⟩ unreached) (closed : Search.Closed links ⟨reached, 0⟩)
    (known : ∀ link ∈ list, link < links.length) :
    picked = SoundChain.pick links list unreached := by
  induction picks generalizing unreached with
  | nil => rfl
  | @pick link rest picked reached after timed fresh ends further ih =>
    have left : link ∈ unreached := (lacks link).mpr ⟨known link List.mem_cons_self, fresh⟩
    have begun : Search.Closed links ⟨reached, {link}⟩ := fun other member follower follows =>
      Or.inl ((closed other member follower follows).resolve_right (Multiset.notMem_zero _))
    have later : Search.Lacks links ⟨after, 0⟩ (explore links unreached [link]) :=
      Search.lacks_explore distinct lacks begun ends
    rw [SoundChain.pick, if_pos ⟨timed, left⟩]
    exact congrArg (link :: ·) <|
      ih (nodup_explore distinct) later (ends.closed begun) fun other member =>
        known other (List.mem_cons_of_mem _ member)
  | @pass link rest picked reached other further ih =>
    have skips : ¬ (isTimed links link ∧ link ∈ unreached) := fun fits =>
      ((lacks link).mp fits.2).2 (other fits.1)
    rw [SoundChain.pick, if_neg skips]
    exact ih distinct lacks closed fun other member => known other (List.mem_cons_of_mem _ member)

/-- What is picked is picked in order. -/
theorem pick_sublist (list unreached : List Nat) : (pick links list unreached).Sublist list := by
  induction list generalizing unreached with
  | nil => exact .refl _
  | cons link rest ih =>
    unfold pick
    split
    · exact (ih _).cons_cons link
    · exact (ih _).cons link

/-- A head is not picked a second time. -/
theorem not_mem_picked_of_mem_heads {link : Nat} (head : link ∈ heads links) : link ∉ picked links := by
  intro late
  have left := (mem_picked.mp late).2.2.1
  exact (mem_unfed.mp left).2 link head .refl

/-- **In whatever order the searches go, the same roots are found.** -/
theorem Rooted.perm_roots {found : List Nat} (rooted : Rooted links found) :
    found.Perm (roots links) := by
  obtain ⟨reached, late, ends, picks, rfl⟩ := rooted
  have blank : Search.Closed links ⟨∅, heads links⟩ := fun link member =>
    absurd member (Finset.notMem_empty link)
  have all : Search.Lacks links ⟨∅, heads links⟩ (List.range links.length) := by
    intro link
    simp
  have lacks := Search.lacks_explore List.nodup_range all blank ends
  have same : late = picked links :=
    picks.eq_pick (nodup_explore List.nodup_range) lacks (ends.closed blank) fun link member =>
      List.mem_range.mp member
  subst same
  have once : (heads links ++ picked links).Nodup := by
    refine List.nodup_append.mpr ⟨List.nodup_range.filter _, List.nodup_range.sublist (pick_sublist _ _), ?_⟩
    rintro link head _ late rfl
    exact not_mem_picked_of_mem_heads head late
  have distinct : (roots links).Nodup := List.nodup_range.filter _
  refine (List.perm_ext_iff_of_nodup once distinct).mpr fun link => ?_
  rw [List.mem_append, mem_roots]

/-! ### Every sound with a wait is covered -/

/-- The roots come in the order of the sounds. -/
theorem sorted_roots (links : List Story.Sound) : (roots links).Pairwise (· < ·) :=
  List.pairwise_lt_range.filter _

/-- A sound that no sound names by its id, if it has one, is not targeted. -/
theorem isTargeted_eq_false {link : Nat} (unnamed : ∀ id ∈ links[link]?.bind Story.Sound.id,
    ∀ sound ∈ links, sound.next ≠ some id) : isTargeted links link = false := by
  refine Bool.eq_false_iff.mpr fun targeted => ?_
  obtain ⟨sound, id, found, own, other, member, names⟩ := isTargeted_iff.mp targeted
  exact unnamed id (Option.bind_eq_some_iff.mpr ⟨sound, found, own⟩) other member names

/-- Sounds that follow each other in a ring. -/
def IsRing (links : List Story.Sound) (ring : Cycle Nat) : Prop :=
  ring.Chain fun link follower => follower ∈ successors links link

instance : IsTrans Nat (Leads links) :=
  ⟨fun _ _ _ => Relation.TransGen.trans⟩

/-- Every sound of a ring leads to every sound of it. -/
theorem IsRing.leads {ring : Cycle Nat} (closes : IsRing links ring) {link other : Nat}
    (member : link ∈ ring) (inside : other ∈ ring) : Leads links link other := by
  have leads : ring.Chain (Leads links) := closes.imp fun _ _ follows => .single follows
  exact Cycle.chain_iff_pairwise.mp leads link member other inside

/-- **What the roots of some sounds are**, as they are found and as they are made out. -/
structure Covers (links : List Story.Sound) : Prop where
  /-- A search for them takes a bounded number of steps, however its stack is worked off. -/
  bounded : ∀ (search : Search) (steps : List Search), (search :: steps).IsChain (Search.Step links) →
    steps.length ≤ search.cost links
  /-- So roots are found, and always the same. -/
  found : ∃ found, Rooted links found
  same : ∀ found, Rooted links found → found.Perm (roots links)
  increasing : (roots links).Pairwise (· < ·)
  timed : ∀ root ∈ roots links, isTimed links root
  /-- Every sound with a wait is a root whose id, if it has one, no sound names. -/
  unnamed : ∀ link, isTimed links link → (∀ id ∈ links[link]?.bind Story.Sound.id, ∀ sound ∈ links,
    sound.next ≠ some id) → link ∈ roots links
  /-- Any other root is reached neither from one of these nor from an earlier root. -/
  needed : ∀ root ∈ roots links, isTargeted links root → ∀ other ∈ roots links,
    isTargeted links other = false ∨ other < root → ¬ Reaches links other root
  /-- Every sound with a wait is reached. -/
  reached : ∀ link, isTimed links link → ∃ root ∈ roots links, Reaches links root link
  /-- Every ring with such a sound is started, and all of it follows. -/
  rings : ∀ ring, IsRing links ring → (∃ link ∈ ring, isTimed links link) →
    ∃ root ∈ roots links, ∀ link ∈ ring, Reaches links root link

/-- **Every sound with a wait is covered by a root**, whatever the sounds are and whichever of them follow
each other. -/
theorem roots_cover (links : List Story.Sound) : Covers links where
  bounded _ _ goes := Search.length_le_cost goes
  found := exists_rooted links
  same _ rooted := rooted.perm_roots
  increasing := sorted_roots links
  timed _ root := timed_of_mem_roots root
  unnamed link timed free := mem_roots.mpr (Or.inl (mem_heads.mpr
    ⟨lt_of_isTimed timed, timed, isTargeted_eq_false free⟩))
  needed root first targeted other second before := by
    obtain ⟨_, _, left, apart⟩ := mem_picked.mp (picked_of_isTargeted first targeted)
    have unfed : other ∈ heads links → ¬ Reaches links other root := (mem_unfed.mp left).2 other
    rcases before with free | less
    · have timed := timed_of_mem_roots second
      exact unfed (mem_heads.mpr ⟨lt_of_isTimed timed, timed, free⟩)
    · rcases mem_roots.mp second with head | picks
      · exact unfed head
      · exact apart other picks less
  reached _ timed := exists_root timed
  rings ring closes timed := by
    obtain ⟨link, member, waits⟩ := timed
    obtain ⟨root, first, reaches⟩ := exists_root waits
    exact ⟨root, first, fun other inside =>
      reaches.trans (closes.leads member inside).to_reflTransGen⟩

end Storybook.SoundChain
