/-
**The sprites of a stage.**

Which sprites there are, and which of them are drawn, after each operation of the stage.

* `ne_of_distinct`, `filter_ne_of_distinct`: entries under handles of which none is used twice;
* `Stage.keys`: the handles of the sprites that are on the stage, attached or not;
* `Stage.Valid`: handles are given out once, and what is drawn is on the stage and drawn once;
* `Stage.Keeps`: what the change of a sprite leaves alone;
* `Stage.Follows`, `Stage.Gone`: a sprite that is gone never comes back.
-/

import Mathlib.Data.List.Nodup
import Storybook.Stage.Stage

namespace Storybook

/-! ### Entries under handles -/

section

variable {κ α : Type} {first rest : List (κ × α)} {entry : κ × α}

/-- Where no handle is used twice, the other entries are under other handles. -/
theorem ne_of_distinct (distinct : ((first ++ entry :: rest).map Prod.fst).Nodup) :
    ∀ other ∈ first ++ rest, other.1 ≠ entry.1 := by
  rw [List.map_append, List.map_cons, List.nodup_middle, List.nodup_cons, ← List.map_append]
    at distinct
  exact fun other member same => distinct.1 (same ▸ List.mem_map_of_mem member)

/-- They are left when what is under the handle of the entry is taken out. -/
theorem filter_ne_of_distinct [DecidableEq κ]
    (distinct : ((first ++ entry :: rest).map Prod.fst).Nodup) :
    (first ++ entry :: rest).filter (fun other => other.1 ≠ entry.1) = first ++ rest := by
  have others : ∀ other ∈ first ++ rest, decide (other.1 ≠ entry.1) = true := fun other member =>
    decide_eq_true (ne_of_distinct distinct other member)
  obtain ⟨before, after⟩ := List.forall_mem_append.mp others
  rw [List.filter_append, List.filter_cons_of_neg (by simp), List.filter_eq_self.mpr before,
    List.filter_eq_self.mpr after]

end

namespace Stage

/-! ### What is on the stage -/

/-- The handles of the sprites that are on the stage, in the order of their creation. -/
def keys (stage : Stage) : List SpriteId :=
  stage.sprites.map Prod.fst

theorem isLive_iff {stage : Stage} {id : SpriteId} : stage.isLive id = true ↔ id ∈ stage.keys := by
  unfold isLive find? keys
  induction stage.sprites with
  | nil => simp
  | cons entry rest ih =>
    rw [List.lookup_cons]
    by_cases same : id = entry.1
    · simp [same]
    · have different : (id == entry.1) = false := beq_false_of_ne same
      simp only [different, List.map_cons, List.mem_cons, same, false_or]
      exact ih

theorem canAttach_iff {stage : Stage} {id : SpriteId} :
    stage.canAttach id = true ↔ id ∈ stage.keys ∧ id ∉ stage.order := by
  simp [canAttach, isLive_iff, isAttached]

/-! ### What a change of a sprite leaves alone -/

/-- The two stages have the same sprites, drawn in the same order, whatever these look like. -/
structure Keeps (before after : Stage) : Prop where
  issued : after.issued = before.issued
  keys : after.keys = before.keys
  order : after.order = before.order

theorem Keeps.refl (stage : Stage) : stage.Keeps stage :=
  ⟨rfl, rfl, rfl⟩

theorem Keeps.trans {first second third : Stage} (left : first.Keeps second)
    (right : second.Keeps third) : first.Keeps third :=
  ⟨right.issued.trans left.issued, right.keys.trans left.keys, right.order.trans left.order⟩

theorem keeps_modify (stage : Stage) (id : SpriteId) (change : Sprite → Sprite) :
    stage.Keeps (stage.modify id change) :=
  ⟨rfl, by simp [Stage.keys, modify], rfl⟩

theorem keeps_resize (stage : Stage) (viewport : Viewport) : stage.Keeps (stage.resize viewport) :=
  ⟨rfl, rfl, rfl⟩

/-! ### The handles after each operation -/

@[simp]
theorem keys_create (stage : Stage) (sprite : Sprite) :
    (stage.create sprite).2.keys = stage.keys ++ [(stage.create sprite).1] := by
  simp [keys, create]

@[simp]
theorem keys_attach (stage : Stage) (id : SpriteId) : (stage.attach id).2.keys = stage.keys := by
  unfold attach
  split <;> rfl

@[simp]
theorem issued_attach (stage : Stage) (id : SpriteId) : (stage.attach id).2.issued = stage.issued := by
  unfold attach
  split <;> rfl

theorem keys_destroy (stage : Stage) (id : SpriteId) :
    (stage.destroy id).2.keys = stage.keys.filter fun other => other ≠ id := by
  simp only [keys, destroy, List.filter_map]
  rfl

@[simp]
theorem mem_keys_destroy {stage : Stage} {id other : SpriteId} :
    other ∈ (stage.destroy id).2.keys ↔ other ∈ stage.keys ∧ other ≠ id := by
  simp [keys_destroy]

/-! ### Handles never come back -/

/-- Between the two stages sprites come only under new handles. -/
structure Follows (before after : Stage) : Prop where
  issued : before.issued ≤ after.issued
  keys : ∀ id ∈ after.keys, id ∈ before.keys ∨ before.issued < id.number

theorem Follows.refl (stage : Stage) : stage.Follows stage :=
  ⟨Nat.le_refl _, fun _ member => Or.inl member⟩

theorem Follows.trans {first second third : Stage} (left : first.Follows second)
    (right : second.Follows third) : first.Follows third := by
  refine ⟨Nat.le_trans left.issued right.issued, fun id member => ?_⟩
  rcases right.keys id member with old | new
  · exact left.keys id old
  · exact Or.inr (Nat.lt_of_le_of_lt left.issued new)

theorem Keeps.follows {before after : Stage} (keeps : before.Keeps after) :
    before.Follows after :=
  ⟨Nat.le_of_eq keeps.issued.symm, fun _ member => Or.inl (keeps.keys ▸ member)⟩

theorem follows_create (stage : Stage) (sprite : Sprite) :
    stage.Follows (stage.create sprite).2 := by
  refine ⟨Nat.le_succ _, fun id member => ?_⟩
  rw [keys_create, List.mem_append, List.mem_singleton] at member
  refine member.imp_right fun new => ?_
  rw [new]
  exact Nat.lt_succ_self _

theorem follows_attach (stage : Stage) (id : SpriteId) : stage.Follows (stage.attach id).2 :=
  ⟨Nat.le_of_eq (issued_attach stage id).symm, fun _ member => Or.inl (keys_attach stage id ▸ member)⟩

theorem follows_destroy (stage : Stage) (id : SpriteId) : stage.Follows (stage.destroy id).2 :=
  ⟨Nat.le_refl _, fun _ member => Or.inl (mem_keys_destroy.mp member).1⟩

/-- The sprite of a handle that was given out is gone. -/
structure Gone (stage : Stage) (id : SpriteId) : Prop where
  absent : id ∉ stage.keys
  given : id.number ≤ stage.issued

theorem Gone.follow {before after : Stage} {id : SpriteId} (gone : before.Gone id)
    (follows : before.Follows after) : after.Gone id := by
  refine ⟨fun present => ?_, Nat.le_trans gone.given follows.issued⟩
  rcases follows.keys id present with old | new
  · exact gone.absent old
  · exact absurd gone.given (Nat.not_le_of_lt new)

/-! ### Valid stages -/

/-- Every handle has been given out, none twice, and what is drawn is on the stage and is drawn
once. -/
structure Valid (stage : Stage) : Prop where
  issued : ∀ id ∈ stage.keys, id.number ≤ stage.issued
  distinct : stage.keys.Nodup
  drawn : ∀ id ∈ stage.order, id ∈ stage.keys
  once : stage.order.Nodup

theorem valid_empty (viewport : Viewport) : (empty viewport).Valid :=
  ⟨by simp [keys, empty], List.nodup_nil, by simp [empty], List.nodup_nil⟩

variable {stage : Stage}

/-- The handle of a new sprite is new. -/
theorem Valid.fresh (valid : stage.Valid) (sprite : Sprite) :
    (stage.create sprite).1 ∉ stage.keys := by
  intro member
  have below := valid.issued _ member
  simp only [create] at below
  omega

theorem Valid.create (valid : stage.Valid) (sprite : Sprite) : (stage.create sprite).2.Valid := by
  refine ⟨?_, ?_, ?_, valid.once⟩
  · intro id member
    rw [keys_create, List.mem_append, List.mem_singleton] at member
    rcases member with member | rfl
    · exact Nat.le_succ_of_le (valid.issued id member)
    · exact Nat.le_refl _
  · rw [keys_create, List.nodup_append]
    refine ⟨valid.distinct, List.nodup_singleton _, ?_⟩
    intro old member new same
    rw [List.mem_singleton.mp same]
    exact fun equal => valid.fresh sprite (equal ▸ member)
  · intro id member
    rw [keys_create]
    exact List.mem_append_left _ (valid.drawn id member)

theorem Valid.attach (valid : stage.Valid) (id : SpriteId) : (stage.attach id).2.Valid := by
  unfold Stage.attach
  split
  · rename_i can
    obtain ⟨live, free⟩ := canAttach_iff.mp can
    refine ⟨valid.issued, valid.distinct, ?_, ?_⟩
    · intro other member
      rcases List.mem_append.mp member with member | member
      · exact valid.drawn other member
      · rw [List.mem_singleton.mp member]
        exact live
    · refine List.nodup_append.mpr ⟨valid.once, List.nodup_singleton _, ?_⟩
      intro old member new same
      rw [List.mem_singleton.mp same]
      exact fun equal => free (equal ▸ member)
  · exact valid

theorem Valid.destroy (valid : stage.Valid) (id : SpriteId) : (stage.destroy id).2.Valid := by
  refine ⟨?_, ?_, ?_, valid.once.filter _⟩
  · intro other member
    exact valid.issued other (mem_keys_destroy.mp member).1
  · rw [keys_destroy]
    exact valid.distinct.filter _
  · intro other member
    obtain ⟨drawn, different⟩ := List.mem_filter.mp member
    exact mem_keys_destroy.mpr ⟨valid.drawn other drawn, of_decide_eq_true different⟩

end Stage

end Storybook
