/-
**The values that effects are read from.**

The actions of a character may hold any JSON values. Each of them is read as a whole, as one effect: where
it makes no sense, the effect is unresolved and has the name that the value declares.

* `Value`, `Value.ofSettled`: a JSON value as a whole;
* `Value.effect`, `Value.name`: the effect that a value stands for, and the name that it declares;
* `Value.name_effect`: they fit;
* `Value.decode_actionsNode`: actions that hold any values are read place by place;
* `Value.exists_values`: no other actions are ever read.
-/

import Mathlib.Data.Set.List
import Storybook.Proofs.Rereading

namespace Storybook.Data

theorem map_eq_ok {α β ε : Type} {change : α → β} {read : Except ε α} {value : β} :
    change <$> read = .ok value ↔ ∃ before, read = .ok before ∧ change before = value := by
  cases read with
  | error fault => simp
  | ok before => simp

/-! ### Whole values -/

theorem Node.settle_ofItems {values : List Node} (settled : ∀ value ∈ values, value.settle = .ok value) :
    (Node.ofItems values).settle = .ok (.ofItems values) := by
  have all : (Items.ofList values).settle = .ok values := by
    induction values with
    | nil => rfl
    | cons value rest ih =>
      obtain ⟨head, tail⟩ := List.forall_mem_cons.mp settled
      rw [Items.ofList, Items.settle, head, ih tail]
      rfl
  rw [Node.ofItems, Node.settle, all]
  rfl

mutual

/-- **What has been read as a whole stays as it is** when it is read as a whole again. -/
theorem Node.settle_settled : ∀ {node value : Node}, node.settle = .ok value → value.settle = .ok value
  | .null, _, read => by cases read; rfl
  | .boolean _, _, read => by cases read; rfl
  | .number _, _, read => by cases read; rfl
  | .text _, _, read => by cases read; rfl
  | .broken _, _, read => by cases read
  | .list items, _, read => by
    rw [Node.settle] at read
    obtain ⟨values, settled, read⟩ := bind_eq_ok.1 read
    cases read
    exact Node.settle_ofItems (Items.settle_settled settled)
  | .object members, _, read => by
    rw [Node.settle] at read
    obtain ⟨table, settled, read⟩ := bind_eq_ok.1 read
    cases read
    obtain ⟨sorted, all⟩ := Members.settle_settled settled Table.sorted_nil (List.forall_mem_nil _)
    rw [Story.settle_ofMembers all, Table.foldl_insert [] table sorted]
    rfl

theorem Items.settle_settled : ∀ {items : Items} {values : List Node}, items.settle = .ok values →
    ∀ value ∈ values, value.settle = .ok value
  | .done none, _, read => by
    cases read
    exact List.forall_mem_nil _
  | .done (some _), _, read => by cases read
  | .item _ _, _, read => by
    rw [Items.settle] at read
    obtain ⟨first, head, read⟩ := bind_eq_ok.1 read
    obtain ⟨others, tail, read⟩ := bind_eq_ok.1 read
    cases read
    exact List.forall_mem_cons.mpr ⟨Node.settle_settled head, Items.settle_settled tail⟩

theorem Members.settle_settled : ∀ {members : Members} {before after : Table Node},
    members.settle before = .ok after → before.Sorted → (∀ entry ∈ before, entry.2.settle = .ok entry.2) →
      after.Sorted ∧ ∀ entry ∈ after, entry.2.settle = .ok entry.2
  | .done none, _, _, read, sorted, all => by
    cases read
    exact ⟨sorted, all⟩
  | .done (some _), _, _, read, _, _ => by cases read
  | .member _ _ _ _, _, _, read, sorted, all => by
    rw [Members.settle] at read
    obtain ⟨value, head, read⟩ := bind_eq_ok.1 read
    refine Members.settle_settled read sorted.insert fun entry inside => ?_
    rcases Table.mem_insert inside with rfl | old
    · exact Node.settle_settled head
    · exact all entry old

end

/-- **A JSON value** as a whole: nothing of it is broken, and its objects are sorted by key. -/
structure Value where
  node : Node
  whole : node.settle = .ok node

/-- What is read of a text is a value, if it can be read. -/
def Value.ofSettled {node value : Node} (read : node.settle = .ok value) : Value :=
  ⟨value, Node.settle_settled read⟩

end Storybook.Data

namespace Storybook

open Storybook.Data

/-! ### Names -/

namespace Story.Effect

variable {name : String} {node tag : Node} {effect : Effect}

/-- The name that a value declares: that of an object is its member `name`, and that of a list which makes
sense is its first item. All other values declare no name. -/
def declaredName : Node → String
  | .list (.item (.text name) rest) =>
    if (decode (.list (.item (.text name) rest))).toBool then name else ""
  | node => writtenName node

/-- An effect that makes sense has the name under which it was looked for. -/
theorem ofName_ok (read : ofName name node = .ok effect) : effect.name = name ∧ effect.isResolved := by
  unfold ofName at read
  split at read
  case h_2 =>
    obtain ⟨_, _, read⟩ := bind_eq_ok.1 read
    cases read
    exact ⟨rfl, rfl⟩
  case h_7 => cases read
  all_goals
    obtain ⟨_, _, rfl⟩ := map_eq_ok.1 read
    exact ⟨rfl, rfl⟩

theorem ofTag_ok (read : ofTag tag node = .ok effect) : tag = .text effect.name ∧ effect.isResolved := by
  unfold ofTag at read
  split at read
  case h_1 name =>
    obtain ⟨same, resolved⟩ := ofName_ok read
    exact ⟨same ▸ rfl, resolved⟩
  case h_2 => cases read

/-- **An effect that makes sense has the name that its value declares.** -/
theorem decode_ok (read : decode node = .ok effect) :
    effect.name = declaredName node ∧ effect.isResolved := by
  unfold decode at read
  split at read
  case h_1 members =>
    split at read
    case h_1 tag found =>
      obtain ⟨rfl, resolved⟩ := ofTag_ok read
      have written : writtenName (.object members) = effect.name := by rw [writtenName, found]
      exact ⟨written.symm, resolved⟩
    case h_2 => cases read
  case h_2 tag rest =>
    obtain ⟨rfl, resolved⟩ := ofTag_ok read
    refine ⟨?_, resolved⟩
    have decoded : decode (.list (.item (.text effect.name) rest)) = .ok effect := read
    rw [declaredName, decoded]
    rfl
  case h_3 => cases read
  case h_4 => cases read

/-- A value that makes no sense declares the name that is written in it. -/
theorem declaredName_of_error {fault : Fault} (failed : decode node = .error fault) :
    declaredName node = writtenName node := by
  unfold declaredName
  split
  · rw [failed]
    rfl
  · rfl

/-- **The effect of any value has the name that the value declares.** -/
theorem name_ofNode (node : Node) : (ofNode node).name = declaredName node := by
  unfold ofNode
  cases read : decode node with
  | ok effect => exact (decode_ok read).1
  | error fault => exact (declaredName_of_error read).symm

end Story.Effect

/-! ### Actions that hold any values -/

namespace Data.Value

/-- The effect that a value stands for. -/
def effect (value : Value) : Story.Effect :=
  .ofNode value.node

/-- The name that a value declares. -/
def name (value : Value) : String :=
  Story.Effect.declaredName value.node

theorem name_effect (value : Value) : value.effect.name = value.name :=
  Story.Effect.name_ofNode value.node

/-- An action that holds some values, as it is written. -/
def actionNode (values : List Value) : Node :=
  .ofMembers [("effects", .ofItems (values.map node))]

/-- Actions that hold some values, as they are written. -/
def actionsNode (actions : Table (List Value)) : Node :=
  .ofMembers (actions.map fun action => (action.1, actionNode action.2))

/-- The actions with the effects that their values stand for. -/
def effects (actions : Table (List Value)) : Table (List Story.Effect) :=
  actions.map fun action => (action.1, action.2.map effect)

theorem inDocument_node (value : Value) : Story.Effect.inDocument value.node = .ok value.effect := by
  unfold Story.Effect.inDocument
  rw [value.whole]
  rfl

theorem inAction_actionNode (values : List Value) :
    Story.Effect.inAction (actionNode values) = .ok (values.map effect) := by
  have items : Decode.list Story.Effect.inDocument (.ofItems (values.map node)) =
      .ok (values.map effect) := Decode.list_ofItems fun value _ => value.inDocument_node
  unfold Story.Effect.inAction actionNode
  rw [Decode.record_ofMembers _ (by simp) (by simp)]
  show Decode.list Story.Effect.inDocument (.ofItems (values.map node)) >>= pure = _
  rw [items]
  rfl

/-- **Actions that hold any values are read place by place**: each value is read as one effect. -/
theorem decode_actionsNode {actions : Table (List Value)} (sorted : actions.Sorted) :
    Decode.table Story.Effect.inAction (actionsNode actions) = .ok (effects actions) :=
  Decode.table_ofMembers sorted fun action _ => inAction_actionNode action.2

/-! ### Actions that were read -/

theorem inDocument_yields : Decoder.Yields Story.Effect.inDocument (· ∈ Set.range effect) := by
  intro node effect read
  obtain ⟨settled, whole, rfl⟩ := map_eq_ok.1 read
  exact ⟨.ofSettled whole, rfl⟩

theorem inAction_yields : Decoder.Yields Story.Effect.inAction (· ∈ Set.range (List.map effect)) := by
  have effects : (Decode.list Story.Effect.inDocument).Yields (· ∈ Set.range (List.map effect)) := by
    rw [Set.range_list_map]
    exact Decode.list_yields inDocument_yields
  exact Decode.record_yields
    (List.forall_mem_singleton.mpr fun _ _ _ put _ => effects put) ⟨[], rfl⟩

/-- **Whatever actions are read**, their effects are those of some values, place by place. -/
theorem exists_values {node : Node} {actions : Table (List Story.Effect)}
    (read : Decode.table Story.Effect.inAction node = .ok actions) :
    ∃ values : Table (List Value), values.Sorted ∧ actions = effects values := by
  obtain ⟨sorted, each⟩ := Decode.table_yields inAction_yields read
  have entries : ∀ action ∈ actions, action ∈ Set.range
      fun action : String × List Value => (action.1, action.2.map effect) := by
    rintro ⟨key, list⟩ member
    obtain ⟨values, rfl⟩ := each _ member
    exact ⟨(key, values), rfl⟩
  obtain ⟨values, rfl⟩ := (Set.range_list_map _).ge entries
  have same : (effects values).keys = Table.keys values := Table.keys_map _
  exact ⟨values, (congrArg (List.Pairwise (· < ·)) same).mp sorted, rfl⟩

end Data.Value

end Storybook
