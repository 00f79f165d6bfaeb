/-
**What decoders give and what they read back.**

What a decoder gives has every property that its parts see to: a record has what its blank has and
every field keeps, the items of a list and the entries of a table have what their decoder sees to.
The other way round, what is written as a whole is read back part by part: the members of an object
one after the other into the record, the items of a list in order, and the entries of a sorted table
as that table.

* `Decoder.Yields`, `RecordField.Keeps`: what decoders see to and what fields keep;
* `Decode.record_yields`, `Decode.list_yields`, `Decode.table_yields`: properties of what is read;
* `Decode.put`, `Decode.record_ofMembers`: a record of written members;
* `Decode.list_ofItems`, `Decode.table_ofMembers`, `Decode.optional_node`: lists, tables and optional
  values as they were written.
-/

import Storybook.Proofs.Tables
import Storybook.Proofs.Widening
import Storybook.Story.Reading
import Storybook.Story.Writing

namespace Storybook.Data

variable {α β ε : Type}

theorem bind_eq_ok {first : Except ε α} {next : α → Except ε β} {value : β} :
    first >>= next = .ok value ↔ ∃ middle, first = .ok middle ∧ next middle = .ok value := by
  cases first with
  | error fault => simp [bind, Except.bind]
  | ok middle => simp [bind, Except.bind]

/-- **Every value that a decoder gives has a property.** -/
def Decoder.Yields (decode : Decoder α) (holds : α → Prop) : Prop :=
  ∀ ⦃node value⦄, decode node = .ok value → holds value

/-- **Reading a field keeps a property of the record.** -/
def RecordField.Keeps (field : RecordField α) (holds : α → Prop) : Prop :=
  ∀ ⦃node before after⦄, field.put node before = .ok after → holds before → holds after

/-- A field that sets a part of the record to what its decoder gives. -/
theorem RecordField.Keeps.set {name : String} {required : Bool} {decode : Decoder β}
    {set : β → α → α} {given : β → Prop} {holds : α → Prop} (yields : decode.Yields given)
    (sets : ∀ value before, given value → holds before → holds (set value before)) :
    (RecordField.mk name required fun node before => return set (← decode node) before).Keeps
      holds := by
  intro node before after put start
  obtain ⟨value, read, put⟩ := bind_eq_ok.1 put
  cases put
  exact sets value before (yields read) start

/-- A field that sets a part of the record which the property is not about. -/
theorem RecordField.Keeps.set_other {name : String} {required : Bool} {decode : Decoder β}
    {set : β → α → α} {holds : α → Prop}
    (sets : ∀ value before, holds before → holds (set value before)) :
    (RecordField.mk name required fun node before => return set (← decode node) before).Keeps
      holds :=
  have any : decode.Yields fun _ => True := fun _ _ _ => trivial
  .set any fun value before _ => sets value before

namespace Decode

variable {holds : α → Prop} {decode : Decoder α} {fields : List (RecordField α)}

/-! ### Properties of what is read -/

theorem collect_yields (keeps : ∀ field ∈ fields, field.Keeps holds) {members : Members}
    {given : List String} {before : α} {read : List String × α}
    (done : collect fields members given before = .ok read) (start : holds before) :
    holds read.2 := by
  fun_induction collect fields members given before with
  | case1 given before =>
    cases done
    exact start
  | case2 => cases done
  | case3 => cases done
  | case4 key value passed rest given before field found jump new ih =>
    obtain ⟨after, put, done⟩ := bind_eq_ok.1 done
    exact ih after done (keeps field (List.mem_of_find?_eq_some found) put start)
  | case5 => cases done
  | case6 key value rest given before missing ih => exact ih done start

theorem arrange_yields {wanted : String} {tooMany : Nat → Fault}
    (keeps : ∀ field ∈ fields, field.Keeps holds) {count : Nat} {items : Items} {before after : α}
    (done : arrange wanted tooMany fields count items before = .ok after) (start : holds before) :
    holds after := by
  fun_induction arrange wanted tooMany fields count items before with
  | case1 =>
    cases done
    exact start
  | case2 => cases done
  | case3 => cases done
  | case4 field fields count value rest before ih =>
    obtain ⟨middle, put, done⟩ := bind_eq_ok.1 done
    exact ih middle (fun other inside => keeps other (List.mem_cons_of_mem _ inside)) done
      (keeps field List.mem_cons_self put start)
  | case5 => cases done
  | case6 => cases done
  | case7 field fields count before optional ih =>
    exact ih (fun other inside => keeps other (List.mem_cons_of_mem _ inside)) done start

/-- **A record has what its blank has and every field keeps**, whether it is written as an object or
as a list. -/
theorem record_yields {wanted : String} {blank : α} {tooMany : Nat → Fault}
    (keeps : ∀ field ∈ fields, field.Keeps holds) (start : holds blank) :
    (record wanted fields blank tooMany).Yields holds := by
  intro node value read
  unfold record at read
  split at read
  case h_1 members =>
    obtain ⟨⟨given, collected⟩, gathered, read⟩ := bind_eq_ok.1 read
    simp only at read
    split at read
    · cases read
    · cases read
      exact collect_yields keeps gathered start
  case h_2 => exact arrange_yields keeps read start
  case h_3 => cases read

/-- The items of a list have what their decoder sees to. -/
theorem list_yields (yields : decode.Yields holds) :
    (list decode).Yields fun values => ∀ value ∈ values, holds value := by
  intro node values read
  unfold list at read
  split at read
  case h_2 => cases read
  case h_1 given =>
    fun_induction items decode given generalizing values with
    | case1 =>
      cases read
      exact fun value inside => absurd inside List.not_mem_nil
    | case2 => cases read
    | case3 node rest ih =>
      obtain ⟨first, decoded, read⟩ := bind_eq_ok.1 read
      obtain ⟨others, followed, read⟩ := bind_eq_ok.1 read
      cases read
      intro value inside
      rcases List.mem_cons.1 inside with rfl | inside
      · exact yields decoded
      · exact ih followed value inside

/-- **What is read as a table is sorted**, and its entries have what their decoder sees to. -/
theorem members_yields (yields : decode.Yields holds) {given : Members} {before after : Table α}
    (read : members decode given before = .ok after) (sorted : before.Sorted)
    (all : ∀ entry ∈ before, holds entry.2) :
    after.Sorted ∧ ∀ entry ∈ after, holds entry.2 := by
  fun_induction members decode given before with
  | case1 =>
    cases read
    exact ⟨sorted, all⟩
  | case2 => cases read
  | case3 before key node passed rest ih =>
    obtain ⟨value, decoded, read⟩ := bind_eq_ok.1 read
    refine ih value read sorted.insert fun entry inside => ?_
    rcases Table.mem_insert inside with rfl | inside
    · exact yields decoded
    · exact all entry inside

theorem table_yields (yields : decode.Yields holds) :
    (table decode).Yields fun entries => entries.Sorted ∧ ∀ entry ∈ entries, holds entry.2 := by
  intro node entries read
  unfold table at read
  split at read
  · exact members_yields yields read Table.sorted_nil fun entry inside =>
      absurd inside List.not_mem_nil
  · cases read

/-! ### Written members -/

/-- Reads one member into a record; a member that is no field is passed over. -/
def put (fields : List (RecordField α)) (before : α) (member : String × Node) : Except Fault α :=
  match fields.find? fun field => field.name = member.1 with
  | some field => field.put member.2 before
  | none => .ok before

/-- The members of an object are read one after the other, and the keys of the fields among them
are noted. -/
theorem collect_ofList (fields : List (RecordField α)) (members : List (String × Node))
    (given : List String) (once : (members.map Prod.fst).Nodup)
    (new : ∀ key ∈ members.map Prod.fst, key ∉ given) :
    ∃ named : List String,
      (∀ field ∈ fields, field.name ∈ members.map Prod.fst ∨ field.name ∈ given →
        field.name ∈ named) ∧
      ∀ before, collect fields (.ofList members) given before =
        (named, ·) <$> members.foldlM (put fields) before := by
  induction members generalizing given with
  | nil => exact ⟨given, fun field _ listed => by simpa using listed, fun _ => rfl⟩
  | cons member rest ih =>
    obtain ⟨key, node⟩ := member
    rw [List.map_cons, List.nodup_cons] at once
    have fresh : key ∉ given := new key List.mem_cons_self
    have others : ∀ other ∈ rest.map Prod.fst, other ∉ given := fun other inside =>
      new other (List.mem_cons_of_mem _ inside)
    cases found : fields.find? fun field => field.name = key with
    | none =>
      obtain ⟨named, all, same⟩ := ih given once.2 others
      refine ⟨named, fun field inside listed => all field inside ?_, fun before => ?_⟩
      · have different : field.name ≠ key := by
          simpa using List.find?_eq_none.1 found field inside
        simpa [different] using listed
      · rw [Members.ofList, collect, found, List.foldlM_cons, put, found]
        exact same before
    | some field =>
      obtain ⟨named, all, same⟩ := ih (key :: given) once.2 fun other inside => by
        rw [List.mem_cons, not_or]
        exact ⟨fun equal => once.1 (equal ▸ inside), others other inside⟩
      refine ⟨named, fun field inside listed => all field inside ?_, fun before => ?_⟩
      · simp only [List.map_cons, List.mem_cons] at listed ⊢
        grind
      · rw [Members.ofList, collect, found, List.foldlM_cons, put, found]
        simp only [if_neg fresh]
        cases field.put node before with
        | error fault => rfl
        | ok after => exact same after

/-- **A record is read from its members one after the other**, where none of them is repeated and
every required field is among them. -/
theorem record_ofMembers {wanted : String} {blank : α} {tooMany : Nat → Fault}
    (members : List (String × Node)) (once : (members.map Prod.fst).Nodup)
    (complete : ∀ field ∈ fields, field.required → field.name ∈ members.map Prod.fst) :
    record wanted fields blank tooMany (.ofMembers members) =
      members.foldlM (put fields) blank := by
  obtain ⟨named, all, same⟩ := collect_ofList fields members [] once fun _ _ => List.not_mem_nil
  have nothing : fields.find? (fun field => field.required && !named.contains field.name) = none := by
    rw [List.find?_eq_none]
    intro field inside missing
    simp only [Bool.and_eq_true, Bool.not_eq_true', List.contains_eq_mem, decide_eq_false_iff_not]
      at missing
    exact missing.2 (all field inside (.inl (complete field inside missing.1)))
  rw [Node.ofMembers]
  unfold record
  simp only
  rw [same]
  cases members.foldlM (put fields) blank with
  | error fault => rfl
  | ok value =>
    show (match fields.find? (fun field => field.required && !named.contains field.name) with
      | some field => throw (Fault.missingField field.name)
      | none => return value) = _
    rw [nothing]
    rfl

/-! ### Written values -/

/-- **A finite single is read back.** -/
theorem single_node {x : Single} (finite : x.isFinite) : single (.single x) = .ok x := by
  rw [Node.single, if_pos finite]
  exact congrArg Except.ok (Single.narrow_widen finite)

/-- **A list is read back item by item.** -/
theorem list_ofItems {write : β → Node} {change : β → α} {values : List β}
    (each : ∀ value ∈ values, decode (write value) = .ok (change value)) :
    list decode (.ofItems (values.map write)) = .ok (values.map change) := by
  show items decode (.ofList (values.map write)) = _
  induction values with
  | nil => rfl
  | cons value rest ih =>
    rw [List.map_cons, Items.ofList, items, each value List.mem_cons_self,
      ih fun other inside => each other (List.mem_cons_of_mem _ inside)]
    rfl

theorem members_ofList {write : β → Node} {change : β → α} {entries : Table β} {before : Table α}
    (each : ∀ entry ∈ entries, decode (write entry.2) = .ok (change entry.2)) :
    members decode (.ofList (entries.map fun (key, value) => (key, write value))) before =
      .ok ((entries.map fun (key, value) => (key, change value)).foldl
        (fun table entry => Table.insert entry.1 entry.2 table) before) := by
  induction entries generalizing before with
  | nil => rfl
  | cons entry rest ih =>
    rw [List.map_cons, Members.ofList, members, each entry List.mem_cons_self]
    exact ih fun other inside => each other (List.mem_cons_of_mem _ inside)

/-- **A sorted table is read back entry by entry.** -/
theorem table_ofMembers {write : β → Node} {change : β → α} {entries : Table β}
    (sorted : entries.Sorted)
    (each : ∀ entry ∈ entries, decode (write entry.2) = .ok (change entry.2)) :
    table decode (.ofMembers (entries.map fun (key, value) => (key, write value))) =
      .ok (entries.map fun (key, value) => (key, change value)) := by
  show members decode _ [] = _
  rw [members_ofList each, Table.foldl_insert]
  · rfl
  · rw [Table.Sorted, List.nil_append, Table.keys_map change]
    exact sorted

/-- **A value that may be missing is read back**, where no value is written as `null`. -/
theorem optional_node {write : α → Node} {value : Option α}
    (present : ∀ kept, write kept ≠ .null)
    (each : ∀ kept ∈ value, decode (write kept) = .ok kept) :
    optional decode (Story.optionalNode write value) = .ok value := by
  cases value with
  | none => rfl
  | some kept =>
    rw [Story.optionalNode, optional, each kept rfl]
    · rfl
    · exact present kept

end Decode

end Storybook.Data
