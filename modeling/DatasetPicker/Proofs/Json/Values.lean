import DatasetPicker.Proofs.Json.Written

/-!
# Values read back

A value whose numbers are integers of 64 bits is written as a text that means this value again.
The members of an object are sorted by name, so putting the members that were read one by one
into an object leaves them as they were written.
-/

namespace DatasetPicker.Json

/-- All numbers of the value are integers of 64 bits. The members of its objects are sorted by
name, as they are in every value, and no name is repeated. -/
inductive Value.Integral : Value → Prop where
  | null : Integral .null
  | bool (value : Bool) : Integral (.bool value)
  | integer {value : Int} (fits : isInteger64 value = true) : Integral (.integer value)
  | string (value : String) : Integral (.string value)
  | array {items : List Value} (each : ∀ item ∈ items, item.Integral) : Integral (.array items)
  | object {members : List (String × Value)}
      (sorted : members.Pairwise fun left right => left.1 < right.1)
      (each : ∀ member ∈ members, member.2.Integral) : Integral (.object members)

/-! ## Members in order -/

/-- Where a new member is put behind those that it follows, members that follow each other are
put together as they are. -/
theorem foldl_appends {α : Type} {follows : String → String → Prop}
    {insert : String → α → List (String × α) → List (String × α)}
    (appends : ∀ name value kept, (∀ member ∈ kept, follows member.1 name) →
      insert name value kept = kept ++ [(name, value)])
    (members : List (String × α))
    (ordered : members.Pairwise fun left right => follows left.1 right.1) :
    members.foldl (fun kept (name, value) => insert name value kept) [] = members := by
  have onward (kept rest : List (String × α))
      (ordered : (kept ++ rest).Pairwise fun left right => follows left.1 right.1) :
      rest.foldl (fun kept (name, value) => insert name value kept) kept = kept ++ rest := by
    induction rest generalizing kept with
    | nil => exact (List.append_nil kept).symm
    | cons member rest ih =>
      obtain ⟨name, value⟩ := member
      have before : ∀ other ∈ kept, follows other.1 name := fun other among =>
        (List.pairwise_append.mp ordered).2.2 other among (name, value) List.mem_cons_self
      have split : kept ++ (name, value) :: rest = kept ++ [(name, value)] ++ rest :=
        (List.append_cons kept (name, value) rest)
      rw [split] at ordered ⊢
      rw [← ih (kept ++ [(name, value)]) ordered, ← appends name value kept before]
      rfl
  exact onward [] members ordered

/-- A member is put behind those of lesser names. -/
theorem insertSorted_appends {α : Type} (name : String) (value : α) (sorted : List (String × α))
    (lesser : ∀ member ∈ sorted, member.1 < name) :
    insertSorted name value sorted = sorted ++ [(name, value)] := by
  induction sorted with
  | nil => rfl
  | cons member rest ih =>
    obtain ⟨less, others⟩ := List.forall_mem_cons.mp lesser
    have notLess : ¬ name < member.1 := String.lt_asymm less
    have different : name ≠ member.1 := by
      rintro rfl
      exact String.lt_irrefl _ less
    rw [insertSorted, if_neg notLess, if_neg different, ih others, List.cons_append]

/-- An entry is put behind those of other names. -/
theorem insertKept_appends {α : Type} (name : String) (value : α) (kept : List (String × α))
    (others : ∀ entry ∈ kept, entry.1 ≠ name) :
    insertKept name value kept = kept ++ [(name, value)] := by
  induction kept with
  | nil => rfl
  | cons entry rest ih =>
    obtain ⟨other, others⟩ := List.forall_mem_cons.mp others
    rw [insertKept, if_neg other.symm, ih others, List.cons_append]

/-! ## The trees of values -/

/-- Items that are read back one by one are read back as a list. -/
theorem exists_itemTrees {items : List Value}
    (each : ∀ item ∈ items, ∃ tree, Reads item.write tree ∧ tree.value? = some item) :
    ∃ trees, List.Forall₂ Reads (Value.writeItems items) trees ∧
      Tree.valuesOfItems? trees = some items := by
  induction items with
  | nil => exact ⟨[], .nil, rfl⟩
  | cons item items ih =>
    obtain ⟨first, others⟩ := List.forall_mem_cons.mp each
    obtain ⟨tree, read, means⟩ := first
    obtain ⟨trees, reads, mean⟩ := ih others
    refine ⟨tree :: trees, .cons read reads, ?_⟩
    simp only [Tree.valuesOfItems?, means, mean, Option.bind_eq_bind, Option.bind_some]
    rfl

/-- Members that are read back one by one are read back as a list. -/
theorem exists_memberTrees {members : List (String × Value)}
    (each : ∀ member ∈ members,
      ∃ tree, Reads member.2.write tree ∧ tree.value? = some member.2) :
    ∃ trees, List.Forall₂ ReadsMember (Value.writeMembers members) trees ∧
      Tree.valuesOfMembers? trees = some members := by
  induction members with
  | nil => exact ⟨[], .nil, rfl⟩
  | cons member members ih =>
    obtain ⟨first, others⟩ := List.forall_mem_cons.mp each
    obtain ⟨name, value⟩ := member
    obtain ⟨tree, read, means⟩ := first
    obtain ⟨trees, reads, mean⟩ := ih others
    refine ⟨(some name, tree) :: trees, .cons ⟨rfl, read⟩ reads, ?_⟩
    simp only [Tree.valuesOfMembers?, means, mean, Option.bind_eq_bind, Option.bind_some]
    rfl

/-- A value whose numbers are integers is read back. -/
theorem Value.Integral.exists_tree {value : Value} (integral : value.Integral) :
    ∃ tree, Reads value.write tree ∧ tree.value? = some value := by
  induction integral with
  | null => exact ⟨_, reads_null, rfl⟩
  | bool value => exact ⟨_, reads_bool value, rfl⟩
  | integer fits => exact ⟨_, reads_integer _, integerNumeral_value? _ fits⟩
  | string value => exact ⟨_, reads_string value, rfl⟩
  | array each ih =>
    obtain ⟨trees, reads, means⟩ := exists_itemTrees ih
    refine ⟨.array trees, reads_array reads, ?_⟩
    rw [Tree.value?, means]
    rfl
  | object sorted each ih =>
    obtain ⟨trees, reads, means⟩ := exists_memberTrees ih
    refine ⟨.object trees, reads_object reads, ?_⟩
    rw [Tree.value?, means, Option.map_some, foldl_appends insertSorted_appends _ sorted]

end DatasetPicker.Json
