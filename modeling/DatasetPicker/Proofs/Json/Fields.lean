import DatasetPicker.Json.Fields
import DatasetPicker.Proofs.Json.Written

/-!
# Written fields read back

A written text carries a value for a reader of trees when the reader finds the value in the
tree that the text is read as. Texts, truth values, bounded numbers and lists carry what they
were written for, and a written object carries its fields under their names.
-/

namespace DatasetPicker.Json

/-- A reader of trees finds the value in what the text is read as. -/
def Carries {α : Type} (read : Tree → Option α) (text : List Char) (value : α) : Prop :=
  ∃ tree, Reads text tree ∧ read tree = some value

section Values

variable {α : Type} {read : Tree → Option α} {text : List Char} {value : α}

/-- What is made of the value is carried, too. -/
theorem Carries.map {β : Type} (carries : Carries read text value) (f : α → β) :
    Carries (fun tree => (read tree).map f) text (f value) := by
  obtain ⟨tree, reads, found⟩ := carries
  exact ⟨tree, reads, by simp only [found, Option.map_some]⟩

/-- A written string carries its content. -/
theorem carries_text (content : String) : Carries Tree.text? (writeString content) content :=
  ⟨_, reads_string content, rfl⟩

/-- A written truth value is carried. -/
theorem carries_truth (value : Bool) : Carries Tree.truth? (writeBool value) value :=
  ⟨_, reads_bool value, rfl⟩

/-- The numeral of a number is read as the number if it is below the bound. -/
theorem natural?_integerNumeral {bound value : Nat} (below : value < bound) :
    Tree.natural? bound (.number (integerNumeral value)) = some value := by
  have whole : (integerNumeral value).natural? = some value := by
    simp [Numeral.natural?, integerNumeral, decimal_toDigits]
  rw [Tree.natural?, whole]
  simp [below]

/-- A written number is carried if it is below the bound. -/
theorem carries_natural {bound value : Nat} (below : value < bound) :
    Carries (Tree.natural? bound) (writeNatural value) value :=
  ⟨_, reads_integer value, natural?_integerNumeral below⟩

/-- A text that may be missing is carried; null stands for none. -/
theorem carries_optional (content : Option String) :
    Carries (·.optional? Tree.text?) (writeOptional content) content := by
  cases content with
  | none => exact ⟨_, reads_null, rfl⟩
  | some content => exact ⟨_, reads_string content, rfl⟩

/-- A written array carries the list of what its items carry. -/
theorem carries_list {write : α → List Char} (values : List α)
    (each : ∀ value ∈ values, Carries read (write value) value) :
    Carries (·.list? read) (writeArray (values.map write)) values := by
  have trees : ∃ trees, List.Forall₂ Reads (values.map write) trees ∧
      trees.mapM read = some values := by
    induction values with
    | nil => exact ⟨[], .nil, rfl⟩
    | cons value values ih =>
      obtain ⟨first, others⟩ := List.forall_mem_cons.mp each
      obtain ⟨tree, reads, found⟩ := first
      obtain ⟨trees, readsOn, founds⟩ := ih others
      exact ⟨tree :: trees, .cons reads readsOn, by simp [found, founds]⟩
  obtain ⟨trees, reads, found⟩ := trees
  exact ⟨.array trees, reads_array reads, found⟩

end Values

/-! ## Fields -/

/-- The tree of an object whose names are text. -/
def Tree.ofMembers (members : List (String × Tree)) : Tree :=
  .object (members.map fun member => (some member.1, member.2))

/-- The names of such an object are read. -/
theorem named?_ofMembers (members : List (String × Tree)) :
    Tree.named? (members.map fun member => (some member.1, member.2)) = some members := by
  induction members with
  | nil => rfl
  | cons member members ih =>
    simp only [Tree.named?] at ih
    simp [Tree.named?, ih]

/-- A field that is named once has the value that stands there. -/
theorem field?_once {before after : List (String × Tree)} {name : String} (tree : Tree)
    (others : ∀ member ∈ before ++ after, member.1 ≠ name) :
    Tree.field? (before ++ (name, tree) :: after) name = some (some tree) := by
  have absent {members : List (String × Tree)} (among : members ⊆ before ++ after) :
      members.filter (·.1 = name) = [] := by
    refine List.filter_eq_nil_iff.mpr ?_
    intro member here
    simpa using others member (among here)
  rw [Tree.field?, List.filter_append, List.filter_cons_of_pos (by simp),
    absent (List.subset_append_left _ _), absent (List.subset_append_right _ _)]
  rfl

/-- Where the names are distinct, each of them is found. -/
theorem field?_ofMembers {members : List (String × Tree)} (distinct : (members.map (·.1)).Nodup) :
    ∀ member ∈ members, Tree.field? members member.1 = some (some member.2) := by
  rintro ⟨name, tree⟩ among
  obtain ⟨before, after, rfl⟩ := List.append_of_mem among
  rw [(List.perm_middle.map _).nodup_iff, List.map_cons] at distinct
  obtain ⟨new, -⟩ := List.nodup_cons.mp distinct
  refine field?_once tree ?_
  intro member other same
  exact new (List.mem_map.mpr ⟨member, other, same⟩)

/-- Reading an item each time succeeds for the whole list. -/
theorem mapM_of_forall₂ {α β : Type} {f : α → Option β} {xs : List α} {ys : List β}
    (each : List.Forall₂ (fun x y => f x = some y) xs ys) : xs.mapM f = some ys := by
  induction each with
  | nil => rfl
  | cons first _ ih => simp [first, ih]

/-- The fields of an object are found under their names. -/
theorem fields?_ofMembers {members : List (String × Tree)}
    (distinct : (members.map (·.1)).Nodup) :
    (Tree.ofMembers members).fields? (members.map (·.1)) =
      some (members.map fun member => some member.2) := by
  simp only [Tree.ofMembers, Tree.fields?, named?_ofMembers, Option.bind_eq_bind, Option.bind_some]
  refine mapM_of_forall₂ ?_
  rw [List.forall₂_map_left_iff, List.forall₂_map_right_iff]
  exact List.forall₂_same.mpr (field?_ofMembers distinct)

/-- A written object with distinct names carries its fields. -/
theorem carries_fields {members : List (String × List Char)} {trees : List Tree}
    (reads : List.Forall₂ (fun member tree => Reads member.2 tree) members trees)
    (distinct : (members.map (·.1)).Nodup) :
    Carries (·.fields? (members.map (·.1))) (writeObject members) (trees.map some) := by
  have named : ∃ pairs : List (String × Tree), pairs.map (·.1) = members.map (·.1) ∧
      pairs.map (some ·.2) = trees.map some ∧
      List.Forall₂ ReadsMember members (pairs.map fun pair => (some pair.1, pair.2)) := by
    clear distinct
    induction reads with
    | nil => exact ⟨[], rfl, rfl, .nil⟩
    | @cons member tree _ _ read _ ih =>
      obtain ⟨pairs, names, found, reads⟩ := ih
      refine ⟨(member.1, tree) :: pairs, ?_, ?_, .cons ⟨rfl, read⟩ reads⟩
      · rw [List.map_cons, List.map_cons, names]
      · rw [List.map_cons, List.map_cons, found]
  obtain ⟨pairs, names, found, reads⟩ := named
  rw [← names] at distinct ⊢
  rw [← found]
  exact ⟨_, reads_object reads, fields?_ofMembers distinct⟩

end DatasetPicker.Json
