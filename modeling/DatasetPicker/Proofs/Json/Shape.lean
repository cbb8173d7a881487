import DatasetPicker.Proofs.Json.Fields

/-!
# What a reader of trees depends on

A shape tells how much of a tree is read: all of it, the items of a list, or the known fields of a
record. Trees are alike if they agree in that. The members of a record may stand in another order,
and there may be more of them under other names, whatever they hold. A reader respects a shape if
it makes the same of trees that are alike.
-/

namespace DatasetPicker.Json

/-- How much of a tree is read. -/
inductive Shape where
  | whole
  | list (item : Shape)
  | record (fields : List (String × Shape))

/-- The second tree holds all that is read of the first. What stands under the name of a field is
alike, and what stands under any other name may be anything. A name that is added is text. -/
inductive Alike : Shape → Tree → Tree → Prop where
  | same (shape : Shape) (tree : Tree) : Alike shape tree tree
  | list {item : Shape} {rows : List (Tree × Tree)} (each : ∀ row ∈ rows, Alike item row.1 row.2) :
      Alike (.list item) (.array (rows.map (·.1))) (.array (rows.map (·.2)))
  | row {fields : List (String × Shape)} {rows : List (Tree × Tree)}
      (each : ∀ (index : Nat) (row : Tree × Tree) (field : String × Shape),
        rows[index]? = some row → fields[index]? = some field → Alike field.2 row.1 row.2) :
      Alike (.record fields) (.array (rows.map (·.1))) (.array (rows.map (·.2)))
  | record {fields : List (String × Shape)} {rows : List (Content × Tree × Tree)}
      {added members : List (Content × Tree)}
      (each : ∀ row ∈ rows, ∀ field ∈ fields, row.1 = some field.1 →
        Alike field.2 row.2.1 row.2.2)
      (unknown : ∀ member ∈ added, ∃ name, member.1 = some name ∧ name ∉ fields.map (·.1))
      (order : members.Perm (rows.map (fun row => (row.1, row.2.2)) ++ added)) :
      Alike (.record fields) (.object (rows.map fun row => (row.1, row.2.1))) (.object members)

/-- Where all is read, only a tree itself is like it. -/
theorem Alike.eq {tree other : Tree} (alike : Alike .whole tree other) : other = tree := by
  cases alike with
  | same => rfl

/-- The members of a record may be put in another order, with others among them. -/
theorem alike_extended {fields : List (String × Shape)}
    {known added members : List (Content × Tree)}
    (unknown : ∀ member ∈ added, ∃ name, member.1 = some name ∧ name ∉ fields.map (·.1))
    (order : members.Perm (known ++ added)) :
    Alike (.record fields) (.object known) (.object members) := by
  have first : (known.map fun member => (member.1, member.2, member.2)).map
      (fun row => (row.1, row.2.1)) = known := by
    rw [List.map_map]
    exact List.map_id known
  have second : (known.map fun member => (member.1, member.2, member.2)).map
      (fun row => (row.1, row.2.2)) = known := by
    rw [List.map_map]
    exact List.map_id known
  rw [← second] at order
  rw [← first]
  refine .record (List.forall_mem_map.mpr ?_) unknown order
  exact fun member _ field _ _ => .same field.2 member.2

/-- What was found for the fields is alike, and where nothing was found for the one, nothing was
found for the other. -/
inductive AlikeFields : List (String × Shape) → List (Option Tree) → List (Option Tree) → Prop where
  | nil : AlikeFields [] [] []
  | cons {field : String × Shape} {fields : List (String × Shape)} {first second : Option Tree}
      {firsts seconds : List (Option Tree)} (head : Option.Rel (Alike field.2) first second)
      (tail : AlikeFields fields firsts seconds) :
      AlikeFields (field :: fields) (first :: firsts) (second :: seconds)

/-- Where all is read, the same was found. -/
theorem AlikeFields.eq {names : List String} {firsts seconds : List (Option Tree)}
    (alike : AlikeFields (names.map (·, .whole)) firsts seconds) : seconds = firsts := by
  induction names generalizing firsts seconds with
  | nil =>
    cases alike
    rfl
  | cons name names ih =>
    cases alike with
    | cons head tail =>
      rw [ih tail]
      cases head with
      | none => rfl
      | some alike => rw [alike.eq]

/-! ## Fields under their names -/

/-- What is found if there is no more than one member. -/
def only? : List (String × Tree) → Option (Option Tree)
  | [] => some none
  | [member] => some (some member.2)
  | _ => none

/-- What stands under a name is found if no more than one member has it. -/
theorem field?_eq (members : List (String × Tree)) (name : String) :
    Tree.field? members name = only? (members.filter (·.1 = name)) := by
  unfold Tree.field? only?
  cases members.filter (·.1 = name) with
  | nil => rfl
  | cons member others => cases others <;> rfl

/-- The order of the members does not matter. -/
theorem only?_perm {first second : List (String × Tree)} (order : first.Perm second) :
    only? first = only? second := by
  match first, second, order with
  | [], _, order => rw [order.nil_eq]
  | [_], _, order => rw [order.singleton_eq]
  | _ :: _ :: _, [], order => exact absurd order.length_eq nofun
  | _ :: _ :: _, [_], order => exact absurd order.length_eq nofun
  | _ :: _ :: _, _ :: _ :: _, _ => rfl

/-- The order of the members does not matter for what is found under a name. -/
theorem field?_perm {first second : List (String × Tree)} (order : first.Perm second)
    (name : String) : Tree.field? first name = Tree.field? second name := by
  rw [field?_eq, field?_eq, only?_perm (order.filter _)]

/-- A member with its name as text. -/
def withName (member : Content × Tree) : String × Tree := (member.1.getD "", member.2)

/-- The members are named if all their names are text. -/
theorem named?_of_text {members : List (Content × Tree)}
    (text : ∀ member ∈ members, member.1 ≠ none) :
    Tree.named? members = some (members.map withName) := by
  refine mapM_of_forall₂ (List.forall₂_map_right_iff.mpr (List.forall₂_same.mpr ?_))
  rintro ⟨content, tree⟩ among
  obtain ⟨name, rfl⟩ := Option.ne_none_iff_exists'.mp (text _ among)
  rfl

/-- The members are not named if a name is no text. -/
theorem named?_eq_none {members : List (Content × Tree)} {member : Content × Tree}
    (among : member ∈ members) (broken : member.1 = none) : Tree.named? members = none := by
  obtain ⟨before, after, rfl⟩ := List.append_of_mem among
  obtain ⟨content, tree⟩ := member
  cases broken
  rw [Tree.named?, List.mapM_append, List.mapM_cons]
  cases before.mapM fun member : Content × Tree => member.1.map (·, member.2) <;> rfl

/-- A field that no added member names is found alike. -/
theorem field?_alike {field : String × Shape} {rows : List (Content × Tree × Tree)}
    {added : List (Content × Tree)} (text : ∀ row ∈ rows, row.1 ≠ none)
    (each : ∀ row ∈ rows, row.1 = some field.1 → Alike field.2 row.2.1 row.2.2)
    (unknown : ∀ member ∈ added, ∃ name, member.1 = some name ∧ name ≠ field.1) :
    Option.Rel (Option.Rel (Alike field.2))
      (Tree.field? (rows.map fun row => withName (row.1, row.2.1)) field.1)
      (Tree.field? ((rows.map fun row => withName (row.1, row.2.2)) ++ added.map withName)
        field.1) := by
  have absent : (added.map withName).filter (fun member => member.1 = field.1) = [] := by
    refine List.filter_eq_nil_iff.mpr (List.forall_mem_map.mpr ?_)
    intro member among
    obtain ⟨name, named, other⟩ := unknown member among
    simpa [withName, named] using other
  -- The rows of the field are the same on both sides.
  have hits (side : Content × Tree × Tree → Tree) :
      (rows.map fun row => withName (row.1, side row)).filter (fun member => member.1 = field.1) =
        (rows.filter fun row => row.1.getD "" = field.1).map
          fun row => withName (row.1, side row) :=
    List.filter_map
  have known : ∀ row ∈ rows.filter fun row => row.1.getD "" = field.1,
      Alike field.2 row.2.1 row.2.2 := by
    rintro ⟨content, first, second⟩ hit
    obtain ⟨among, same⟩ := List.mem_filter.mp hit
    obtain ⟨name, rfl⟩ := Option.ne_none_iff_exists'.mp (text _ among)
    exact each _ among (congrArg some (of_decide_eq_true same))
  rw [field?_eq, field?_eq, List.filter_append, absent, List.append_nil, hits (·.2.1),
    hits (·.2.2)]
  generalize rows.filter (fun row => row.1.getD "" = field.1) = rows at known
  match rows, known with
  | [], _ => exact .some .none
  | [row], known => exact .some (.some (known row List.mem_cons_self))
  | _ :: _ :: _, _ => exact .none

/-- What is looked for under each name is alike if that holds of each field. -/
theorem alikeFields_mapM {first second : String → Option (Option Tree)}
    {fields : List (String × Shape)}
    (each : ∀ field ∈ fields, Option.Rel (Option.Rel (Alike field.2)) (first field.1)
      (second field.1)) :
    Option.Rel (AlikeFields fields) ((fields.map (·.1)).mapM first)
      ((fields.map (·.1)).mapM second) := by
  induction fields with
  | nil => exact .some .nil
  | cons field fields ih =>
    obtain ⟨here, others⟩ := List.forall_mem_cons.mp each
    have behind := ih others
    rw [List.map_cons, List.mapM_cons, List.mapM_cons]
    generalize (fields.map (·.1)).mapM first = firsts at behind ⊢
    generalize (fields.map (·.1)).mapM second = seconds at behind ⊢
    generalize first field.1 = one at here ⊢
    generalize second field.1 = other at here ⊢
    cases here with
    | none => exact .none
    | some head =>
      cases behind with
      | none => exact .none
      | some tail => exact .some (.cons head tail)

/-! ## Fields in their places -/

/-- Where something or nothing is found for every field, it is like itself. -/
theorem alikeFields_refl {fields : List (String × Shape)} {found : List (Option Tree)}
    (fits : found.length = fields.length) : AlikeFields fields found found := by
  induction found generalizing fields with
  | nil =>
    rw [List.length_eq_zero_iff.mp fits.symm]
    exact .nil
  | cons value found ih =>
    obtain ⟨field, fields, rfl⟩ := List.exists_of_length_succ _ fits.symm
    refine .cons ?_ (ih (Nat.succ.inj fits))
    cases value with
    | none => exact .none
    | some tree => exact .some (.same field.2 tree)

/-- Items that are alike stand for fields that are alike. -/
theorem alikeFields_row {fields : List (String × Shape)} {rows : List (Tree × Tree)}
    (fits : rows.length ≤ fields.length)
    (each : ∀ (index : Nat) (row : Tree × Tree) (field : String × Shape),
      rows[index]? = some row → fields[index]? = some field → Alike field.2 row.1 row.2) :
    AlikeFields fields
      ((rows.map (·.1)).map some ++ List.replicate (fields.length - rows.length) none)
      ((rows.map (·.2)).map some ++ List.replicate (fields.length - rows.length) none) := by
  induction rows generalizing fields with
  | nil => exact alikeFields_refl (by simp)
  | cons row rows ih =>
    cases fields with
    | nil => contradiction
    | cons field fields =>
      have tail := ih (Nat.le_of_succ_le_succ fits) fun index => each (index + 1)
      simp only [List.length_cons, Nat.add_sub_add_right]
      exact .cons (.some (each 0 row field rfl rfl)) tail

/-! ## Records -/

/-- What is found is like itself. -/
theorem alike_self (shape : Shape) (found : Option (Option Tree)) :
    Option.Rel (Option.Rel (Alike shape)) found found := by
  match found with
  | none => exact .none
  | some none => exact .some .none
  | some (some tree) => exact .some (.some (.same shape tree))

/-- The fields of a tree are like themselves. -/
theorem alikeFields_self (fields : List (String × Shape)) (tree : Tree) :
    Option.Rel (AlikeFields fields) (tree.fields? (fields.map (·.1)))
      (tree.fields? (fields.map (·.1))) := by
  cases tree with
  | null | bool _ | number _ | string _ => exact .none
  | array items =>
    simp only [Tree.fields?, List.length_map]
    split
    · rename_i fits
      refine .some (alikeFields_refl ?_)
      simpa using Nat.add_sub_of_le fits
    · exact .none
  | object members =>
    simp only [Tree.fields?]
    cases Tree.named? members with
    | none => exact .none
    | some members => exact alikeFields_mapM fun field _ => alike_self field.2 _

/-- Where all names are text, the fields are found alike in another order and among others. -/
theorem alikeFields_record {fields : List (String × Shape)} {rows : List (Content × Tree × Tree)}
    {added members : List (Content × Tree)} (text : ∀ row ∈ rows, row.1 ≠ none)
    (each : ∀ row ∈ rows, ∀ field ∈ fields, row.1 = some field.1 → Alike field.2 row.2.1 row.2.2)
    (unknown : ∀ member ∈ added, ∃ name, member.1 = some name ∧ name ∉ fields.map (·.1))
    (order : members.Perm (rows.map (fun row => (row.1, row.2.2)) ++ added)) :
    Option.Rel (AlikeFields fields)
      ((Tree.object (rows.map fun row => (row.1, row.2.1))).fields? (fields.map (·.1)))
      ((Tree.object members).fields? (fields.map (·.1))) := by
  have first : Tree.named? (rows.map fun row => (row.1, row.2.1)) =
      some (rows.map fun row => withName (row.1, row.2.1)) := by
    rw [named?_of_text (List.forall_mem_map.mpr text), List.map_map]
    rfl
  have second : Tree.named? members = some (members.map withName) := by
    refine named?_of_text ?_
    intro member among
    obtain here | here := List.mem_append.mp (order.mem_iff.mp among)
    · obtain ⟨row, original, rfl⟩ := List.mem_map.mp here
      exact text row original
    · obtain ⟨name, named, -⟩ := unknown member here
      exact Option.ne_none_iff_exists'.mpr ⟨name, named⟩
  have ordered := order.map withName
  rw [List.map_append, List.map_map] at ordered
  simp only [Tree.fields?, first, second, Option.bind_eq_bind, Option.bind_some]
  refine alikeFields_mapM ?_
  intro field known
  rw [field?_perm ordered]
  refine field?_alike text (fun row among => each row among field known) ?_
  intro member among
  obtain ⟨name, named, other⟩ := unknown member among
  refine ⟨name, named, ?_⟩
  rintro rfl
  exact other (List.mem_map_of_mem known)

/-- A record has no fields if a name is no text. -/
theorem fields?_eq_none {members : List (Content × Tree)} {member : Content × Tree}
    (among : member ∈ members) (broken : member.1 = none) (names : List String) :
    (Tree.object members).fields? names = none := by
  rw [Tree.fields?, named?_eq_none among broken]
  rfl

/-- The fields of records that are alike are alike. -/
theorem Alike.fields? {fields : List (String × Shape)} {tree other : Tree}
    (alike : Alike (.record fields) tree other) :
    Option.Rel (AlikeFields fields) (tree.fields? (fields.map (·.1)))
      (other.fields? (fields.map (·.1))) := by
  cases alike with
  | same => exact alikeFields_self fields tree
  | @row _ rows each =>
    simp only [Tree.fields?, List.length_map]
    split
    · rename_i fits
      exact .some (alikeFields_row fits each)
    · exact .none
  | @record _ rows added members each unknown order =>
    by_cases text : ∀ row ∈ rows, row.1 ≠ none
    · exact alikeFields_record text each unknown order
    · -- A name that is no text stands in the other record, too.
      obtain ⟨row, among, broken⟩ : ∃ row ∈ rows, row.1 = none := by
        simpa using text
      have there : (row.1, row.2.2) ∈ members :=
        order.mem_iff.mpr (List.mem_append_left _ (List.mem_map_of_mem among))
      rw [fields?_eq_none (List.mem_map_of_mem among) broken, fields?_eq_none there broken]
      exact .none

/-- The fields of records that are read whole are the same. -/
theorem Alike.fields?_eq {names : List String} {tree other : Tree}
    (alike : Alike (.record (names.map (·, .whole))) tree other) :
    other.fields? names = tree.fields? names := by
  have found := alike.fields?
  rw [List.map_map, show ((·.1) ∘ (·, Shape.whole) : String → String) = id from rfl,
    List.map_id] at found
  generalize tree.fields? names = first at found ⊢
  generalize other.fields? names = second at found ⊢
  cases found with
  | none => rfl
  | some found => rw [found.eq]

/-! ## Readers -/

/-- The reader makes the same of trees that are alike. -/
def Respects {α : Type} (shape : Shape) (read : Tree → Option α) : Prop :=
  ∀ ⦃tree other : Tree⦄, Alike shape tree other → read other = read tree

section Readers

variable {α : Type} {shape : Shape} {read : Tree → Option α}

/-- Every reader respects that all is read. -/
theorem respects_whole : Respects .whole read := by
  intro tree other alike
  rw [alike.eq]

/-- A list is read item by item. -/
theorem Respects.list (respects : Respects shape read) :
    Respects (.list shape) (·.list? read) := by
  intro tree other alike
  cases alike with
  | same => rfl
  | @list _ rows each =>
    simp only [Tree.list?]
    induction rows with
    | nil => rfl
    | cons row rows ih =>
      obtain ⟨here, others⟩ := List.forall_mem_cons.mp each
      rw [List.map_cons, List.map_cons, List.mapM_cons, List.mapM_cons, respects here, ih others]

/-- A value that may be null is read as the value, and only null is like null. -/
theorem Respects.optional (respects : Respects shape read) :
    Respects shape (·.optional? read) := by
  intro tree other alike
  have same := respects alike
  cases alike with
  | same => rfl
  | list | row | record => exact congrArg (Option.map some) same

/-- A field with a default takes it in both or in neither. -/
theorem Respects.orDefault (respects : Respects shape read) (value : α)
    {first second : Option Tree} (alike : Option.Rel (Alike shape) first second) :
    orDefault value read second = orDefault value read first := by
  cases alike with
  | none => rfl
  | some alike => exact respects alike

end Readers

/-! ## Records with some of their fields -/

/-- The record of the fields that have a value. -/
def Tree.offered (offers : List (String × Option Tree)) : Tree :=
  Tree.ofMembers (offers.flatMap fun offer => offer.2.toList.map (offer.1, ·))

/-- The members of such a record have the names of its fields. -/
theorem offered_name {offers : List (String × Option Tree)} {member : String × Tree}
    (among : member ∈ offers.flatMap fun offer => offer.2.toList.map (offer.1, ·)) :
    member.1 ∈ offers.map (·.1) := by
  obtain ⟨offer, offered, value⟩ := List.mem_flatMap.mp among
  obtain ⟨tree, -, rfl⟩ := List.mem_map.mp value
  exact List.mem_map_of_mem offered

/-- For each field its value is found, or nothing. -/
theorem fields?_offered {offers : List (String × Option Tree)}
    (distinct : (offers.map (·.1)).Nodup) :
    (Tree.offered offers).fields? (offers.map (·.1)) = some (offers.map (·.2)) := by
  simp only [Tree.offered, Tree.ofMembers, Tree.fields?, named?_ofMembers, Option.bind_eq_bind,
    Option.bind_some]
  refine mapM_of_forall₂ ?_
  rw [List.forall₂_map_left_iff, List.forall₂_map_right_iff]
  refine List.forall₂_same.mpr ?_
  rintro ⟨name, value⟩ among
  obtain ⟨before, after, rfl⟩ := List.append_of_mem among
  rw [(List.perm_middle.map _).nodup_iff, List.map_cons] at distinct
  obtain ⟨new, -⟩ := List.nodup_cons.mp distinct
  have others : ∀ member ∈ before.flatMap (fun offer => offer.2.toList.map (offer.1, ·)) ++
      after.flatMap (fun offer => offer.2.toList.map (offer.1, ·)), member.1 ≠ name := by
    rw [← List.flatMap_append]
    rintro member other rfl
    exact new (offered_name other)
  rw [List.flatMap_append, List.flatMap_cons]
  cases value with
  | some tree => exact field?_once tree others
  | none =>
    rw [field?_eq, Option.toList_none, List.map_nil, List.nil_append,
      List.filter_eq_nil_iff.mpr (by simpa using others)]
    rfl

/-- The reader finds the value in its tree. -/
def Finds {α : Type} (read : Tree → Option α) (tree : α → Tree) : Prop :=
  ∀ value, read (tree value) = some value

/-- A text is found. -/
theorem finds_text : Finds Tree.text? fun text => .string (some text) := fun _ => rfl

/-- A truth value is found. -/
theorem finds_truth : Finds Tree.truth? .bool := fun _ => rfl

/-- A list is found item by item. -/
theorem Finds.list {α : Type} {read : Tree → Option α} {tree : α → Tree}
    (finds : Finds read tree) : Finds (·.list? read) fun values => .array (values.map tree) := by
  intro values
  refine mapM_of_forall₂ (List.forall₂_map_left_iff.mpr (List.forall₂_same.mpr ?_))
  exact fun value _ => finds value

/-- A field that may be left out is read as its value, or else as its default. -/
theorem Finds.orDefault {α : Type} {read : Tree → Option α} {tree : α → Tree}
    (finds : Finds read tree) (standard : α) (value : Option α) :
    orDefault standard read (value.map tree) = some (value.getD standard) := by
  cases value with
  | none => rfl
  | some value => exact finds value

end DatasetPicker.Json
