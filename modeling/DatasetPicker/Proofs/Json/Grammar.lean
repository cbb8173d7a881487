import DatasetPicker.Proofs.Json.Spelling

/-!
# The grammar of documents

A document spells a tree if it is built by the rules of JSON: literals, numbers and strings,
arrays and objects of such texts with commas between them, and blanks around each of them. The
reader accepts just the documents of the grammar, however deep they are nested, and reads each as
the tree that it spells.
-/

namespace DatasetPicker.Json

/-- The text of a name, with blanks around it. -/
def NameText (content : Content) (text : List Char) : Prop :=
  ∃ before string after, Blank before ∧ StringText content string ∧ Blank after ∧
    text = before ++ '"' :: (string ++ after)

/-- A member of an object with its texts. -/
structure ParsedMember where
  name : List Char
  content : Content
  value : List Char
  tree : Tree

/-- The text of a member. -/
def ParsedMember.text (entry : ParsedMember) : List Char := entry.name ++ ':' :: entry.value

/-- A member without its texts. -/
def ParsedMember.member (entry : ParsedMember) : Content × Tree := (entry.content, entry.tree)

/-- The text is a document of the tree. -/
inductive Document : List Char → Tree → Prop where
  | null : Document writeNull .null
  | bool (value : Bool) : Document (writeBool value) (.bool value)
  | number {numeral : Numeral} {text : List Char} (spelled : NumeralText numeral text) :
      Document ((if numeral.negative then ['-'] else []) ++ text) (.number numeral)
  | string {content : Content} {text : List Char} (spelled : StringText content text) :
      Document ('"' :: text) (.string content)
  | emptyArray {gap : List Char} (blank : Blank gap) : Document ('[' :: (gap ++ [']'])) (.array [])
  | array {items : List (List Char × Tree)} (nonempty : items ≠ [])
      (each : ∀ item ∈ items, Document item.1 item.2) :
      Document ('[' :: (separate (items.map (·.1)) ++ [']'])) (.array (items.map (·.2)))
  | emptyObject {gap : List Char} (blank : Blank gap) :
      Document ('\x7b' :: (gap ++ ['\x7d'])) (.object [])
  | object {entries : List ParsedMember} (nonempty : entries ≠ [])
      (names : ∀ entry ∈ entries, NameText entry.content entry.name)
      (each : ∀ entry ∈ entries, Document entry.value entry.tree) :
      Document ('\x7b' :: (separate (entries.map ParsedMember.text) ++ ['\x7d']))
        (.object (entries.map ParsedMember.member))
  | spaced {before text after : List Char} {tree : Tree} (leads : Blank before)
      (trails : Blank after) (spelled : Document text tree) :
      Document (before ++ (text ++ after)) tree

/-! ## Blanks -/

/-- There may be no blanks. -/
theorem blank_nil : Blank [] := List.forall_mem_nil _

/-- Blanks are skipped up to the same sign. -/
theorem skipSpace_append {chars : List Char} {sign : Char} {tail : List Char} (rest : List Char)
    (solid : skipSpace chars = sign :: tail) :
    skipSpace (chars ++ rest) = sign :: (tail ++ rest) := by
  unfold skipSpace at solid ⊢
  rw [List.dropWhile_append, solid]
  rfl

/-- No number goes on at a blank. -/
theorem ended_of_blank {gap rest : List Char} (blank : Blank gap) (ended : Ended rest) :
    Ended (gap ++ rest) := by
  cases gap with
  | nil => exact ended
  | cons sign tail =>
    rintro first ⟨⟩
    have space := blank sign List.mem_cons_self
    simp only [isSpace, Bool.or_eq_true, decide_eq_true_eq] at space
    obtain ((rfl | rfl) | rfl) | rfl := space <;> exact ⟨rfl, by decide, by decide, by decide⟩

/-- Blanks and then a solid sign are skipped up to this sign. -/
theorem skipSpace_solid {gap : List Char} (blank : Blank gap) {sign : Char}
    (solid : isSpace sign = false) (rest : List Char) :
    skipSpace (gap ++ sign :: rest) = sign :: rest := by
  rw [skipSpace_blanks blank, skipSpace_cons solid]

/-! ## Documents are read -/

/-- Before a text in which no number goes on, the text is read as the tree. Blanks at its end are
left. -/
def Taken (text : List Char) (tree : Tree) : Prop :=
  ∃ left, Blank left ∧ ∀ rest allowance, Ended rest → 2 * text.length ≤ allowance →
    value? allowance (text ++ rest) = some (tree, left ++ rest)

/-- A text that is not empty needs an allowance. -/
theorem Taken.of_succ {text left : List Char} {tree : Tree} (nonempty : text ≠ [])
    (blank : Blank left)
    (value : ∀ rest allowance, Ended rest → 2 * text.length ≤ allowance + 1 →
      value? (allowance + 1) (text ++ rest) = some (tree, left ++ rest)) : Taken text tree := by
  refine ⟨left, blank, ?_⟩
  intro rest allowance ended enough
  have length := List.length_pos_iff.mpr nonempty
  cases allowance with
  | zero => omega
  | succ allowance => exact value rest allowance ended enough

/-- A value begins with a sign that closes no array. -/
theorem value?_begins {allowance : Nat} {chars left : List Char} {tree : Tree}
    (read : value? allowance chars = some (tree, left)) :
    ∃ sign tail, skipSpace chars = sign :: tail ∧ sign ≠ ']' := by
  cases allowance with
  | zero => contradiction
  | succ allowance =>
    rw [value?] at read
    cases solid : skipSpace chars with
    | nil =>
      rw [solid] at read
      contradiction
    | cons sign tail =>
      refine ⟨sign, tail, rfl, ?_⟩
      rintro rfl
      rw [solid] at read
      contradiction

namespace Taken

variable {text : List Char} {tree : Tree}

/-- Blanks may stand around a text. -/
theorem spaced (taken : Taken text tree) {before after : List Char} (leads : Blank before)
    (trails : Blank after) : Taken (before ++ (text ++ after)) tree := by
  obtain ⟨left, blank, value⟩ := taken
  refine ⟨left ++ after, List.forall_mem_append.mpr ⟨blank, trails⟩, ?_⟩
  intro rest allowance ended enough
  simp only [List.length_append] at enough
  have inside := value (after ++ rest) allowance (ended_of_blank trails ended) (by omega)
  rw [List.append_assoc, value?_blanks leads, List.append_assoc, inside, List.append_assoc]

/-- As the last item of an array a text is read up to the closing bracket. -/
theorem lastItem (taken : Taken text tree) (allowance : Nat) (rest : List Char)
    (enough : 2 * text.length ≤ allowance) :
    items? (allowance + 1) (text ++ ']' :: rest) = some ([tree], rest) := by
  obtain ⟨left, blank, value⟩ := taken
  have ended : Ended (']' :: rest) := by
    rintro sign ⟨⟩
    decide
  rw [items?, value _ allowance ended enough]
  simp only [Option.bind_eq_bind, Option.bind_some,
    skipSpace_solid blank (show isSpace ']' = false by decide)]
  rfl

/-- Behind an item and a comma the reading goes on. -/
theorem nextItem (taken : Taken text tree) (allowance : Nat) (rest : List Char)
    (others : List Tree) (behind : List Char) (enough : 2 * text.length ≤ allowance)
    (onward : items? allowance rest = some (others, behind)) :
    items? (allowance + 1) (text ++ ',' :: rest) = some (tree :: others, behind) := by
  obtain ⟨left, blank, value⟩ := taken
  have ended : Ended (',' :: rest) := by
    rintro sign ⟨⟩
    decide
  rw [items?, value _ allowance ended enough]
  simp only [Option.bind_eq_bind, Option.bind_some,
    skipSpace_solid blank (show isSpace ',' = false by decide), onward]
  rfl

/-- An array of texts that are read is read. -/
theorem array {items : List (List Char × Tree)} (nonempty : items ≠ [])
    (each : ∀ item ∈ items, Taken item.1 item.2) :
    Taken ('[' :: (separate (items.map (·.1)) ++ [']'])) (.array (items.map (·.2))) := by
  refine of_succ (List.cons_ne_nil _ _) blank_nil ?_
  intro rest allowance ended enough
  simp only [List.length_cons, List.length_append, List.length_nil] at enough
  have fits : List.Forall₂ (fun item tree => Taken item.1 item.2 ∧ item.2 = tree) items
      (items.map (·.2)) :=
    List.forall₂_map_right_iff.mpr (List.forall₂_same.mpr fun item among => ⟨each item among, rfl⟩)
  have inside := sequence_intercalate (·.1) items? ']' [] (fun _ _ => rfl) fits nonempty
    (by rintro item tree ⟨taken, rfl⟩; exact taken.lastItem)
    (by rintro item tree ⟨taken, rfl⟩; exact taken.nextItem) rest allowance
    (by rw [← separate_eq]; omega)
  -- The first item begins a value, so the bracket does not close at once.
  obtain ⟨first, others, rfl⟩ := List.exists_cons_of_ne_nil nonempty
  obtain ⟨left, -, value⟩ := each first List.mem_cons_self
  obtain ⟨sign, tail, begins, opens⟩ := value?_begins (value [] _ (nofun) (Nat.le_refl _))
  rw [List.append_nil] at begins
  obtain ⟨behind, start⟩ := intercalate_begins [','] first.1 (others.map (·.1))
  have head : skipSpace ([','].intercalate ((first :: others).map (·.1)) ++ ']' :: rest) =
      sign :: (tail ++ (behind ++ ']' :: rest)) := by
    rw [List.map_cons, start, List.append_assoc, skipSpace_append _ begins]
  rw [separate_eq, List.cons_append, List.append_assoc, List.singleton_append,
    value?_bracket allowance head opens, inside]
  rfl

end Taken

/-! ## Members are read -/

/-- A spelled name is read, and blanks around it are skipped. -/
theorem NameText.read {content : Content} {text : List Char} (spelled : NameText content text)
    (rest : List Char) :
    ∃ tail left, skipSpace (text ++ ':' :: rest) = '"' :: tail ∧
      string? tail = some (content, left) ∧ skipSpace left = ':' :: rest := by
  obtain ⟨before, string, after, leads, quoted, trails, rfl⟩ := spelled
  refine ⟨string ++ (after ++ ':' :: rest), after ++ ':' :: rest, ?_, ?_, ?_⟩
  · rw [List.append_assoc, List.cons_append, List.append_assoc]
    exact skipSpace_solid leads rfl _
  · exact string?_eq_some_iff.mpr ⟨string, quoted, rfl⟩
  · exact skipSpace_solid trails rfl _

namespace ParsedMember

variable {entry : ParsedMember}

/-- As the last member of an object the text is read up to the closing brace. -/
theorem last (name : NameText entry.content entry.name) (taken : Taken entry.value entry.tree)
    (allowance : Nat) (rest : List Char) (enough : 2 * entry.text.length ≤ allowance) :
    members? (allowance + 1) (entry.text ++ '}' :: rest) = some ([entry.member], rest) := by
  obtain ⟨left, blank, value⟩ := taken
  obtain ⟨tail, named, quote, string, colon⟩ := name.read (entry.value ++ '}' :: rest)
  have ended : Ended ('}' :: rest) := by
    rintro sign ⟨⟩
    decide
  simp only [text, List.length_append, List.length_cons] at enough
  have read := value _ allowance ended (by omega)
  rw [text, List.append_assoc, List.cons_append, members?]
  simp only [quote, string, Option.bind_eq_bind, Option.bind_some, colon, read,
    skipSpace_solid blank (show isSpace '}' = false by decide)]
  rfl

/-- Behind a member and a comma the reading goes on. -/
theorem next (name : NameText entry.content entry.name) (taken : Taken entry.value entry.tree)
    (allowance : Nat) (rest : List Char) (others : List (Content × Tree)) (behind : List Char)
    (enough : 2 * entry.text.length ≤ allowance)
    (onward : members? allowance rest = some (others, behind)) :
    members? (allowance + 1) (entry.text ++ ',' :: rest) =
      some (entry.member :: others, behind) := by
  obtain ⟨left, blank, value⟩ := taken
  obtain ⟨tail, named, quote, string, colon⟩ := name.read (entry.value ++ ',' :: rest)
  have ended : Ended (',' :: rest) := by
    rintro sign ⟨⟩
    decide
  simp only [text, List.length_append, List.length_cons] at enough
  have read := value _ allowance ended (by omega)
  rw [text, List.append_assoc, List.cons_append, members?]
  simp only [quote, string, Option.bind_eq_bind, Option.bind_some, colon, read,
    skipSpace_solid blank (show isSpace ',' = false by decide), onward]
  rfl

end ParsedMember

/-- An object of members that are read is read. -/
theorem Taken.object {entries : List ParsedMember} (nonempty : entries ≠ [])
    (names : ∀ entry ∈ entries, NameText entry.content entry.name)
    (each : ∀ entry ∈ entries, Taken entry.value entry.tree) :
    Taken ('{' :: (separate (entries.map ParsedMember.text) ++ ['}']))
      (.object (entries.map ParsedMember.member)) := by
  refine of_succ (List.cons_ne_nil _ _) blank_nil ?_
  intro rest allowance ended enough
  simp only [List.length_cons, List.length_append, List.length_nil] at enough
  have fits : List.Forall₂ (fun (entry : ParsedMember) member =>
      NameText entry.content entry.name ∧ Taken entry.value entry.tree ∧ entry.member = member)
      entries (entries.map ParsedMember.member) :=
    List.forall₂_map_right_iff.mpr
      (List.forall₂_same.mpr fun entry among => ⟨names entry among, each entry among, rfl⟩)
  have inside := sequence_intercalate ParsedMember.text members? '}' [] (fun _ _ => rfl) fits
    nonempty (by rintro entry member ⟨name, taken, rfl⟩; exact ParsedMember.last name taken)
    (by rintro entry member ⟨name, taken, rfl⟩; exact ParsedMember.next name taken) rest allowance
    (by rw [← separate_eq]; omega)
  -- The first member begins with a quote, so the brace does not close at once.
  obtain ⟨first, others, rfl⟩ := List.exists_cons_of_ne_nil nonempty
  obtain ⟨behind, start⟩ := intercalate_begins [','] first.text (others.map ParsedMember.text)
  obtain ⟨tail, left, quote, -, -⟩ := (names first List.mem_cons_self).read
    (first.value ++ (behind ++ '}' :: rest))
  have head : skipSpace ([','].intercalate ((first :: others).map ParsedMember.text) ++
      '}' :: rest) = '"' :: tail := by
    rw [List.map_cons, start, ParsedMember.text, List.append_assoc, List.append_assoc,
      List.cons_append, quote]
  rw [separate_eq, List.cons_append, List.append_assoc, List.singleton_append,
    value?_brace allowance head, inside]
  rfl

/-! ## Every document is read -/

namespace Taken

/-- Null is read. -/
theorem null : Taken writeNull .null :=
  of_succ (List.cons_ne_nil _ _) blank_nil fun _ _ _ _ => rfl

/-- A truth value is read. -/
theorem bool (value : Bool) : Taken (writeBool value) (.bool value) := by
  cases value with
  | false => exact of_succ (List.cons_ne_nil _ _) blank_nil fun _ _ _ _ => rfl
  | true => exact of_succ (List.cons_ne_nil _ _) blank_nil fun _ _ _ _ => rfl

/-- A number is read behind its sign. -/
theorem number {numeral : Numeral} {text : List Char} (spelled : NumeralText numeral text) :
    Taken ((if numeral.negative then ['-'] else []) ++ text) (.number numeral) := by
  obtain ⟨digit, tail, rfl, numeric⟩ := spelled.begins
  have left (rest : List Char) (ended : Ended rest) := spelled.read ended
  cases negative : numeral.negative with
  | true =>
    rw [negative] at left
    refine of_succ (List.cons_ne_nil _ _) blank_nil ?_
    intro rest allowance ended enough
    change (numeral? true (digit :: tail ++ rest)).map _ = _
    rw [left rest ended]
    rfl
  | false =>
    rw [negative] at left
    refine of_succ (List.cons_ne_nil _ _) blank_nil ?_
    intro rest allowance ended enough
    change value? (allowance + 1) (digit :: (tail ++ rest)) = _
    rw [value?_digit allowance numeric, ← List.cons_append, left rest ended]
    rfl

/-- A string is read. -/
theorem string {content : Content} {text : List Char} (spelled : StringText content text) :
    Taken ('"' :: text) (.string content) := by
  refine of_succ (List.cons_ne_nil _ _) blank_nil ?_
  intro rest allowance ended enough
  change (string? (text ++ rest)).map _ = _
  rw [string?_eq_some_iff.mpr ⟨text, spelled, rfl⟩]
  rfl

/-- Brackets with nothing but blanks between them are an array without items. -/
theorem emptyArray {gap : List Char} (blank : Blank gap) :
    Taken ('[' :: (gap ++ [']'])) (.array []) := by
  refine of_succ (List.cons_ne_nil _ _) blank_nil ?_
  intro rest allowance ended enough
  rw [List.cons_append, List.append_assoc, value?]
  simp only [skipSpace_cons (show isSpace '[' = false by decide), List.singleton_append,
    skipSpace_solid blank (show isSpace ']' = false by decide), List.nil_append]

/-- Braces with nothing but blanks between them are an object without members. -/
theorem emptyObject {gap : List Char} (blank : Blank gap) :
    Taken ('\x7b' :: (gap ++ ['\x7d'])) (.object []) := by
  refine of_succ (List.cons_ne_nil _ _) blank_nil ?_
  intro rest allowance ended enough
  rw [List.cons_append, List.append_assoc, value?]
  simp only [skipSpace_cons (show isSpace '\x7b' = false by decide), List.singleton_append,
    skipSpace_solid blank (show isSpace '\x7d' = false by decide), List.nil_append]

end Taken

/-- A document is read as its tree. -/
theorem Document.taken {text : List Char} {tree : Tree} (document : Document text tree) :
    Taken text tree := by
  induction document with
  | null => exact .null
  | bool value => exact .bool value
  | number spelled => exact .number spelled
  | string spelled => exact .string spelled
  | emptyArray blank => exact .emptyArray blank
  | array nonempty _ each => exact .array nonempty each
  | emptyObject blank => exact .emptyObject blank
  | object nonempty names _ each => exact .object nonempty names each
  | spaced leads trails _ taken => exact taken.spaced leads trails

/-! ## Only documents are read -/

/-- With the allowance only documents are read: of a value, of the items up to the end of an
array, and of the members up to the end of an object. -/
structure Sound (allowance : Nat) : Prop where
  value {chars left : List Char} {tree : Tree} :
    value? allowance chars = some (tree, left) →
      ∃ text, Document text tree ∧ chars = text ++ left
  items {chars left : List Char} {trees : List Tree} :
    items? allowance chars = some (trees, left) →
      ∃ items : List (List Char × Tree), items ≠ [] ∧ items.map (·.2) = trees ∧
        (∀ item ∈ items, Document item.1 item.2) ∧
        chars = separate (items.map (·.1)) ++ ']' :: left
  members {chars left : List Char} {members : List (Content × Tree)} :
    members? allowance chars = some (members, left) →
      ∃ entries : List ParsedMember, entries ≠ [] ∧ entries.map ParsedMember.member = members ∧
        (∀ entry ∈ entries, NameText entry.content entry.name) ∧
        (∀ entry ∈ entries, Document entry.value entry.tree) ∧
        chars = separate (entries.map ParsedMember.text) ++ '\x7d' :: left

/-- Blanks may stand before a document. -/
theorem Document.behind {text : List Char} {tree : Tree} (document : Document text tree)
    {gap : List Char} (blank : Blank gap) : Document (gap ++ text) tree := by
  have spaced := document.spaced blank blank_nil
  rwa [List.append_nil] at spaced

/-- Blanks may stand behind a document. -/
theorem Document.before {text : List Char} {tree : Tree} (document : Document text tree)
    {gap : List Char} (blank : Blank gap) : Document (text ++ gap) tree :=
  document.spaced blank_nil blank

/-- A text is separated from those that follow it by a comma. -/
theorem separate_cons (item : List Char) {items : List (List Char)} (nonempty : items ≠ []) :
    separate (item :: items) = item ++ ',' :: separate items := by
  obtain ⟨next, others, rfl⟩ := List.exists_cons_of_ne_nil nonempty
  rfl

namespace Sound

variable {allowance : Nat} (sound : Sound allowance)
include sound

/-- One step further, only documents are read. -/
theorem value_succ {chars left : List Char} {tree : Tree}
    (read : value? (allowance + 1) chars = some (tree, left)) :
    ∃ text, Document text tree ∧ chars = text ++ left := by
  obtain ⟨gap, blank, whole⟩ := exists_blanks chars
  suffices found : ∃ text, Document text tree ∧ skipSpace chars = text ++ left by
    obtain ⟨text, document, begins⟩ := found
    refine ⟨gap ++ text, document.behind blank, ?_⟩
    rw [List.append_assoc, ← begins]
    exact whole
  rw [value?] at read
  split at read
  case h_1 _ begins =>
    cases read
    exact ⟨_, .null, begins⟩
  case h_2 _ begins =>
    cases read
    exact ⟨_, .bool true, begins⟩
  case h_3 _ begins =>
    cases read
    exact ⟨_, .bool false, begins⟩
  case h_4 tail begins =>
    obtain ⟨⟨content, behind⟩, string, same⟩ := Option.map_eq_some_iff.mp read
    cases same
    obtain ⟨text, spelled, rfl⟩ := string?_eq_some_iff.mp string
    exact ⟨_, .string spelled, begins⟩
  case h_5 tail begins =>
    obtain ⟨inner, free, within⟩ := exists_blanks tail
    split at read
    · rename_i closes
      cases read
      refine ⟨_, .emptyArray free, ?_⟩
      rw [begins, within, closes]
      simp
    · obtain ⟨⟨trees, behind⟩, found, same⟩ := Option.map_eq_some_iff.mp read
      cases same
      rw [← items?_blanks free, ← within] at found
      obtain ⟨items, nonempty, rfl, each, rfl⟩ := sound.items found
      refine ⟨_, .array nonempty each, ?_⟩
      rw [begins]
      simp
  case h_6 tail begins =>
    obtain ⟨inner, free, within⟩ := exists_blanks tail
    split at read
    · rename_i closes
      cases read
      refine ⟨_, .emptyObject free, ?_⟩
      rw [begins, within, closes]
      simp
    · obtain ⟨⟨members, behind⟩, found, same⟩ := Option.map_eq_some_iff.mp read
      cases same
      rw [← members?_blanks free, ← within] at found
      obtain ⟨entries, nonempty, rfl, names, each, rfl⟩ := sound.members found
      refine ⟨_, .object nonempty names each, ?_⟩
      rw [begins]
      simp
  case h_7 tail begins =>
    obtain ⟨⟨numeral, behind⟩, found, same⟩ := Option.map_eq_some_iff.mp read
    cases same
    obtain ⟨negative, text, spelled, rfl⟩ := exists_numeralText found
    refine ⟨_, .number spelled, ?_⟩
    rw [begins, negative]
    rfl
  case h_8 =>
    obtain ⟨⟨numeral, behind⟩, found, same⟩ := Option.map_eq_some_iff.mp read
    cases same
    obtain ⟨negative, text, spelled, begins⟩ := exists_numeralText found
    refine ⟨_, .number spelled, ?_⟩
    rw [begins, negative]
    rfl

/-- One step further, only documents are read as the items of an array. -/
theorem items_succ {chars left : List Char} {trees : List Tree}
    (read : items? (allowance + 1) chars = some (trees, left)) :
    ∃ items : List (List Char × Tree), items ≠ [] ∧ items.map (·.2) = trees ∧
      (∀ item ∈ items, Document item.1 item.2) ∧
      chars = separate (items.map (·.1)) ++ ']' :: left := by
  obtain ⟨⟨tree, behind⟩, first, further⟩ := Option.bind_eq_some_iff.mp read
  obtain ⟨text, document, rfl⟩ := sound.value first
  obtain ⟨gap, blank, whole⟩ := exists_blanks behind
  simp only at further
  split at further
  · rename_i closes
    cases further
    refine ⟨[(text ++ gap, tree)], List.cons_ne_nil _ _, rfl, ?_, ?_⟩
    · exact List.forall_mem_singleton.mpr (document.before blank)
    · rw [whole, closes]
      simp [separate]
  · rename_i tail comma
    obtain ⟨⟨others, rest⟩, onward, same⟩ := Option.bind_eq_some_iff.mp further
    cases same
    obtain ⟨items, nonempty, rfl, each, rfl⟩ := sound.items onward
    refine ⟨(text ++ gap, tree) :: items, List.cons_ne_nil _ _, rfl, ?_, ?_⟩
    · exact List.forall_mem_cons.mpr ⟨document.before blank, each⟩
    · rw [whole, comma, List.map_cons, separate_cons _ (mt List.map_eq_nil_iff.mp nonempty)]
      simp
  · contradiction

/-- One step further, only documents are read as the values of members. -/
theorem members_succ {chars left : List Char} {members : List (Content × Tree)}
    (read : members? (allowance + 1) chars = some (members, left)) :
    ∃ entries : List ParsedMember, entries ≠ [] ∧ entries.map ParsedMember.member = members ∧
      (∀ entry ∈ entries, NameText entry.content entry.name) ∧
      (∀ entry ∈ entries, Document entry.value entry.tree) ∧
      chars = separate (entries.map ParsedMember.text) ++ '\x7d' :: left := by
  obtain ⟨before, leads, begins⟩ := exists_blanks chars
  rw [members?] at read
  split at read
  · rename_i tail quote
    obtain ⟨⟨content, behind⟩, string, named⟩ := Option.bind_eq_some_iff.mp read
    obtain ⟨spelling, spelled, rfl⟩ := string?_eq_some_iff.mp string
    obtain ⟨after, trails, follows⟩ := exists_blanks behind
    simp only at named
    split at named
    · rename_i inner colon
      obtain ⟨⟨tree, behind⟩, value, further⟩ := Option.bind_eq_some_iff.mp named
      obtain ⟨text, document, rfl⟩ := sound.value value
      obtain ⟨gap, blank, whole⟩ := exists_blanks behind
      have name : NameText content (before ++ '"' :: (spelling ++ after)) :=
        ⟨before, spelling, after, leads, spelled, trails, rfl⟩
      rw [quote, follows, colon] at begins
      let entry : ParsedMember := ⟨before ++ '"' :: (spelling ++ after), content, text ++ gap, tree⟩
      simp only at further
      split at further
      · rename_i closes
        cases further
        refine ⟨[entry], List.cons_ne_nil _ _, rfl, List.forall_mem_singleton.mpr name,
          List.forall_mem_singleton.mpr (document.before blank), ?_⟩
        rw [begins, whole, closes]
        simp [entry, ParsedMember.text, separate]
      · rename_i further comma
        obtain ⟨⟨others, rest⟩, onward, same⟩ := Option.bind_eq_some_iff.mp further
        cases same
        obtain ⟨entries, nonempty, rfl, names, each, rfl⟩ := sound.members onward
        refine ⟨entry :: entries, List.cons_ne_nil _ _, rfl,
          List.forall_mem_cons.mpr ⟨name, names⟩,
          List.forall_mem_cons.mpr ⟨document.before blank, each⟩, ?_⟩
        rw [begins, whole, comma, List.map_cons,
          separate_cons _ (mt List.map_eq_nil_iff.mp nonempty)]
        simp [entry, ParsedMember.text]
      · contradiction
    · contradiction
  · contradiction

end Sound

/-- Only documents are read, whatever the allowance. -/
theorem sound (allowance : Nat) : Sound allowance := by
  induction allowance with
  | zero => exact ⟨nofun, nofun, nofun⟩
  | succ allowance ih => exact ⟨ih.value_succ, ih.items_succ, ih.members_succ⟩

/-- A text is read as a tree just if it is a document of the tree. -/
theorem read?_eq_some_iff {text : String} {tree : Tree} :
    read? text = some tree ↔ Document text.toList tree := by
  constructor
  · intro read
    obtain ⟨⟨found, left⟩, value, read⟩ := Option.bind_eq_some_iff.mp read
    obtain ⟨chars, document, whole⟩ := (sound _).value value
    obtain ⟨gap, blank, rest⟩ := exists_blanks left
    simp only at read
    split at read
    · rename_i nothing
      cases read
      rw [List.isEmpty_iff.mp nothing, List.append_nil] at rest
      rw [whole, rest]
      exact document.before blank
    · contradiction
  · intro document
    obtain ⟨left, blank, value⟩ := document.taken
    have read := value [] (2 * text.toList.length + 2) nofun (by omega)
    rw [List.append_nil, List.append_nil] at read
    have nothing : skipSpace left = [] := by
      rw [← List.append_nil left, skipSpace_blanks blank]
      rfl
    simp only [read?, read, Option.bind_eq_bind, Option.bind_some, nothing]
    rfl

/-- Before a sign that separates or closes no number goes on. -/
theorem Closes.ended {rest : List Char} (closes : Closes rest) : Ended rest := by
  intro sign first
  obtain rfl | rfl | rfl := closes sign first <;> decide

/-- A document stands wherever a value may. -/
theorem stands_of_read? {text : String} {tree : Tree} (read : read? text = some tree) :
    Stands text.toList tree := by
  obtain ⟨left, blank, value⟩ := (read?_eq_some_iff.mp read).taken
  refine ⟨left, blank, ?_⟩
  intro rest allowance closes enough
  exact value rest allowance closes.ended (Nat.le_of_add_right_le enough)

end DatasetPicker.Json
