import DatasetPicker.Proofs.Json.Integers
import DatasetPicker.Proofs.Json.Strings

/-!
# Written documents read back

A written text is read as a tree when that holds before whatever may come after a value, with
an allowance of twice its length. Written strings and integers are read in this way, and so
are the arrays and objects of texts that are. All of them stand on one line.
-/

namespace DatasetPicker.Json

/-- A text of nothing but blanks. -/
def Blank (text : List Char) : Prop := ∀ sign ∈ text, isSpace sign = true

/-- The text stands on one line, begins a value and is read as the tree, and what comes after
it is left. -/
structure Reads (written : List Char) (tree : Tree) : Prop where
  unbroken : '\n' ∉ written
  begins : ∃ sign body, written = sign :: body ∧ isSpace sign = false ∧ sign ≠ ']'
  value : ∀ rest allowance, Closes rest → 2 * written.length ≤ allowance + 1 →
    value? (allowance + 1) (written ++ rest) = some (tree, rest)

/-- A text that is read needs an allowance, so twice its length is one. -/
theorem Reads.value_of_le {written : List Char} {tree : Tree} (reads : Reads written tree)
    {rest : List Char} (closes : Closes rest) {allowance : Nat}
    (enough : 2 * written.length ≤ allowance) :
    value? allowance (written ++ rest) = some (tree, rest) := by
  obtain ⟨sign, body, rfl, -, -⟩ := reads.begins
  cases allowance with
  | zero => contradiction
  | succ allowance => exact reads.value rest allowance closes enough

/-- Nothing is skipped before a sign. -/
theorem skipSpace_cons {sign : Char} (solid : isSpace sign = false) (rest : List Char) :
    skipSpace (sign :: rest) = sign :: rest :=
  List.dropWhile_cons_of_neg (by simp [solid])

/-- A digit is not blank. -/
theorem isSpace_of_isDigit {char : Char} (numeric : isDigit char = true) :
    isSpace char = false := by
  simp only [isSpace, Bool.or_eq_false_iff, decide_eq_false_iff_not]
  refine ⟨⟨⟨?_, ?_⟩, ?_⟩, ?_⟩
  all_goals
    rintro rfl
    contradiction

/-- A sign that separates or closes may come after a value. -/
theorem closes_cons {sign : Char} (closing : sign = ',' ∨ sign = ']' ∨ sign = '\x7d')
    (rest : List Char) : Closes (sign :: rest) := by
  intro first found
  cases found
  exact closing

/-! ## Single values -/

/-- Null is read back. -/
theorem reads_null : Reads writeNull .null :=
  ⟨by decide, ⟨_, _, rfl, rfl, by decide⟩, fun _ _ _ _ => rfl⟩

/-- A truth value is read back. -/
theorem reads_bool (value : Bool) : Reads (writeBool value) (.bool value) := by
  cases value with
  | false => exact ⟨by decide, ⟨_, _, rfl, rfl, by decide⟩, fun _ _ _ _ => rfl⟩
  | true => exact ⟨by decide, ⟨_, _, rfl, rfl, by decide⟩, fun _ _ _ _ => rfl⟩

/-- A string is read back. -/
theorem reads_string (content : String) : Reads (writeString content) (.string content) := by
  obtain ⟨body, written, string⟩ := string?_writeString content
  refine ⟨writeString_unbroken content, ⟨'"', body, written, rfl, by decide⟩, ?_⟩
  intro rest allowance closes enough
  rw [written, List.cons_append, value?]
  change (string? (body ++ rest)).map _ = _
  rw [string]
  rfl

/-- A digit at the head begins a number without a sign. -/
theorem value?_digit (allowance : Nat) {digit : Char} (numeric : isDigit digit = true)
    (rest : List Char) :
    value? (allowance + 1) (digit :: rest) =
      (numeral? false (digit :: rest)).map fun (numeral, rest) => (.number numeral, rest) := by
  rw [value?, skipSpace_cons (isSpace_of_isDigit numeric)]
  split
  case h_8 => rfl
  all_goals
    rename_i same
    cases same
    contradiction

/-- An integer is read back as its numeral. -/
theorem reads_integer (value : Int) :
    Reads (writeInteger value) (.number (integerNumeral value)) := by
  by_cases negative : value < 0
  · have written : writeInteger value = '-' :: Nat.toDigits 10 value.natAbs := by
      rw [writeInteger, if_pos negative]
      rfl
    refine ⟨writeInteger_unbroken value, ⟨_, _, written, rfl, by decide⟩, ?_⟩
    intro rest allowance closes enough
    have numeral := numeral?_toDigits value closes
    rw [decide_eq_true negative] at numeral
    rw [written, List.cons_append, value?]
    change (numeral? true (Nat.toDigits 10 value.natAbs ++ rest)).map _ = _
    rw [numeral]
    rfl
  · obtain ⟨digit, digits, shape⟩ := List.exists_cons_of_ne_nil
      (Nat.toDigits_ne_nil : Nat.toDigits 10 value.natAbs ≠ [])
    have written : writeInteger value = digit :: digits := by
      rw [writeInteger, if_neg negative, List.nil_append, shape]
    have numeric : isDigit digit = true :=
      toDigits_isDigit value.natAbs digit (by rw [shape]; exact List.mem_cons_self)
    refine ⟨writeInteger_unbroken value,
      ⟨digit, digits, written, isSpace_of_isDigit numeric, ?_⟩, ?_⟩
    · rintro rfl
      contradiction
    · intro rest allowance closes enough
      have numeral := numeral?_toDigits value closes
      rw [decide_eq_false negative, shape] at numeral
      rw [written, List.cons_append, value?_digit allowance numeric, ← List.cons_append, numeral]
      rfl

/-! ## Sequences -/

/-- Blanks in front are skipped. -/
theorem skipSpace_blanks {gap : List Char} (blank : ∀ sign ∈ gap, isSpace sign = true)
    (chars : List Char) : skipSpace (gap ++ chars) = skipSpace chars :=
  List.dropWhile_append_of_pos blank

/-- What is skipped are blanks. -/
theorem exists_blanks (chars : List Char) :
    ∃ gap, Blank gap ∧ chars = gap ++ skipSpace chars := by
  refine ⟨chars.takeWhile isSpace, ?_, List.takeWhile_append_dropWhile.symm⟩
  intro sign among
  exact List.all_eq_true.mp List.all_takeWhile sign among

/-- Blanks before a value are skipped. -/
theorem value?_blanks {gap : List Char} (blank : Blank gap) (allowance : Nat)
    (chars : List Char) : value? allowance (gap ++ chars) = value? allowance chars := by
  cases allowance with
  | zero => rfl
  | succ allowance => rw [value?, skipSpace_blanks blank, ← value?]

/-- Blanks before the items of an array are skipped. -/
theorem items?_blanks {gap : List Char} (blank : Blank gap) (allowance : Nat)
    (chars : List Char) : items? allowance (gap ++ chars) = items? allowance chars := by
  cases allowance with
  | zero => rfl
  | succ allowance => rw [items?, items?, value?_blanks blank]

/-- Blanks before the members of an object are skipped. -/
theorem members?_blanks {gap : List Char} (blank : ∀ sign ∈ gap, isSpace sign = true)
    (allowance : Nat) (chars : List Char) :
    members? allowance (gap ++ chars) = members? allowance chars := by
  cases allowance with
  | zero => rfl
  | succ allowance => rw [members?, members?, skipSpace_blanks blank]

/-- A bracket before a value opens an array of items. -/
theorem value?_bracket (allowance : Nat) {chars tail : List Char} {sign : Char}
    (begins : skipSpace chars = sign :: tail) (opens : sign ≠ ']') :
    value? (allowance + 1) ('[' :: chars) =
      (items? allowance chars).map fun (items, rest) => (.array items, rest) := by
  obtain ⟨gap, blank, whole⟩ := exists_blanks chars
  have skipped : items? allowance chars = items? allowance (sign :: tail) := by
    rw [whole, begins, items?_blanks blank]
  simp only [value?, skipSpace_cons (show isSpace '[' = false by decide), begins, skipped]
  split
  · rename_i same
    exact absurd (List.cons.inj same).1 opens
  · rfl

/-- A brace before a name opens an object of members. -/
theorem value?_brace (allowance : Nat) {chars tail : List Char}
    (begins : skipSpace chars = '"' :: tail) :
    value? (allowance + 1) ('\x7b' :: chars) =
      (members? allowance chars).map fun (members, rest) => (.object members, rest) := by
  obtain ⟨gap, blank, whole⟩ := exists_blanks chars
  have skipped : members? allowance chars = members? allowance ('"' :: tail) := by
    rw [whole, begins, members?_blanks blank]
  simp only [value?, skipSpace_cons (show isSpace '\x7b' = false by decide), begins, skipped]
  split
  · rename_i same
    exact absurd (List.cons.inj same).1 (by decide)
  · rfl

/-- Separated texts have commas between them and nothing else. -/
theorem separate_eq (items : List (List Char)) : separate items = [','].intercalate items := by
  induction items with
  | nil => rfl
  | cons item items ih =>
    cases items with
    | nil => exact (List.intercalate_singleton ..).symm
    | cons next items =>
      rw [List.intercalate_cons_cons, ← ih, List.append_assoc]
      rfl

/-- A reader that takes a last source up to the closing sign, and goes on behind the comma after
any other source, reads the texts of its sources one after the other. The gap is what it skips
behind a comma. -/
theorem sequence_intercalate {α β : Type} {Fits : α → β → Prop} (text : α → List Char)
    (sequence : Nat → List Char → Option (List β × List Char)) (closing : Char)
    (gap : List Char)
    (skips : ∀ allowance rest, sequence allowance (gap ++ rest) = sequence allowance rest)
    {sources : List α} {reads : List β} (fits : List.Forall₂ Fits sources reads)
    (any : sources ≠ [])
    (last : ∀ {source read}, Fits source read → ∀ allowance rest,
      2 * (text source).length ≤ allowance →
        sequence (allowance + 1) (text source ++ closing :: rest) = some ([read], rest))
    (next : ∀ {source read}, Fits source read → ∀ allowance rest others left,
      2 * (text source).length ≤ allowance → sequence allowance rest = some (others, left) →
        sequence (allowance + 1) (text source ++ ',' :: rest) = some (read :: others, left))
    (rest : List Char) (allowance : Nat)
    (enough : 2 * ((',' :: gap).intercalate (sources.map text)).length < allowance) :
    sequence allowance ((',' :: gap).intercalate (sources.map text) ++ closing :: rest) =
      some (reads, rest) := by
  induction fits generalizing allowance with
  | nil => contradiction
  | @cons source read sources reads fit fits ih =>
    cases allowance with
    | zero => contradiction
    | succ allowance =>
      cases fits with
      | nil =>
        rw [List.map_singleton, List.intercalate_singleton] at enough ⊢
        exact last fit allowance rest (Nat.le_of_lt_succ enough)
      | @cons following _ sources _ _ _ =>
        rw [List.map_cons, List.map_cons, List.intercalate_cons_cons, ← List.map_cons] at enough ⊢
        simp only [List.length_append, List.length_cons] at enough
        -- The length of the comma pays for the step to the others.
        have others := ih (List.cons_ne_nil _ _) allowance (by omega)
        rw [← skips] at others
        simp only [List.append_assoc, List.cons_append]
        exact next fit allowance _ _ rest (by omega) others

/-- Separated texts between two signs stand on one line if each of them does. -/
theorem enclosed_unbroken {opening closing : Char} (opens : opening ≠ '\n')
    (closes : closing ≠ '\n') {items : List (List Char)}
    (unbroken : ∀ item ∈ items, '\n' ∉ item) : '\n' ∉ opening :: separate items ++ [closing] := by
  have inside : '\n' ∉ separate items := by
    induction items with
    | nil => exact List.not_mem_nil
    | cons item items ih =>
      obtain ⟨first, others⟩ := List.forall_mem_cons.mp unbroken
      cases items with
      | nil => exact first
      | cons next items => simp [separate, first, ih others]
  simp [opens.symm, closes.symm, inside]

/-- Texts that are put together begin as the first of them. -/
theorem intercalate_begins (gap item : List Char) (items : List (List Char)) :
    ∃ others, gap.intercalate (item :: items) = item ++ others := by
  cases items with
  | nil => exact ⟨[], by rw [List.intercalate_singleton, List.append_nil]⟩
  | cons next items => exact ⟨_, by rw [List.intercalate_cons_cons, List.append_assoc]⟩

/-! ## Arrays -/

/-- As the last item a text is read up to the closing bracket. -/
theorem Reads.lastItem {item : List Char} {tree : Tree} (read : Reads item tree) (allowance : Nat)
    (rest : List Char) (enough : 2 * item.length ≤ allowance) :
    items? (allowance + 1) (item ++ ']' :: rest) = some ([tree], rest) := by
  have closes : Closes (']' :: rest) := closes_cons (.inr (.inl rfl)) rest
  rw [items?, read.value_of_le closes enough]
  rfl

/-- Behind an item and a comma the reading goes on. -/
theorem Reads.nextItem {item : List Char} {tree : Tree} (read : Reads item tree) (allowance : Nat)
    (rest : List Char) (others : List Tree) (left : List Char)
    (enough : 2 * item.length ≤ allowance) (behind : items? allowance rest = some (others, left)) :
    items? (allowance + 1) (item ++ ',' :: rest) = some (tree :: others, left) := by
  have closes : Closes (',' :: rest) := closes_cons (.inl rfl) rest
  rw [items?, read.value_of_le closes enough]
  simp only [Option.bind_eq_bind, Option.bind_some,
    skipSpace_cons (show isSpace ',' = false by decide), behind]
  rfl

/-- An array of texts that are read back is read back. -/
theorem reads_array {items : List (List Char)} {trees : List Tree}
    (reads : List.Forall₂ Reads items trees) : Reads (writeArray items) (.array trees) := by
  unfold writeArray
  have unbroken : ∀ item ∈ items, '\n' ∉ item := by
    induction reads with
    | nil => exact nofun
    | cons read _ ih => exact List.forall_mem_cons.mpr ⟨read.unbroken, ih⟩
  refine ⟨enclosed_unbroken (by decide) (by decide) unbroken, ⟨_, _, rfl, rfl, by decide⟩, ?_⟩
  intro rest allowance closes enough
  cases reads with
  | nil => rfl
  | @cons item tree items trees read reads =>
    rw [List.length_append, List.length_cons, separate_eq] at enough
    have inside := sequence_intercalate id items? ']' [] (fun _ _ => rfl) (.cons read reads)
      (List.cons_ne_nil _ _) Reads.lastItem Reads.nextItem rest allowance
      (by rw [List.map_id]; omega)
    rw [List.map_id] at inside
    -- The first item begins a value, so the bracket does not close at once.
    obtain ⟨sign, body, shape, solid, opens⟩ := read.begins
    obtain ⟨others, start⟩ := intercalate_begins [','] item items
    have head : [','].intercalate (item :: items) ++ ']' :: rest =
        sign :: (body ++ (others ++ ']' :: rest)) := by
      rw [start, shape, List.append_assoc, List.cons_append]
    rw [separate_eq, List.append_assoc, List.cons_append, List.singleton_append, head,
      value?_bracket allowance (skipSpace_cons solid _) opens, ← head, inside]
    rfl

/-! ## Objects -/

/-- Before whatever may come behind a value the text is read as the tree. Blanks at its end are
left. -/
def Stands (text : List Char) (tree : Tree) : Prop :=
  ∃ left, (∀ sign ∈ left, isSpace sign = true) ∧ ∀ rest allowance, Closes rest →
    2 * text.length + 2 ≤ allowance → value? allowance (text ++ rest) = some (tree, left ++ rest)

/-- A text that is read back stands with nothing at its end. -/
theorem Reads.stands {text : List Char} {tree : Tree} (reads : Reads text tree) :
    Stands text tree := by
  refine ⟨[], nofun, ?_⟩
  intro rest allowance closes enough
  exact reads.value_of_le closes (Nat.le_of_add_right_le enough)

/-- A text stands behind blanks, too. -/
theorem Stands.spaced {text : List Char} {tree : Tree} (stands : Stands text tree)
    {gap : List Char} (blank : ∀ sign ∈ gap, isSpace sign = true) : Stands (gap ++ text) tree := by
  obtain ⟨left, blanks, value⟩ := stands
  refine ⟨left, blanks, ?_⟩
  intro rest allowance closes enough
  rw [List.length_append] at enough
  rw [List.append_assoc, value?_blanks blank]
  exact value rest allowance closes (by omega)

/-- The text of a member, with a gap behind its colon. -/
def memberText (gap : List Char) (member : String × List Char) : List Char :=
  writeString member.1 ++ ':' :: (gap ++ member.2)

/-- The text of an object with a gap behind its colons and commas. -/
def objectText (gap : List Char) (members : List (String × List Char)) : List Char :=
  '\x7b' :: (',' :: gap).intercalate (members.map (memberText gap)) ++ ['\x7d']

/-- An object is written without gaps. -/
theorem writeObject_eq (members : List (String × List Char)) :
    writeObject members = objectText [] members := by
  rw [writeObject, separate_eq]
  rfl

/-- A member is its quoted name, a colon and its value behind the gap. -/
theorem memberText_eq (gap : List Char) (member : String × List Char) :
    ∃ body, (∀ rest, string? (body ++ rest) = some (some member.1, rest)) ∧
      ∀ rest, memberText gap member ++ rest =
        '"' :: (body ++ ':' :: (gap ++ member.2 ++ rest)) := by
  obtain ⟨body, shape, string⟩ := string?_writeString member.1
  refine ⟨body, string, ?_⟩
  intro rest
  simp [memberText, shape]

/-- The member has a name that is text, and the text of its value stands for the tree. -/
structure StandsMember (member : String × List Char) (read : Content × Tree) : Prop where
  name : read.1 = some member.1
  value : Stands member.2 read.2

namespace StandsMember

variable {member : String × List Char} {read : Content × Tree} {gap : List Char}

/-- Behind its name and the colon, the value of a member is read before whatever may come
behind it, and blanks are left. -/
theorem begins (stands : StandsMember member read) (blank : ∀ sign ∈ gap, isSpace sign = true)
    {rest : List Char} (closes : Closes rest) {allowance : Nat}
    (enough : 2 * (memberText gap member).length ≤ allowance) :
    ∃ body left, memberText gap member ++ rest = '"' :: body ∧
      string? body = some (read.1, ':' :: left) ∧
      ∃ behind, value? allowance left = some (read.2, behind) ∧ skipSpace behind = skipSpace rest := by
  obtain ⟨body, string, text⟩ := memberText_eq gap member
  obtain ⟨behind, blanks, value⟩ := stands.value.spaced blank
  rw [memberText, List.length_append, List.length_cons] at enough
  refine ⟨_, _, text rest, ?_, _, value rest allowance closes (by omega), skipSpace_blanks blanks _⟩
  rw [string, stands.name]

/-- As the last one the member is read up to the closing brace. -/
theorem last (stands : StandsMember member read) (blank : ∀ sign ∈ gap, isSpace sign = true)
    (allowance : Nat) (rest : List Char)
    (enough : 2 * (memberText gap member).length ≤ allowance) :
    members? (allowance + 1) (memberText gap member ++ '\x7d' :: rest) = some ([read], rest) := by
  have closes : Closes ('\x7d' :: rest) := closes_cons (.inr (.inr rfl)) rest
  obtain ⟨body, left, text, string, behind, value, skips⟩ := stands.begins blank closes enough
  rw [text, members?]
  simp only [skipSpace_cons (show isSpace '"' = false by decide), string,
    Option.bind_eq_bind, Option.bind_some, skipSpace_cons (show isSpace ':' = false by decide),
    value, skips]
  rfl

/-- Behind the member and a comma the reading goes on. -/
theorem next (stands : StandsMember member read) (blank : ∀ sign ∈ gap, isSpace sign = true)
    (allowance : Nat) (rest : List Char) (others : List (Content × Tree)) (left : List Char)
    (enough : 2 * (memberText gap member).length ≤ allowance)
    (behind : members? allowance rest = some (others, left)) :
    members? (allowance + 1) (memberText gap member ++ ',' :: rest) =
      some (read :: others, left) := by
  have closes : Closes (',' :: rest) := closes_cons (.inl rfl) rest
  obtain ⟨body, inside, text, string, after, value, skips⟩ := stands.begins blank closes enough
  rw [text, members?]
  simp only [skipSpace_cons (show isSpace '"' = false by decide), string,
    Option.bind_eq_bind, Option.bind_some, skipSpace_cons (show isSpace ':' = false by decide),
    value, skips, skipSpace_cons (show isSpace ',' = false by decide), behind]
  rfl

end StandsMember

/-- An object is read as the trees that its members stand for. -/
theorem value?_object {members : List (String × List Char)} {trees : List (Content × Tree)}
    (stands : List.Forall₂ StandsMember members trees) {gap : List Char}
    (blank : ∀ sign ∈ gap, isSpace sign = true) (rest : List Char) (allowance : Nat)
    (enough : 2 * (objectText gap members).length ≤ allowance + 1) :
    value? (allowance + 1) (objectText gap members ++ rest) = some (.object trees, rest) := by
  unfold objectText at enough ⊢
  cases stands with
  | nil => rfl
  | @cons member read members trees head stands =>
    rw [List.length_append, List.length_cons] at enough
    have inside := sequence_intercalate (memberText gap) members? '\x7d' gap
      (members?_blanks blank) (.cons head stands) (List.cons_ne_nil _ _)
      (fun stands => stands.last blank) (fun stands => stands.next blank) rest allowance (by omega)
    -- The first member begins with a quote, so the brace does not close at once.
    obtain ⟨body, -, text⟩ := memberText_eq gap member
    obtain ⟨others, start⟩ :=
      intercalate_begins (',' :: gap) (memberText gap member) (members.map (memberText gap))
    have quote : (',' :: gap).intercalate ((member :: members).map (memberText gap)) ++
        '\x7d' :: rest = '"' :: (body ++ ':' :: (gap ++ member.2 ++ (others ++ '\x7d' :: rest))) := by
      rw [List.map_cons, start, List.append_assoc, text]
    have begins := skipSpace_cons (show isSpace '"' = false by decide)
      (body ++ ':' :: (gap ++ member.2 ++ (others ++ '\x7d' :: rest)))
    rw [List.append_assoc, List.cons_append, List.singleton_append, quote,
      value?_brace allowance begins, ← quote, inside]
    rfl

/-- The member has a name that is text, and its written value is read as the tree. -/
structure ReadsMember (member : String × List Char) (read : Content × Tree) : Prop where
  name : read.1 = some member.1
  value : Reads member.2 read.2

/-- The text of such a member does not break the line. -/
theorem ReadsMember.unbroken {member : String × List Char} {read : Content × Tree}
    (reads : ReadsMember member read) : '\n' ∉ writeMember member.1 member.2 := by
  have name := writeString_unbroken member.1
  have value := reads.value.unbroken
  simp [writeMember, name, value]

/-- An object of members that are read back is read back. -/
theorem reads_object {members : List (String × List Char)} {trees : List (Content × Tree)}
    (reads : List.Forall₂ ReadsMember members trees) :
    Reads (writeObject members) (.object trees) := by
  have unbroken : ∀ text ∈ members.map fun member => writeMember member.1 member.2,
      '\n' ∉ text := by
    induction reads with
    | nil => exact nofun
    | cons head _ ih => exact List.forall_mem_cons.mpr ⟨head.unbroken, ih⟩
  refine ⟨enclosed_unbroken (by decide) (by decide) unbroken, ⟨_, _, rfl, rfl, by decide⟩, ?_⟩
  intro rest allowance closes enough
  rw [writeObject_eq] at enough ⊢
  exact value?_object (reads.imp fun _ _ read => ⟨read.name, read.value.stands⟩) (List.forall_mem_nil _)
    rest allowance enough

/-! ## Documents -/

/-- A text that is read as a tree is a document of this tree. -/
theorem Reads.read? {written : List Char} {tree : Tree} (reads : Reads written tree) :
    read? (String.ofList written) = some tree := by
  have value : value? (2 * written.length + 2) written = some (tree, []) := by
    have whole := reads.value_of_le (nofun : Closes []) (Nat.le_add_right _ 2)
    rwa [List.append_nil] at whole
  rw [Json.read?, String.toList_ofList]
  simp only [value, Option.bind_eq_bind, Option.bind_some]
  rfl

/-- An object with gaps is a document of the trees that its members stand for. -/
theorem read?_object {members : List (String × List Char)} {trees : List (Content × Tree)}
    (stands : List.Forall₂ StandsMember members trees) {gap : List Char}
    (blank : ∀ sign ∈ gap, isSpace sign = true) :
    read? (String.ofList (objectText gap members)) = some (.object trees) := by
  have value := value?_object stands blank [] (2 * (objectText gap members).length + 1) (by omega)
  rw [List.append_nil] at value
  rw [Json.read?, String.toList_ofList]
  simp only [value, Option.bind_eq_bind, Option.bind_some]
  rfl

end DatasetPicker.Json
