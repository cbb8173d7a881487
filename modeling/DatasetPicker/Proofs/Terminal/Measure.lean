import DatasetPicker.Proofs.Terminal.Clip

/-!
# Measured and printed columns

A line is laid out by the columns of its texts, where characters can merge and controls count, and
it is printed character by character, where each counts by itself and line breaks are dropped.
Texts of plain characters take the same columns either way.
-/

namespace DatasetPicker.Terminal

open Screen (Line Span)

/-- The columns of the printable characters of a text, each by itself. -/
def printableColumns (text : String) : Nat := columns (text.toList.filter isPrintable)

/-- A character that takes its own columns wherever it stands. -/
def isPlain (char : Char) : Bool :=
  (0x20 ≤ char.toNat && char.toNat < 0x7F) ||
    (0xA0 < char.toNat && char.toNat != 0xFE0E && char.toNat != 0xFE0F &&
      Text.Width.beginningOf char == .ordinary)

/-- In front of a text that does not reach back, a plain character adds its own columns and does not
reach back either. -/
theorem add_plain (char : Char) (plain : isPlain char = true) :
    Text.Width.add char .ordinary = ((Text.charColumns char : Int), .ordinary) := by
  simp only [isPlain, Bool.or_eq_true, Bool.and_eq_true, decide_eq_true_eq, bne_iff_ne,
    beq_iff_eq] at plain
  obtain ⟨least, below⟩ | ⟨⟨⟨beyond, text⟩, emoji⟩, ordinary⟩ := plain
  · have one : Text.charColumns char = 1 := by
      simp only [Text.charColumns, Text.Width.charColumns]
      rw [if_neg (by omega), if_pos below]
    have letter : char.toNat ≤ 0xA0 := by omega
    have feed : char ≠ '\n' := by
      rintro rfl
      contradiction
    simp [Text.Width.add, Text.Width.Context.ordinary, letter, feed, one]
  · have visible : ¬ char.toNat ≤ 0xA0 := by omega
    have same : Text.Width.add char .ordinary = Text.Width.alone char := by
      simp [Text.Width.add, Text.Width.addVisible, Text.Width.Context.ordinary, visible]
    rw [same]
    simp [Text.Width.alone, Text.Width.Context.of, Text.Width.Context.ordinary, text, emoji, ordinary]

/-- A text of plain characters is measured as their columns together. -/
theorem measure_plain (chars : List Char) (plain : ∀ char ∈ chars, isPlain char = true) :
    Text.Width.measure chars = ((columns chars : Int), .ordinary) := by
  induction chars with
  | nil => rfl
  | cons char rest ih =>
    obtain ⟨first, others⟩ := List.forall_mem_cons.mp plain
    have sum : columns (char :: rest) = columns rest + Text.charColumns char := Nat.add_comm _ _
    simp only [Text.Width.measure, ih others, add_plain char first, sum, Int.natCast_add]

/-- A plain character may be printed. -/
theorem isPrintable_plain (char : Char) (plain : isPlain char = true) :
    isPrintable char = true := by
  simp only [isPrintable, Bool.and_eq_true, bne_iff_ne]
  constructor
  · rintro rfl
    contradiction
  · rintro rfl
    contradiction

/-- The measure of a text of plain characters is what it takes when it is printed. -/
theorem columns_plain (text : String) (plain : ∀ char ∈ text.toList, isPlain char = true) :
    Text.columns text = printableColumns text := by
  have whole : text.toList.filter isPrintable = text.toList :=
    List.filter_eq_self.mpr fun char among => isPrintable_plain char (plain char among)
  rw [Text.columns, measure_plain _ plain, printableColumns, whole]
  rfl

/-- Blanks take one column each. -/
theorem columns_blanks (count : Nat) : Text.columns (Screen.blanks count) = count := by
  have plain : ∀ char ∈ (Screen.blanks count).toList, isPlain char = true := by
    intro char among
    rw [Screen.blanks, String.toList_ofList] at among
    rw [List.eq_of_mem_replicate among]
    rfl
  rw [Text.columns, measure_plain _ plain, Screen.blanks, String.toList_ofList]
  change columns _ = count
  clear plain
  induction count with
  | zero => rfl
  | succ count ih =>
    rw [List.replicate_succ]
    change 1 + columns _ = _
    rw [ih, Nat.add_comm]

/-! ## Lines -/

/-- The width of a line is that of its spans. -/
theorem width_cons (span : Span) (rest : Line) :
    Line.width (span :: rest) = Text.columns span.text + Line.width rest := rfl

/-- The widths of lines one behind the other add up. -/
theorem width_append (before after : Line) :
    Line.width (before ++ after) = before.width + after.width := by
  induction before with
  | nil => exact (Nat.zero_add _).symm
  | cons span before ih =>
    rw [List.cons_append, width_cons, width_cons, ih, Nat.add_assoc]

/-- The columns of the printable characters of a line are those of its spans. -/
theorem columns_printable_cons (span : Span) (rest : Line) :
    columns (printable (span :: rest)) = printableColumns span.text + columns (printable rest) := by
  have text : printable (span :: rest) = printable [span] ++ printable rest :=
    printable_append [span] rest
  rw [text, columns_append, printable_singleton]
  rfl

/-- A character takes at most three columns. -/
theorem charColumns_le (char : Char) : Text.charColumns char ≤ 3 := by
  simp only [Text.charColumns, Text.Width.charColumns]
  repeat' split
  all_goals omega

variable (room : Nat)

/-- Either what is printed of a line takes the columns of all its printable characters, or there is
too little room for them and at most two columns of it stay free. -/
theorem columns_printed_full (line : Line) :
    columns (printed room line) = columns (printable line) ∨
      room < columns (printable line) ∧ room ≤ columns (printed room line) + 2 := by
  induction line generalizing room with
  | nil => exact .inl rfl
  | cons first rest ih =>
    have text : printable (first :: rest) = printable [first] ++ printable rest :=
      printable_append [first] rest
    have fits := columns_printed room [first]
    rw [printed_cons, text, columns_append, columns_append]
    obtain whole | ⟨cut, others, shape, full⟩ := printed_cut room first
    · rw [← whole]
      obtain same | ⟨short, almost⟩ := ih (room - columns (printed room [first]))
      · exact .inl (congrArg _ same)
      · exact .inr ⟨by omega, by omega⟩
    · have three := charColumns_le cut
      have behind := columns_printed (room - columns (printed room [first])) rest
      have sum : columns (printable [first]) =
          columns (printed room [first]) + (Text.charColumns cut + columns others) := by
        rw [shape, columns_append]
        rfl
      omega

end DatasetPicker.Terminal
