import DatasetPicker.Terminal.Display

/-!
# What is printed of a line

A line is printed span by span in the columns that are left. Each span is cut off at the first
character that does not fit, but the spans behind it are still tried. A wide character that is cut
off can leave a column free, and then a later span goes on in it. So what is printed is a prefix of
the line just when nothing is printed behind the first span that is cut.
-/

namespace DatasetPicker.Terminal

open Screen (Line Span)

/-- The characters of a command that prints. -/
def Draw.characters : Draw → List Char
  | .print text => text.toList
  | _ => []

/-- The characters that are printed of a line in some columns, in order. -/
def printed (room : Nat) (line : Line) : List Char := (lineDraws room line).flatMap Draw.characters

/-- The characters of a line that may be printed. -/
def printable (line : Line) : List Char := line.text.toList.filter isPrintable

/-! ## Characters that fit -/

/-- Columns add up. -/
theorem columns_append (first others : List Char) :
    columns (first ++ others) = columns first + columns others := by
  induction first with
  | nil => exact (Nat.zero_add _).symm
  | cons char rest ih =>
    change Text.charColumns char + columns (rest ++ others) = _
    rw [ih, ← Nat.add_assoc]
    rfl

/-- What fits takes no more columns than there are. -/
theorem columns_fitting (room : Nat) (chars : List Char) : columns (fitting room chars) ≤ room := by
  induction chars generalizing room with
  | nil => exact Nat.zero_le room
  | cons char rest ih =>
    simp only [fitting]
    split
    · rename_i fits
      have others := ih (room - Text.charColumns char)
      change Text.charColumns char + columns _ ≤ room
      omega
    · exact Nat.zero_le room

/-- Either all characters fit, or they are cut off at one that takes more columns than are left. -/
theorem fitting_cut (room : Nat) (chars : List Char) :
    fitting room chars = chars ∨ ∃ cut rest, chars = fitting room chars ++ cut :: rest ∧
      room - columns (fitting room chars) < Text.charColumns cut := by
  induction chars generalizing room with
  | nil => exact .inl rfl
  | cons char others ih =>
    simp only [fitting]
    split
    · obtain whole | ⟨cut, rest, shape, wide⟩ := ih (room - Text.charColumns char)
      · exact .inl (congrArg _ whole)
      · refine .inr ⟨cut, rest, congrArg _ shape, ?_⟩
        rwa [Nat.sub_sub] at wide
    · rename_i wide
      exact .inr ⟨char, others, rfl, Nat.lt_of_not_le wide⟩

/-! ## Spans -/

/-- Styles print nothing. -/
theorem styleDraws_characters (style : Screen.Style) :
    (styleDraws style).flatMap Draw.characters = [] := by
  obtain ⟨colour, bold, dim, underline⟩ := style
  cases colour <;> cases bold <;> cases dim <;> cases underline <;> rfl

/-- Without columns nothing is printed. -/
theorem printed_zero (line : Line) : printed 0 line = [] := by
  cases line <;> rfl

/-- In some columns a span prints its characters that fit, and then the others follow. -/
theorem printed_succ (room : Nat) (positive : 0 < room) (span : Span) (rest : Line) :
    printed room (span :: rest) =
      clip room span.text ++ printed (room - columns (clip room span.text)) rest := by
  have some : room ≠ 0 := Nat.ne_of_gt positive
  simp only [printed, lineDraws, if_neg some]
  split
  · rename_i empty
    rw [List.isEmpty_iff.mp empty]
    rfl
  · simp only [List.flatMap_append, styleDraws_characters, List.nil_append]
    change (String.ofList _).toList ++ [] ++ _ = _
    rw [String.toList_ofList, List.append_nil]

/-- The printable characters of lines one behind the other. -/
theorem printable_append (before after : Line) :
    printable (before ++ after) = printable before ++ printable after := by
  simp only [printable, Line.text, List.map_append, String.join_append, String.toList_append,
    List.filter_append]

/-- The printable characters of a span. -/
theorem printable_singleton (span : Span) :
    printable [span] = span.text.toList.filter isPrintable := by
  simp [printable, Line.text]

variable (room : Nat)

/-- A line is printed as its first span and then, in the columns that are left, the rest. -/
theorem printed_cons (span : Span) (rest : Line) :
    printed room (span :: rest) =
      printed room [span] ++ printed (room - columns (printed room [span])) rest := by
  cases Nat.eq_zero_or_pos room with
  | inl none =>
    subst none
    simp only [printed_zero, Nat.zero_sub, List.append_nil]
  | inr positive =>
    rw [printed_succ room positive, printed_succ room positive span []]
    change _ = (_ ++ []) ++ printed (room - columns (_ ++ [])) rest
    rw [List.append_nil]

/-- A line is printed as its first part and then, in the columns that are left, the rest. -/
theorem printed_append (before after : Line) :
    printed room (before ++ after) =
      printed room before ++ printed (room - columns (printed room before)) after := by
  induction before generalizing room with
  | nil => rfl
  | cons span before ih =>
    rw [List.cons_append, printed_cons, printed_cons room span before, ih, columns_append,
      Nat.sub_sub, List.append_assoc]

/-- What is printed of the first part of a line is printed first. -/
theorem printed_prefix_append (before after : Line) :
    printed room before <+: printed room (before ++ after) := by
  rw [printed_append room before after]
  exact List.prefix_append _ _

/-- No more columns are printed than there are. -/
theorem columns_printed (line : Line) : columns (printed room line) ≤ room := by
  induction line generalizing room with
  | nil => exact Nat.zero_le room
  | cons span rest ih =>
    cases Nat.eq_zero_or_pos room with
    | inl none =>
      rw [none, printed_zero]
      exact Nat.zero_le 0
    | inr positive =>
      have first : columns (clip room span.text) ≤ room := columns_fitting _ _
      have others := ih (room - columns (clip room span.text))
      rw [printed_succ room positive, columns_append]
      omega

/-- A span is printed whole, or it is cut off at a character for which there is no room. -/
theorem printed_cut (span : Span) :
    printed room [span] = printable [span] ∨
      ∃ cut rest, printable [span] = printed room [span] ++ cut :: rest ∧
        (room - columns (printed room [span]) < Text.charColumns cut ∨
          room - columns (printed room [span]) = 0) := by
  cases Nat.eq_zero_or_pos room with
  | inl none =>
    rw [none, printed_zero]
    cases shape : printable [span] with
    | nil => exact .inl rfl
    | cons cut rest => exact .inr ⟨cut, rest, rfl, .inr rfl⟩
  | inr positive =>
    have printed : printed room [span] = clip room span.text := by
      rw [printed_succ room positive]
      exact List.append_nil _
    rw [printed, printable_singleton]
    obtain fits | ⟨cut, rest, shape, wide⟩ :=
      fitting_cut room (span.text.toList.filter isPrintable)
    · exact .inl fits
    · exact .inr ⟨cut, rest, shape, .inl wide⟩

/-- Where there is no room for a character it is not printed next. -/
theorem printed_head_ne (line : Line) (cut : Char)
    (full : room < Text.charColumns cut ∨ room = 0) : (printed room line).head? ≠ some cut := by
  intro next
  obtain ⟨rest, shape⟩ : ∃ rest, printed room line = cut :: rest := List.head?_eq_some_iff.mp next
  obtain wide | none := full
  · have fits := columns_printed room line
    rw [shape] at fits
    change Text.charColumns cut + columns rest ≤ room at fits
    omega
  · rw [none, printed_zero] at shape
    contradiction

/-! ## Prefixes -/

/-- What goes on otherwise behind a prefix is no longer a prefix. -/
theorem append_prefix_iff {kept more rest : List Char} {cut : Char}
    (other : more.head? ≠ some cut) : kept ++ more <+: kept ++ cut :: rest ↔ more = [] := by
  rw [List.prefix_append_right_inj]
  constructor
  · intro within
    cases more with
    | nil => rfl
    | cons char more =>
      obtain ⟨same, -⟩ := List.cons_prefix_cons.mp within
      exact absurd (congrArg some same) other
  · rintro rfl
    exact List.nil_prefix

/-- Nothing is printed behind a span that is cut. -/
def CutEnds (room : Nat) (line : Line) : Prop :=
  ∀ before span after, line = before ++ span :: after →
    printed room (before ++ [span]) ≠ printed room before ++ printable [span] →
      printed room line = printed room (before ++ [span])

/-- A span that is printed whole leaves the question to the rest. -/
theorem cutEnds_cons_whole {first : Span} (whole : printed room [first] = printable [first])
    (rest : Line) : CutEnds room (first :: rest) ↔
      CutEnds (room - columns (printed room [first])) rest := by
  have onward := printed_cons room first
  generalize room - columns (printed room [first]) = left at onward ⊢
  generalize printed room [first] = kept at onward whole
  constructor
  · intro ends before span after split cut
    have behind := ends (first :: before) span after (congrArg _ split)
    simp only [List.cons_append, onward, List.append_assoc, ne_eq,
      List.append_cancel_left_eq] at behind
    exact behind cut
  · intro ends before span after split cut
    cases before with
    | nil =>
      obtain ⟨rfl, rfl⟩ := List.cons.inj split
      refine absurd ?_ cut
      rw [List.nil_append, onward, whole]
      exact List.append_nil _
    | cons head before =>
      rw [List.cons_append, List.cons.injEq] at split
      obtain ⟨rfl, behind⟩ := split
      simp only [List.cons_append, onward, List.append_assoc, ne_eq,
        List.append_cancel_left_eq] at cut ⊢
      exact ends before span after behind cut

/-- Behind a span that is cut, nothing may be printed of the rest. -/
theorem cutEnds_cons_cut {first : Span} (cut : printed room [first] ≠ printable [first])
    (rest : Line) : CutEnds room (first :: rest) ↔
      printed (room - columns (printed room [first])) rest = [] := by
  constructor
  · intro ends
    have nothing := ends [] first rest rfl cut
    rw [List.nil_append, printed_cons] at nothing
    exact List.append_right_eq_self.mp nothing
  · intro none before span after split _
    have alone : printed room (first :: rest) = printed room [first] := by
      rw [printed_cons, none, List.append_nil]
    have within : printed room [first] <+: printed room (before ++ [span]) := by
      cases before with
      | nil =>
        obtain ⟨rfl, rfl⟩ := List.cons.inj split
        exact List.prefix_rfl
      | cons head before =>
        rw [List.cons_append, List.cons.injEq] at split
        rw [split.1]
        exact printed_prefix_append room [head] (before ++ [span])
    have whole : printed room (before ++ [span]) <+: printed room (first :: rest) := by
      rw [split, List.append_cons before span after]
      exact printed_prefix_append room (before ++ [span]) after
    rw [alone] at whole ⊢
    exact within.eq_of_length (Nat.le_antisymm within.length_le whole.length_le)

/-- What is printed of a line is a prefix of its printable characters just when nothing is printed
behind a span that is cut. -/
theorem printed_prefix_iff (line : Line) :
    printed room line <+: printable line ↔ CutEnds room line := by
  induction line generalizing room with
  | nil =>
    refine iff_of_true List.prefix_rfl ?_
    intro before span after shape
    cases before <;> contradiction
  | cons first rest ih =>
    have text : printable (first :: rest) = printable [first] ++ printable rest :=
      printable_append [first] rest
    rw [printed_cons, text]
    obtain whole | ⟨cut, others, shape, full⟩ := printed_cut room first
    · rw [cutEnds_cons_whole room whole, ← ih, ← whole, List.prefix_append_right_inj]
    · have partly : printed room [first] ≠ printable [first] := by simp [shape]
      rw [cutEnds_cons_cut room partly, shape, List.append_assoc, List.cons_append,
        append_prefix_iff (printed_head_ne _ rest cut full)]

/-- A line of characters that take one column at most is cut off at the edge only, so what is
printed of it is a prefix. -/
theorem printed_prefix_of_narrow (line : Line)
    (narrow : ∀ char ∈ printable line, Text.charColumns char ≤ 1) :
    printed room line <+: printable line := by
  refine (printed_prefix_iff room line).mpr ?_
  rintro before span after rfl partly
  rw [printed_append] at partly
  rw [List.append_cons, printed_append room (before ++ [span]), printed_append room before [span],
    columns_append, ← Nat.sub_sub]
  obtain whole | ⟨cut, rest, shape, full⟩ :=
    printed_cut (room - columns (printed room before)) span
  · exact absurd (congrArg _ whole) partly
  · have among : cut ∈ printable (before ++ span :: after) := by
      rw [List.append_cons, printable_append, printable_append, shape]
      simp
    have one := narrow cut among
    have edge : room - columns (printed room before) -
        columns (printed (room - columns (printed room before)) [span]) = 0 := by omega
    rw [edge, printed_zero, List.append_nil]

/-- Of each span a prefix of its printable characters is printed, all within the columns that there
are. Together that is a prefix of the line just when nothing is printed behind a span that is cut,
as is always so for characters that take one column at most. -/
theorem printed_spans (line : Line) :
    columns (printed room line) ≤ room ∧
      (∀ before span after, line = before ++ span :: after → ∃ part, part <+: printable [span] ∧
        printed room (before ++ [span]) = printed room before ++ part) ∧
      (printed room line <+: printable line ↔ CutEnds room line) ∧
      ((∀ char ∈ printable line, Text.charColumns char ≤ 1) →
        printed room line <+: printable line) := by
  refine ⟨columns_printed room line, ?_, printed_prefix_iff room line,
    printed_prefix_of_narrow room line⟩
  rintro before span after -
  refine ⟨_, ?_, printed_append room before [span]⟩
  obtain whole | ⟨cut, rest, shape, -⟩ :=
    printed_cut (room - columns (printed room before)) span
  · exact whole ▸ List.prefix_refl _
  · rw [shape]
    exact List.prefix_append _ _

/-- On three columns a wide character is cut off and leaves one of them free. The letter of the span
behind it is printed there, so what is printed is not a prefix of the line. -/
theorem printed_behind_wide :
    let line : Line := [{ text := "ab日" }, { text := "c" }]
    printable line = ['a', 'b', '日', 'c'] ∧ printed 3 line = ['a', 'b', 'c'] ∧
      ¬ printed 3 line <+: printable line := by
  decide +kernel

end DatasetPicker.Terminal
