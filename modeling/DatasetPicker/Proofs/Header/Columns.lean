import DatasetPicker.Header.View
import DatasetPicker.Proofs.Terminal.Measure

/-!
# Columns of the first line

The layout and the cursor are found by measuring texts, and the line is then printed character by
character. On a screen with room for the measured line the selector is printed where the layout has
it just when the title takes its measure, and the cursor stands behind the printed text just when
the title and the text together do.
-/

namespace DatasetPicker.View

open Screen (Line Span)
open Terminal (printed printable columns printableColumns)

variable (header : Header) (palette : Palette)

/-! ## Measures -/

/-- What stands around the title takes 13 columns, measured and printed. -/
theorem columns_around_title (refreshing : Bool) :
    let mark := if refreshing then "↻ " else "◆ "
    Text.columns mark + Text.columns " │ " + Text.columns "dataset " = 13 ∧
      printableColumns mark + printableColumns " │ " + printableColumns "dataset " = 13 := by
  cases refreshing <;> decide +kernel

/-- The columns that are measured before the selector. -/
theorem width_beforeSelector :
    (beforeSelector header palette).width = Text.columns header.branding.title + 13 := by
  obtain ⟨around, -⟩ := columns_around_title header.refreshing
  simp only [beforeSelector, logo, lead, dimmed, List.cons_append, List.nil_append,
    Terminal.width_cons]
  have none : Line.width [] = 0 := rfl
  omega

/-- The columns that are printable before the selector. -/
theorem columns_beforeSelector :
    columns (printable (beforeSelector header palette)) =
      printableColumns header.branding.title + 13 := by
  obtain ⟨-, around⟩ := columns_around_title header.refreshing
  simp only [beforeSelector, logo, lead, dimmed, List.cons_append, List.nil_append,
    Terminal.columns_printable_cons]
  have none : columns (printable []) = 0 := rfl
  omega

/-- The selector is padded to its least width. -/
theorem selectorColumns_le (session : Selector.Session) :
    selectorColumns ≤ (selector session palette).width := by
  have padded (used : Nat) : selectorColumns ≤ used + (padding used).width := by
    unfold padding
    split
    · have blanks := Terminal.columns_blanks (selectorColumns - used)
      change _ ≤ used + (Text.columns (Screen.blanks _) + 0)
      omega
    · omega
  rw [selector, Terminal.width_append]
  exact padded _

/-! ## Agreement -/

/-- The first line, taken apart. -/
theorem width_topLine : (topLine header palette).width =
    selectorStart header palette + (selector header.session palette).width +
      (links header.branding.links).width := by
  rw [topLine, Terminal.width_append, Terminal.width_append]
  rfl

variable {header palette} {room : Nat}

/-- What is printed before the selector ends where the layout has it begin, just when the title is
printed in the columns that it was measured with. -/
theorem printed_start_iff (fits : (topLine header palette).width ≤ room)
    (narrow : (topLine header palette).width < Screen.greatestColumn) :
    columns (printed room (beforeSelector header palette)) =
        (layoutOf header palette).selector.start ↔
      Text.columns header.branding.title = printableColumns header.branding.title := by
  have start : (layoutOf header palette).selector.start = min (selectorStart header palette) 65535 :=
    rfl
  have measured : selectorStart header palette = Text.columns header.branding.title + 13 :=
    width_beforeSelector header palette
  have least : 24 ≤ (selector header.session palette).width := selectorColumns_le _ _
  have printable := columns_beforeSelector header palette
  have whole := width_topLine header palette
  have limit : Screen.greatestColumn = 65535 := rfl
  rw [start]
  obtain same | ⟨short, almost⟩ :=
    Terminal.columns_printed_full room (beforeSelector header palette)
  · omega
  · -- The selector is wider than what can stay free, so its start is not reached by being cut off.
    omega

/-- The first line up to the end of the text in the input. -/
def throughText (header : Header) (palette : Palette) : Line :=
  beforeSelector header palette ++ [plain header.session.context.value]

/-- While a name is edited, the first line goes on behind the text in the input. -/
theorem topLine_editing (palette : Palette) (editing : header.session.mode.isEditing = true) :
    ∃ rest, topLine header palette = throughText header palette ++ rest := by
  simp only [topLine, selector, choice, if_pos editing, input, throughText]
  exact ⟨_, by simp only [List.append_assoc, List.cons_append, List.nil_append]; rfl⟩

/-- The cursor is shown while the input has the focus, behind the measured text. -/
theorem cursor_shown {place : Screen.Place} (shown : cursor header palette = some place) :
    header.session.mode.isEditing = true ∧
      place.column = Screen.columnAt
        (selectorStart header palette + Text.columns header.session.context.value) := by
  unfold cursor at shown
  split at shown
  · rename_i focused
    cases shown
    refine ⟨?_, rfl⟩
    cases mode : header.session.mode with
    | reading =>
      rw [mode] at focused
      contradiction
    | editing input results => rfl
  · contradiction

/-- What is printed through the text in the input is all of it and ends where the cursor stands,
just when the title and the text together are printed in the columns that they were measured
with. -/
theorem printed_cursor_iff (fits : (topLine header palette).width ≤ room)
    (narrow : (topLine header palette).width < Screen.greatestColumn) {place : Screen.Place}
    (shown : cursor header palette = some place) :
    columns (printable (throughText header palette)) ≤ room ∧
        columns (printed room (throughText header palette)) = place.column ↔
      Text.columns header.branding.title + Text.columns header.session.context.value =
        printableColumns header.branding.title +
          printableColumns header.session.context.value := by
  obtain ⟨editing, column⟩ := cursor_shown shown
  obtain ⟨rest, line⟩ := topLine_editing palette editing
  have measured : selectorStart header palette = Text.columns header.branding.title + 13 :=
    width_beforeSelector header palette
  have through : (topLine header palette).width = selectorStart header palette +
      Text.columns header.session.context.value + Line.width rest := by
    rw [line, throughText, Terminal.width_append, Terminal.width_append]
    rfl
  have printable : columns (printable (throughText header palette)) =
      printableColumns header.branding.title + 13 +
        printableColumns header.session.context.value := by
    rw [throughText, Terminal.printable_append, Terminal.columns_append, columns_beforeSelector,
      Terminal.columns_printable_cons]
    rfl
  have limit : Screen.greatestColumn = 65535 := rfl
  have inside := Terminal.columns_printed room (throughText header palette)
  rw [column, Screen.columnAt]
  obtain same | short := Terminal.columns_printed_full room (throughText header palette)
  · omega
  · omega

/-- On a screen with room for the first line, the columns agree when the title and the text are
plain. -/
theorem columns_agree_of_plain (header : Header) (palette : Palette) (room : Nat)
    (fits : (topLine header palette).width ≤ room)
    (narrow : (topLine header palette).width < Screen.greatestColumn)
    (title : ∀ char ∈ header.branding.title.toList, Terminal.isPlain char = true)
    (text : ∀ char ∈ header.session.context.value.toList, Terminal.isPlain char = true) :
    columns (printed room (beforeSelector header palette)) =
        (layoutOf header palette).selector.start ∧
      ∀ place, cursor header palette = some place →
        columns (printed room (throughText header palette)) = place.column := by
  have same := Terminal.columns_plain _ title
  refine ⟨(printed_start_iff fits narrow).mpr same, ?_⟩
  intro place shown
  refine ((printed_cursor_iff fits narrow shown).mpr ?_).2
  rw [same, Terminal.columns_plain _ text]

/-- On a screen with room for the first line, what is printed before the selector ends where the
layout has the selector begin, just when the title is printed in the columns that it was measured
with. While the input has the focus, its text is printed whole and up to the cursor, just when that
holds of the title and the text together. -/
theorem columns_agree_iff (header : Header) (palette : Palette) (room : Nat)
    (fits : (topLine header palette).width ≤ room)
    (narrow : (topLine header palette).width < Screen.greatestColumn) :
    let view := render header palette
    let line := topLine header palette
    let title := header.branding.title
    let text := header.session.context.value
    view.frame.lines.head? = some line ∧
      printed room (beforeSelector header palette) <+: printed room line ∧
      (columns (printed room (beforeSelector header palette)) = view.layout.selector.start ↔
        Text.columns title = printableColumns title) ∧
      ∀ place, view.frame.cursor = some place →
        printed room (throughText header palette) <+: printed room line ∧
        (columns (printable (throughText header palette)) ≤ room ∧
            columns (printed room (throughText header palette)) = place.column ↔
          Text.columns title + Text.columns text =
            printableColumns title + printableColumns text) := by
  intro view line title text
  have apart : line = beforeSelector header palette ++
      (selector header.session palette ++ links header.branding.links) := List.append_assoc _ _ _
  refine ⟨rfl, ?_, printed_start_iff fits narrow, ?_⟩
  · rw [apart]
    exact Terminal.printed_prefix_append room _ _
  · intro place shown
    obtain ⟨rest, through⟩ := topLine_editing palette (cursor_shown shown).1
    have further : line = throughText header palette ++ rest := through
    refine ⟨?_, printed_cursor_iff fits narrow shown⟩
    rw [further]
    exact Terminal.printed_prefix_append room _ _

/-- With a wide title and an accent in the text the columns agree. -/
theorem columns_agree_iff_wide :
    let branding : Branding := { title := "日本", links := [] }
    let opened := (Header.start branding "é" ["é"] { kind := .channel } .first).header
    let header := (opened.dispatch .edit .first).header
    let view := render header {}
    (topLine header {}).width ≤ 80 ∧ (topLine header {}).width < Screen.greatestColumn ∧
      columns (printed 80 (beforeSelector header {})) = view.layout.selector.start ∧
      ∃ place, view.frame.cursor = some place ∧
        columns (printed 80 (throughText header {})) = place.column := by
  intro branding opened header view
  have width : (topLine header {}).width ≤ 80 := by decide +kernel
  have narrow : (topLine header {}).width < Screen.greatestColumn := by decide +kernel
  have agree := columns_agree_iff header {} 80 width narrow
  have shown : view.frame.cursor = some ⟨18, 0⟩ := by decide +kernel
  exact ⟨width, narrow, agree.2.2.1.mpr (by decide +kernel), _, shown,
    ((agree.2.2.2 _ shown).2.mpr (by decide +kernel)).2⟩

/-- A line break in the title is measured as a column but not printed, so the selector is printed
left of where the layout has it, and the cursor stands a column behind the text. -/
theorem columns_differ :
    let branding : Branding := { title := "a\nb", links := [] }
    let opened := (Header.start branding "alpha" ["alpha"] { kind := .channel } .first).header
    let header := (opened.dispatch .edit .first).header
    let view := render header {}
    (topLine header {}).width ≤ 80 ∧ (topLine header {}).width < Screen.greatestColumn ∧
      columns (printed 80 (beforeSelector header {})) = 15 ∧ view.layout.selector.start = 16 ∧
      columns (printed 80 (throughText header {})) = 20 ∧ view.frame.cursor = some ⟨21, 0⟩ := by
  decide +kernel

end DatasetPicker.View
