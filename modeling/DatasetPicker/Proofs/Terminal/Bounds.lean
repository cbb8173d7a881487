import DatasetPicker.Proofs.Terminal.Clip

/-!
# Drawing within the screen

The commands of an update are followed from one to the next: where the next character goes, what was
printed where, and whether the cursor is shown. Each row of the screen gets what is printed of one
line of the frame, from the first column on. So whatever a frame holds, nothing is printed outside
the screen, and the cursor is not shown there.
-/

namespace DatasetPicker.Terminal

open Screen (Frame Line Place)

/-- A character, and the place where it begins. -/
structure Mark where
  place : Place
  char : Char
  deriving DecidableEq, Repr

/-- Characters one behind the other, from a place on. -/
def marksFrom (place : Place) : List Char → List Mark
  | [] => []
  | char :: rest =>
    ⟨place, char⟩ :: marksFrom { place with column := place.column + Text.charColumns char } rest

/-- The characters on a row, in the order in which they were printed. -/
def charsOn (row : Nat) (marks : List Mark) : List Char :=
  (marks.filter (·.place.row = row)).map Mark.char

/-- What commands have done to a screen. -/
structure Drawing where
  /-- Everything that was printed, erased since then or not. -/
  marks : List Mark := []
  /-- Where the next character goes, and where the cursor is. -/
  pen : Place
  cursorShown : Bool
  deriving DecidableEq, Repr

namespace Drawing

/-- The drawing after characters were printed. -/
def written (drawing : Drawing) (chars : List Char) : Drawing :=
  { drawing with
    marks := drawing.marks ++ marksFrom drawing.pen chars
    pen := { drawing.pen with column := drawing.pen.column + columns chars } }

/-- The drawing after a command. Most commands print nothing and leave the cursor where it is. -/
def take (drawing : Drawing) : Draw → Drawing
  | .print text => drawing.written text.toList
  | .moveTo column row => { drawing with pen := ⟨column, row⟩ }
  | .newLine => { drawing with pen := ⟨0, drawing.pen.row + 1⟩ }
  | .hideCursor => { drawing with cursorShown := false }
  | .showCursor => { drawing with cursorShown := true }
  | _ => drawing

/-- The drawing after commands in order. -/
def follow (drawing : Drawing) (draws : List Draw) : Drawing := draws.foldl take drawing

/-- Commands one behind the other. -/
theorem follow_append (drawing : Drawing) (first others : List Draw) :
    drawing.follow (first ++ others) = (drawing.follow first).follow others :=
  List.foldl_append

end Drawing

/-! ## Characters in a row -/

/-- Characters go on where those before them end. -/
theorem marksFrom_append (place : Place) (first others : List Char) :
    marksFrom place (first ++ others) =
      marksFrom place first ++
        marksFrom { place with column := place.column + columns first } others := by
  induction first generalizing place with
  | nil => rfl
  | cons char rest ih =>
    have sum : columns (char :: rest) = Text.charColumns char + columns rest := rfl
    rw [List.cons_append, marksFrom, marksFrom, ih, sum, ← Nat.add_assoc]
    rfl

/-- Characters stay on the row where they begin, and end where their columns do. -/
theorem mem_marksFrom (place : Place) (chars : List Char) {mark : Mark}
    (among : mark ∈ marksFrom place chars) :
    mark.place.row = place.row ∧ mark.char ∈ chars ∧
      mark.place.column + Text.charColumns mark.char ≤ place.column + columns chars := by
  induction chars generalizing place with
  | nil => contradiction
  | cons char rest ih =>
    have sum : columns (char :: rest) = Text.charColumns char + columns rest := rfl
    rw [sum, ← Nat.add_assoc]
    obtain rfl | later := List.mem_cons.mp among
    · exact ⟨rfl, List.mem_cons_self, Nat.le_add_right _ _⟩
    · obtain ⟨row, listed, column⟩ := ih _ later
      exact ⟨row, List.mem_cons_of_mem _ listed, column⟩

/-- What is on a row of two lists of marks. -/
theorem charsOn_append (row : Nat) (first others : List Mark) :
    charsOn row (first ++ others) = charsOn row first ++ charsOn row others := by
  simp only [charsOn, List.filter_append, List.map_append]

/-- Characters are on their own row. -/
theorem charsOn_marksFrom (place : Place) (chars : List Char) :
    charsOn place.row (marksFrom place chars) = chars := by
  have same : (marksFrom place chars).filter (·.place.row = place.row) = marksFrom place chars :=
    List.filter_eq_self.mpr fun mark among => decide_eq_true (mem_marksFrom place chars among).1
  rw [charsOn, same]
  clear same
  induction chars generalizing place with
  | nil => rfl
  | cons char rest ih => exact congrArg (char :: ·) (ih _)

/-- Characters are on no other row. -/
theorem charsOn_marksFrom_other (place : Place) (chars : List Char) {row : Nat}
    (other : row ≠ place.row) : charsOn row (marksFrom place chars) = [] := by
  have none_there : (marksFrom place chars).filter (·.place.row = row) = [] := by
    apply List.filter_eq_nil_iff.mpr
    intro mark among
    rw [(mem_marksFrom place chars among).1]
    simpa using other.symm
  rw [charsOn, none_there]
  rfl

/-- What fits is the beginning of the characters. -/
theorem fitting_begins (room : Nat) (chars : List Char) : fitting room chars <+: chars := by
  obtain whole | ⟨cut, rest, shape, -⟩ := fitting_cut room chars
  · exact ⟨[], by rw [whole, List.append_nil]⟩
  · exact ⟨cut :: rest, shape.symm⟩

/-- No line break is printed. -/
theorem isPrintable_of_printed (room : Nat) (line : Line) {char : Char}
    (among : char ∈ printed room line) : isPrintable char = true := by
  induction line generalizing room with
  | nil => contradiction
  | cons span rest ih =>
    cases Nat.eq_zero_or_pos room with
    | inl none =>
      rw [none, printed_zero] at among
      contradiction
    | inr positive =>
      rw [printed_succ room positive, List.mem_append] at among
      obtain here | later := among
      · exact (List.mem_filter.mp ((fitting_begins room _).subset here)).2
      · exact ih _ later

/-! ## Following a line -/

namespace Drawing

/-- Printing nothing changes nothing. -/
theorem written_nil (drawing : Drawing) : drawing.written [] = drawing := by
  simp only [written, marksFrom, List.append_nil]
  rfl

/-- Printing goes on where it ended. -/
theorem written_append (drawing : Drawing) (first others : List Char) :
    (drawing.written first).written others = drawing.written (first ++ others) := by
  simp only [written, marksFrom_append, columns_append, List.append_assoc, Nat.add_assoc]

/-- Styles print nothing and move nothing. -/
theorem follow_styleDraws (drawing : Drawing) (style : Screen.Style) :
    drawing.follow (styleDraws style) = drawing := by
  obtain ⟨colour, bold, dim, underline⟩ := style
  cases colour <;> cases bold <;> cases dim <;> cases underline <;> rfl

/-- Drawing a line prints what is printed of it from the pen on. -/
theorem follow_lineDraws (drawing : Drawing) (room : Nat) (line : Line) :
    drawing.follow (lineDraws room line) = drawing.written (printed room line) := by
  induction line generalizing drawing room with
  | nil => exact (written_nil drawing).symm
  | cons span rest ih =>
    cases Nat.eq_zero_or_pos room with
    | inl none =>
      rw [none, printed_zero, written_nil]
      rfl
    | inr positive =>
      have some : room ≠ 0 := Nat.ne_of_gt positive
      rw [printed_succ room positive]
      simp only [lineDraws, if_neg some]
      split
      · rename_i empty
        rw [List.isEmpty_iff.mp empty, ih]
        rfl
      · rw [follow_append, follow_append, follow_styleDraws, ih]
        change ((drawing.written (String.ofList _).toList).take .plain).written _ = _
        rw [String.toList_ofList, ← written_append]
        rfl

end Drawing

/-! ## Following an update -/

/-- The marks of lines on the rows from one on: what is printed of each, from the first column. -/
def rowsMarks (width row : Nat) : List Line → List Mark
  | [] => []
  | line :: rest => marksFrom ⟨0, row⟩ (printed width line) ++ rowsMarks width (row + 1) rest

/-- Without columns no line leaves marks. -/
theorem rowsMarks_zero (row : Nat) (lines : List Line) : rowsMarks 0 row lines = [] := by
  induction lines generalizing row with
  | nil => rfl
  | cons line rest ih =>
    rw [rowsMarks, printed_zero, ih]
    rfl

/-- The marks of lines lie within the width and on as many rows as there are lines. -/
theorem mem_rowsMarks (width first : Nat) (lines : List Line) {mark : Mark}
    (among : mark ∈ rowsMarks width first lines) :
    mark.place.row < first + lines.length ∧
      mark.place.column + Text.charColumns mark.char ≤ width ∧ isPrintable mark.char = true := by
  induction lines generalizing first with
  | nil => contradiction
  | cons line rest ih =>
    obtain here | below := List.mem_append.mp among
    · obtain ⟨row, listed, column⟩ := mem_marksFrom ⟨0, first⟩ _ here
      rw [Nat.zero_add] at column
      have last : first < first + (line :: rest).length := Nat.lt_add_of_pos_right (Nat.succ_pos _)
      exact ⟨row ▸ last, Nat.le_trans column (columns_printed width line),
        isPrintable_of_printed width line listed⟩
    · obtain ⟨row, inside⟩ := ih (first + 1) below
      rw [List.length_cons]
      exact ⟨by omega, inside⟩

/-- On each row there is what is printed of its line. -/
theorem charsOn_rowsMarks (width first row : Nat) (lines : List Line) :
    charsOn row (rowsMarks width first lines) =
      if first ≤ row then printed width ((lines[row - first]?).getD []) else [] := by
  induction lines generalizing first with
  | nil => simp [rowsMarks, charsOn, printed, lineDraws]
  | cons line rest ih =>
    rw [rowsMarks, charsOn_append, ih]
    by_cases here : row = first
    · subst here
      rw [charsOn_marksFrom ⟨0, row⟩, if_neg (Nat.not_succ_le_self row), if_pos (Nat.le_refl row),
        Nat.sub_self, List.append_nil]
      rfl
    · rw [charsOn_marksFrom_other ⟨0, first⟩ _ here, List.nil_append]
      by_cases below : first ≤ row
      · have next : row - first = row - (first + 1) + 1 := by omega
        rw [if_pos (by omega), if_pos below, next]
        rfl
      · rw [if_neg (by omega), if_neg below]

/-- An update on a screen without rows or columns does nothing. -/
theorem Display.render_invisible (display : Display) (frame : Frame)
    (invisible : display.size.height = 0 ∨ display.size.width = 0) :
    display.render frame = (display, []) := if_pos invisible

namespace Drawing

/-- Drawing lines on rows prints their marks, and leaves the cursor hidden or shown. -/
theorem follow_rowsDraws (drawing : Drawing) (width row : Nat) (lines : List Line) :
    (drawing.follow (rowsDraws width row lines)).marks =
        drawing.marks ++ rowsMarks width row lines ∧
      (drawing.follow (rowsDraws width row lines)).cursorShown = drawing.cursorShown := by
  induction lines generalizing drawing row with
  | nil => exact ⟨(List.append_nil _).symm, rfl⟩
  | cons line rest ih =>
    have first : drawing.follow (rowsDraws width row (line :: rest)) =
        (({ drawing with pen := ⟨0, row⟩ } : Drawing).written (printed width line)).follow
          (rowsDraws width (row + 1) rest) := by
      rw [← follow_lineDraws, ← follow_append]
      rfl
    obtain ⟨marks, shown⟩ := ih (({ drawing with pen := ⟨0, row⟩ } : Drawing).written
      (printed width line)) (row + 1)
    rw [first]
    exact ⟨marks.trans (List.append_assoc _ _ _), shown⟩

/-- Showing the cursor prints nothing. -/
theorem follow_cursorDraws_marks (drawing : Drawing) (size : Size) (cursor : Option Place) :
    (drawing.follow (cursorDraws size cursor)).marks = drawing.marks := by
  unfold cursorDraws
  split
  · split <;> rfl
  · rfl

/-- A hidden cursor is shown just when its row is on the screen, and then in a column of it. -/
theorem follow_cursorDraws (drawing : Drawing) (size : Size) (cursor : Option Place)
    (hidden : drawing.cursorShown = false) (positive : 0 < size.width) :
    let after := drawing.follow (cursorDraws size cursor)
    (after.cursorShown = true ↔ ∃ place, cursor = some place ∧ place.row < size.height) ∧
      (after.cursorShown = true → after.pen.row < size.height ∧ after.pen.column < size.width) := by
  cases cursor with
  | none =>
    change (drawing.cursorShown = true ↔ _) ∧ (drawing.cursorShown = true → _)
    simp [hidden]
  | some place =>
    by_cases inside : place.row < size.height
    · have last : min place.column (size.width - 1) < size.width := by omega
      rw [cursorDraws, if_pos inside]
      exact ⟨iff_of_true rfl ⟨place, rfl, inside⟩, fun _ => ⟨inside, last⟩⟩
    · rw [cursorDraws, if_neg inside]
      change (drawing.cursorShown = true ↔ _) ∧ (drawing.cursorShown = true → _)
      simp [hidden, inside]

/-- An update on a screen with rows and columns hides the cursor, draws the lines that there are
rows for, and then shows the cursor. -/
theorem follow_render (drawing : Drawing) (display : Display) (frame : Frame)
    (visible : ¬ (display.size.height = 0 ∨ display.size.width = 0)) :
    drawing.follow (display.render frame).2 =
      (({ drawing with pen := ⟨0, 0⟩, cursorShown := false } : Drawing).follow
        (rowsDraws display.size.width 0 (frame.lines.take display.size.height))).follow
          (cursorDraws display.size frame.cursor) := by
  simp only [Display.render, if_neg visible, follow_append]
  rfl

/-- An update prints the marks of the lines that there are rows for. -/
theorem follow_render_marks (drawing : Drawing) (display : Display) (frame : Frame) :
    (drawing.follow (display.render frame).2).marks =
      drawing.marks ++ rowsMarks display.size.width 0 (frame.lines.take display.size.height) := by
  by_cases invisible : display.size.height = 0 ∨ display.size.width = 0
  · have nothing : rowsMarks display.size.width 0 (frame.lines.take display.size.height) = [] := by
      obtain none | none := invisible
      · rw [none]
        rfl
      · rw [none, rowsMarks_zero]
    rw [Display.render_invisible display frame invisible, nothing, List.append_nil]
    rfl
  · rw [follow_render drawing display frame invisible, follow_cursorDraws_marks]
    exact (follow_rowsDraws _ _ _ _).1

end Drawing

/-- Whatever a frame holds and whatever the size of the screen, an update prints within the screen
only: each character on a row of the screen and in columns of it, and no line break. What is printed
on a row takes no more columns than there are, and it is what is printed of the line for that row.
The cursor is shown afterwards just when its row is one of the screen, and it stands on the screen.
Without rows or columns nothing is printed, and the last frame is kept. -/
theorem render_inside (display : Display) (frame : Frame) (pen : Place) (shown : Bool) :
    let size := display.size
    let update := display.render frame
    let drawing := Drawing.follow { pen, cursorShown := shown } update.2
    (∀ mark ∈ drawing.marks, mark.place.row < size.height ∧
        mark.place.column + Text.charColumns mark.char ≤ size.width ∧
        mark.char ≠ '\n' ∧ mark.char ≠ '\r') ∧
      (∀ row, columns (charsOn row drawing.marks) ≤ size.width ∧
        (row < size.height →
          charsOn row drawing.marks = printed size.width ((frame.lines[row]?).getD []))) ∧
      (0 < size.height → 0 < size.width →
        (drawing.cursorShown = true ↔
            ∃ place, frame.cursor = some place ∧ place.row < size.height) ∧
          (drawing.cursorShown = true →
            drawing.pen.row < size.height ∧ drawing.pen.column < size.width)) ∧
      (size.height = 0 ∨ size.width = 0 → update = (display, [])) := by
  intro size update drawing
  have marks : drawing.marks = rowsMarks size.width 0 (frame.lines.take size.height) :=
    Drawing.follow_render_marks _ display frame
  refine ⟨?_, ?_, ?_, display.render_invisible frame⟩
  · intro mark among
    rw [marks] at among
    obtain ⟨row, column, unbroken⟩ := mem_rowsMarks _ _ _ among
    rw [Nat.zero_add, List.length_take] at row
    simp only [isPrintable, Bool.and_eq_true, bne_iff_ne] at unbroken
    exact ⟨Nat.lt_of_lt_of_le row (Nat.min_le_left _ _), column, unbroken⟩
  · intro row
    rw [marks, charsOn_rowsMarks, if_pos (Nat.zero_le row), Nat.sub_zero]
    refine ⟨columns_printed _ _, ?_⟩
    intro inside
    rw [List.getElem?_take_of_lt inside]
  · intro rows positive
    have visible : ¬ (display.size.height = 0 ∨ display.size.width = 0) :=
      not_or.mpr ⟨Nat.ne_of_gt rows, Nat.ne_of_gt positive⟩
    have drawn : drawing = _ := Drawing.follow_render _ display frame visible
    rw [drawn]
    refine Drawing.follow_cursorDraws _ size frame.cursor ?_ positive
    exact (Drawing.follow_rowsDraws _ _ _ _).2

/-- Three columns and one row: of two wide characters one fits, the second line has no row, and a
cursor far to the right is shown in the last column. -/
theorem render_inside_small :
    let display : Display := { size := { width := 3, height := 1 } }
    let frame : Frame := { lines := [[{ text := "日本" }], [{ text := "c" }]], cursor := some ⟨9, 0⟩ }
    let drawing := Drawing.follow { pen := ⟨0, 0⟩, cursorShown := true } (display.render frame).2
    charsOn 0 drawing.marks = ['日'] ∧
      (∀ mark ∈ drawing.marks, mark.place.row < display.size.height) ∧
      drawing.cursorShown = true ∧
      drawing.pen.row < display.size.height ∧ drawing.pen.column < display.size.width := by
  -- The drawing stays an expression: compared under its name it would be computed.
  intro display frame
  obtain ⟨inside, rows, cursor, -⟩ := render_inside display frame ⟨0, 0⟩ true
  obtain ⟨shown_iff, stands⟩ := cursor (by decide) (by decide)
  have shown := shown_iff.mpr ⟨⟨9, 0⟩, rfl, by decide⟩
  have line := (rows 0).2 (by decide)
  have first : printed 3 [{ text := "日本" }] = ['日'] := by decide +kernel
  exact ⟨line.trans first, fun mark among => (inside mark among).1, shown, stands shown⟩

end DatasetPicker.Terminal
