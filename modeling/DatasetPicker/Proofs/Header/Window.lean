import DatasetPicker.Header.View

/-!
# The window of results

While a name is edited, the lines of the results stand together below the first line and
perhaps a line about what is above the window. The layout counts the same lines, so that it
has a result on exactly the rows where a name can be read, and the result is that name.
-/

namespace DatasetPicker.View

open Screen (Line)

/-- The name on a line of a result: it stands behind blanks, a marker and a bullet. -/
def resultName? : Line → Option String
  | [margin, marker, bullet, name] =>
    if margin.text.toList.all (· = ' ') ∧ (marker.text = "› " ∨ marker.text = "  ") ∧
        bullet.text = "● " then
      some name.text
    else none
  | _ => none

/-- The line of a result carries its name. -/
theorem resultLine_name (indent : Nat) (palette : Palette) (context : Selector.Context)
    (index : Nat) (name : String) :
    resultName? (resultLine indent palette context index name) = some name := by
  have margin : (Screen.blanks indent).toList.all (· = ' ') = true := by
    rw [Screen.blanks, String.toList_ofList, List.all_eq_true]
    intro letter blank
    exact decide_eq_true (List.eq_of_mem_replicate blank)
  have marker : (if context.current = some index then "› " else "  ") = "› " ∨
      (if context.current = some index then "› " else "  ") = "  " := by
    split
    · exact .inl rfl
    · exact .inr rfl
  exact if_pos ⟨margin, marker, rfl⟩

/-- The first line is not the line of a result. -/
theorem topLine_unnamed (header : Header) (palette : Palette)
    (editing : header.session.mode.isEditing = true) :
    resultName? (topLine header palette) = none := by
  simp only [topLine, selector, choice, if_pos editing]
  rfl

/-- A line about hidden results is not the line of a result. -/
theorem hiddenLines_unnamed (indent : Nat) (arrow : String) (count : Nat) :
    ∀ line ∈ (if 0 < count then [hiddenLine indent arrow count] else []),
      resultName? line = none := by
  intro line among
  split at among
  · rw [List.mem_singleton.mp among]
    rfl
  · contradiction

/-- The line of a rejection is not the line of a result. -/
theorem errorLines_unnamed (indent : Nat) (error : Option Selector.CommitError) :
    ∀ line ∈ error.toList.map (errorLine indent), resultName? line = none := by
  intro line among
  obtain ⟨shown, _, rfl⟩ := List.mem_map.mp among
  rfl

/-! ## Rows -/

/-- Rows of lines none of which carries a name carry no name. -/
theorem unnamed_row (lines : List Line) (unnamed : ∀ line ∈ lines, resultName? line = none)
    (row : Nat) : (lines[row]?).bind resultName? = none := by
  cases found : lines[row]? with
  | none => rfl
  | some line => exact unnamed line (List.mem_of_getElem? found)

/-- Names are read on the rows of some lines if no line around them carries a name. -/
theorem named_rows (before lines after : List Line)
    (above : ∀ line ∈ before, resultName? line = none)
    (below : ∀ line ∈ after, resultName? line = none) (row : Nat) :
    ((before ++ lines ++ after)[row]?).bind resultName? =
      if before.length ≤ row then (lines[row - before.length]?).bind resultName? else none := by
  rw [List.append_assoc, List.getElem?_append]
  by_cases early : row < before.length
  · rw [if_pos early, if_neg (Nat.not_le.mpr early)]
    exact unnamed_row before above row
  · rw [if_neg early, if_pos (Nat.le_of_not_lt early), List.getElem?_append]
    split
    · rfl
    · rename_i late
      rw [unnamed_row after below, List.getElem?_eq_none (Nat.le_of_not_lt late)]
      rfl

/-- Where each element is mapped to something, places are kept. -/
theorem getElem?_filterMap {α β : Type} (make : α → Option β) (list : List α)
    (total : ∀ a ∈ list, (make a).isSome = true) (place : Nat) :
    (list.filterMap make)[place]? = (list[place]?).bind make := by
  induction list generalizing place with
  | nil => rfl
  | cons a rest ih =>
    obtain ⟨b, made⟩ := Option.isSome_iff_exists.mp (total a (List.mem_cons_self ..))
    rw [List.filterMap_cons_some made]
    cases place with
    | zero => exact made.symm
    | succ place => exact ih (fun a later => total a (List.mem_cons_of_mem _ later)) place

/-- The window lies within the results. -/
theorem window_inside (context : Selector.Context) (index : Nat)
    (shown : index ∈ window context) : index < context.results.length := by
  have bounds := List.mem_range'_1.mp shown
  omega

/-- The lines of the window carry the names of its results. -/
theorem windowLines_names (indent : Nat) (palette : Palette) (context : Selector.Context)
    (place : Nat) :
    ((windowLines indent palette context)[place]?).bind resultName? =
      ((window context)[place]?).bind (context.results[·]?) := by
  have total : ∀ index ∈ window context,
      ((context.results[index]?).map (resultLine indent palette context index)).isSome = true := by
    intro index shown
    rw [Option.isSome_map, List.getElem?_eq_getElem (window_inside context index shown)]
    rfl
  rw [windowLines, getElem?_filterMap _ _ total, Option.bind_assoc]
  congr 1
  funext index
  rw [Option.bind_map]
  cases context.results[index]? with
  | none => rfl
  | some name => exact resultLine_name indent palette context index name

/-! ## The view -/

/-- How many lines there are above the window does not depend on the margin. -/
theorem length_linesAbove (indent other : Nat) (context : Selector.Context) :
    (linesAbove indent context).length = (linesAbove other context).length := by
  simp only [linesAbove]
  split <;> rfl

variable (header : Header) (palette : Palette)

/-- Where no results are listed, the layout has none. -/
theorem resultAt_unlisted (row : Nat)
    (unlisted : header.session.mode.isEditing = false ∨ header.session.context.results = []) :
    (layoutOf header palette).resultAt? row = none := by
  have none_listed : (resultPlaces header.session).2 = [] := by
    unfold resultPlaces
    obtain reading | empty := unlisted
    · rw [reading]
      rfl
    · rw [empty]
      split <;> rfl
  simp [Layout.resultAt?, layoutOf, none_listed]

/-- Where results are listed, the layout has those of the window below the lines above it. -/
theorem resultAt_listed (row : Nat) (editing : header.session.mode.isEditing = true)
    (listed : header.session.context.results ≠ []) :
    (layoutOf header palette).resultAt? row =
      if (linesAbove 0 header.session.context).length + 1 ≤ row then
        (window header.session.context)[row - ((linesAbove 0 header.session.context).length + 1)]?
      else none := by
  have places : resultPlaces header.session =
      ((linesAbove 0 header.session.context).length + 1, window header.session.context) := by
    rw [resultPlaces, if_pos editing, if_neg (mt List.isEmpty_iff.mp listed)]
  simp only [Layout.resultAt?, layoutOf, places]

/-- A row of the layout with a result is below the first line, and there is such a result. -/
theorem resultAt_inside (row index : Nat)
    (found : (layoutOf header palette).resultAt? row = some index) :
    0 < row ∧ index < header.session.context.results.length := by
  by_cases unlisted :
      header.session.mode.isEditing = false ∨ header.session.context.results = []
  · rw [resultAt_unlisted header palette row unlisted] at found
    contradiction
  · obtain ⟨editing, listed⟩ := not_or.mp unlisted
    rw [resultAt_listed header palette row (eq_true_of_ne_false editing) listed] at found
    split at found
    · rename_i below
      exact ⟨by omega, window_inside _ index (List.mem_of_getElem? found)⟩
    · contradiction

/-- Where results are listed, their lines stand between the first line with a line about what
is above the window, and a line about what is below it with a rejection. -/
theorem lines_listed (editing : header.session.mode.isEditing = true)
    (listed : header.session.context.results ≠ []) :
    lines header palette =
      (topLine header palette ::
          linesAbove (selectorStart header palette) header.session.context) ++
        windowLines (selectorStart header palette) palette header.session.context ++
        (linesBelow (selectorStart header palette) header.session.context ++
          header.visibleError.toList.map (errorLine (selectorStart header palette))) := by
  have nonempty := mt List.isEmpty_iff.mp listed
  simp only [lines, results, if_pos editing, if_neg nonempty, List.append_assoc,
    List.cons_append]

/-- Where no results are listed, no line is the line of a result. -/
theorem lines_unlisted (editing : header.session.mode.isEditing = true)
    (empty : header.session.context.results = []) :
    ∀ line ∈ lines header palette, resultName? line = none := by
  intro line among
  simp only [lines, results, if_pos editing, if_pos (List.isEmpty_iff.mpr empty),
    List.cons_append, List.nil_append, List.mem_cons] at among
  obtain rfl | rfl | shown := among
  · exact topLine_unnamed header palette editing
  · rfl
  · exact errorLines_unnamed _ _ line shown

/-- While a name is edited, a name can be read on a row where the layout has a result, it is
the name of that result, and no name can be read on other rows. -/
theorem row_names (editing : header.session.mode.isEditing = true) (row : Nat) :
    ((render header palette).frame.lines[row]?).bind resultName? =
      ((render header palette).layout.resultAt? row).bind
        (header.session.context.results[·]?) := by
  change ((lines header palette)[row]?).bind resultName? =
    ((layoutOf header palette).resultAt? row).bind _
  by_cases listed : header.session.context.results = []
  · rw [resultAt_unlisted header palette row (.inr listed)]
    exact unnamed_row _ (lines_unlisted header palette editing listed) row
  · rw [resultAt_listed header palette row editing listed,
      lines_listed header palette editing listed, named_rows, List.length_cons,
      length_linesAbove _ 0]
    · split
      · exact windowLines_names _ palette header.session.context _
      · rfl
    · intro line among
      obtain rfl | above := List.mem_cons.mp among
      · exact topLine_unnamed header palette editing
      · exact hiddenLines_unnamed _ _ _ line above
    · intro line among
      obtain below | shown := List.mem_append.mp among
      · exact hiddenLines_unnamed _ _ _ line below
      · exact errorLines_unnamed _ _ line shown

end DatasetPicker.View
