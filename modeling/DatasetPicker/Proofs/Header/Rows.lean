import DatasetPicker.Proofs.Header.Ensemble
import DatasetPicker.Proofs.Header.Window

/-!
# What can be read below the first line

While a name is edited, a part of its results is listed: as many as the window has room for,
one after the other, with the highlight among them. A row above and a row below tell how many
are left out there. The layout has the results where they can be read.
-/

namespace DatasetPicker.View

open Selector (Context ErrorId)
open Screen (Line blanks)

/-- A row of the list of results. -/
inductive Row where
  /-- Tells how many results are hidden above. -/
  | above (count : Nat)
  /-- The name of a result, perhaps with the marker of the highlight. -/
  | result (name : String) (marked : Bool)
  /-- Tells how many results are hidden below. -/
  | below (count : Nat)
  deriving DecidableEq, Repr

/-- What can be read on a row. -/
def Row.text : Row → String
  | .above count => "  ↑ " ++ toString count ++ " more"
  | .result name marked => (if marked then "› " else "  ") ++ "● " ++ name
  | .below count => "  … " ++ toString count ++ " more"

/-- The row has the marker of the highlight. -/
def Row.isMarked : Row → Bool
  | .result _ marked => marked
  | _ => false

/-- The results from `start` up to `stop`, with their indices. -/
def shown (context : Context) (start stop : Nat) : List (String × Nat) :=
  (context.results.zipIdx.take stop).drop start

/-- The row of a result with its index. Only the highlighted one has the marker. -/
def rowOf (context : Context) (result : String × Nat) : Row :=
  .result result.1 (context.current = some result.2)

/-- The rows of a list of results that is shown from `start` up to `stop`. -/
def rows (context : Context) (start stop : Nat) : List Row :=
  (if 0 < start then [.above start] else []) ++
    (shown context start stop).map (rowOf context) ++
    (if stop < context.results.length then [.below (context.results.length - stop)] else [])

/-! ## The window -/

/-- Where the window ends. -/
def windowStop (context : Context) : Nat :=
  min (windowStart context.current + windowSize) context.results.length

/-- The window ends with the last result at the latest. -/
theorem windowStop_le (context : Context) : windowStop context ≤ context.results.length :=
  Nat.min_le_right _ _

/-- The window is filled as far as there are results, and the highlight is in it. -/
theorem window_bounds (context : Context) (listed : context.results ≠ [])
    (inside : ∀ index, context.current = some index → index < context.results.length) :
    windowStart context.current < windowStop context ∧
      windowStop context ≤ context.results.length ∧
      windowStop context - windowStart context.current =
        min context.results.length windowSize ∧
      (∀ index, context.current = some index →
        windowStart context.current ≤ index ∧ index < windowStop context) ∧
      (context.current = none → windowStart context.current = 0) := by
  have positive := List.length_pos_iff.mpr listed
  simp only [windowStop]
  cases highlight : context.current with
  | none =>
    simp only [windowStart, windowSize]
    exact ⟨by omega, by omega, by omega, nofun, fun _ => trivial⟩
  | some current =>
    have bound := inside current highlight
    simp only [windowStart, windowSize]
    refine ⟨by omega, by omega, by omega, ?_, nofun⟩
    intro index same
    obtain rfl : current = index := Option.some.inj same
    omega

/-- The indices of the results that are shown follow each other. -/
theorem shown_indices (context : Context) (start stop : Nat)
    (within : stop ≤ context.results.length) :
    (shown context start stop).map Prod.snd = List.range' start (stop - start) := by
  have parts := List.range'_append_1 (s := 0) (m := stop) (n := context.results.length - stop)
  rw [Nat.zero_add, Nat.add_sub_cancel' within] at parts
  rw [shown, List.map_drop, List.map_take, List.zipIdx_map_snd, ← parts,
    List.take_left' List.length_range', List.drop_range', Nat.zero_add, Nat.mul_one]

/-- The window has the indices of the results that are shown. -/
theorem window_eq (context : Context) : window context =
    (shown context (windowStart context.current) (windowStop context)).map Prod.snd :=
  (shown_indices context _ _ (windowStop_le context)).symm

/-- The rows with the marker are counted by their indices. -/
theorem countP_indices (context : Context) (start stop : Nat)
    (within : stop ≤ context.results.length) :
    (rows context start stop).countP Row.isMarked =
      (List.range' start (stop - start)).countP (context.current = some ·) := by
  have above : (if 0 < start then [Row.above start] else []).countP Row.isMarked = 0 := by
    split <;> rfl
  have below : (if stop < context.results.length then
      [Row.below (context.results.length - stop)] else []).countP Row.isMarked = 0 := by
    split <;> rfl
  rw [rows, List.countP_append, List.countP_append, above, below, List.countP_map,
    ← shown_indices context start stop within, List.countP_map]
  simp only [Nat.zero_add, Nat.add_zero]
  rfl

/-- As many rows have the marker as there are highlights. -/
theorem countP_marked (context : Context) (start stop : Nat)
    (within : stop ≤ context.results.length)
    (inside : ∀ index, context.current = some index → start ≤ index ∧ index < stop) :
    (rows context start stop).countP Row.isMarked = context.current.toList.length := by
  rw [countP_indices context start stop within]
  cases highlight : context.current with
  | none => simp
  | some current =>
    obtain ⟨first, last⟩ := inside current highlight
    have once : (List.range' start (stop - start)).count current = 1 := by
      rw [List.count_range', if_pos ⟨current - start, by omega, by omega⟩]
    refine Eq.trans (List.countP_congr ?_) once
    intro index _
    simp only [decide_eq_true_eq, Option.some.injEq, beq_iff_eq]
    exact eq_comm

/-! ## Texts -/

/-- The text of a result's line. -/
theorem text_resultLine (indent : Nat) (palette : Palette) (context : Context)
    (result : String × Nat) :
    (resultLine indent palette context result.2 result.1).text =
      blanks indent ++ (rowOf context result).text := by
  simp [Line.text, resultLine, plain, rowOf, Row.text, String.join_cons, String.append_assoc]

/-- The text of a line about hidden results. -/
theorem text_hiddenLine (indent : Nat) (arrow : String) (count : Nat) :
    (hiddenLine indent arrow count).text =
      blanks indent ++ ("  " ++ arrow ++ " " ++ toString count ++ " more") := by
  simp [Line.text, hiddenLine, plain, dimmed, String.join_cons]

/-- The text of a rejection's line. -/
theorem text_errorLine (indent : Nat) (error : Selector.CommitError) :
    (errorLine indent error).text = blanks indent ++ "! " ++ error.message := by
  simp [Line.text, errorLine, String.join_cons]

/-- The lines of the window are those of the results that are shown. -/
theorem windowLines_eq (indent : Nat) (palette : Palette) (context : Context) :
    windowLines indent palette context =
      (shown context (windowStart context.current) (windowStop context)).map fun result =>
        resultLine indent palette context result.2 result.1 := by
  rw [windowLines, window_eq, List.filterMap_map, List.filterMap_eq_map_iff_forall_eq_some]
  intro result among
  have listed := List.mem_of_mem_take (List.mem_of_mem_drop among)
  have found := List.mem_zipIdx_iff_getElem?.mp listed
  simp only [Function.comp_apply, found, Option.map_some]

/-- What can be read above the window. -/
theorem texts_above (indent : Nat) (context : Context) :
    (linesAbove indent context).map Line.text =
      (if 0 < windowStart context.current then [Row.above (windowStart context.current)]
        else []).map (blanks indent ++ ·.text) := by
  simp only [linesAbove]
  split
  · simp only [List.map_singleton, text_hiddenLine]
    rfl
  · rfl

/-- What can be read below the window. -/
theorem texts_below (indent : Nat) (context : Context) :
    (linesBelow indent context).map Line.text =
      (if windowStop context < context.results.length then
        [Row.below (context.results.length - windowStop context)] else []).map
          (blanks indent ++ ·.text) := by
  have hidden : linesBelow indent context =
      if 0 < context.results.length - windowStop context then
        [hiddenLine indent "…" (context.results.length - windowStop context)] else [] := rfl
  simp only [hidden, Nat.sub_pos_iff_lt]
  split
  · simp only [List.map_singleton, text_hiddenLine]
    rfl
  · rfl

/-- What can be read in the list of results. -/
theorem texts_results (indent : Nat) (palette : Palette) (context : Context)
    (listed : context.results ≠ []) :
    (results indent palette context).map Line.text =
      (rows context (windowStart context.current) (windowStop context)).map
        (blanks indent ++ ·.text) := by
  have nonempty := mt List.isEmpty_iff.mp listed
  simp only [results, if_neg nonempty, rows, List.map_append, texts_above, texts_below,
    windowLines_eq, List.map_map, Function.comp_def, text_resultLine]

/-! ## The frame -/

/-- A list of results has room for the window and a line on either side. -/
theorem length_results (indent : Nat) (palette : Palette) (context : Context) :
    (results indent palette context).length ≤ 1 + windowSize + 1 := by
  have above : (linesAbove indent context).length ≤ 1 := by
    simp only [linesAbove]
    split <;> simp
  have below : (linesBelow indent context).length ≤ 1 := by
    simp only [linesBelow]
    split <;> simp
  have within : (windowLines indent palette context).length ≤ windowSize := by
    refine Nat.le_trans (List.length_filterMap_le _ _) ?_
    simp only [window, List.length_range']
    omega
  simp only [results]
  split
  · simp
  · simp only [List.length_append]
    omega

/-- A frame never has more lines than the first one, those of the list of results and that of
a rejection. -/
theorem length_lines (header : Header) (palette : Palette) :
    (lines header palette).length ≤ 1 + 1 + windowSize + 1 + 1 := by
  have listing := length_results (selectorStart header palette) palette header.session.context
  have rejection : header.visibleError.toList.length ≤ 1 := by
    cases header.visibleError <;> simp
  simp only [lines, List.length_cons, List.length_append, List.length_map]
  split
  · omega
  · simp only [List.length_nil]
    omega

/-- Where results are listed, the texts below the first line are those of the list of results and
of a rejection. -/
theorem texts_listed (header : Header) (palette : Palette)
    (editing : header.session.mode.isEditing = true)
    (listed : header.session.context.results ≠ []) :
    let context := header.session.context
    let margin := blanks (selectorStart header palette)
    (lines header palette).tail.map Line.text =
      (rows context (windowStart context.current) (windowStop context)).map (margin ++ ·.text) ++
        header.visibleError.toList.map (margin ++ "! " ++ ·.message) := by
  intro context margin
  have texts := texts_results (selectorStart header palette) palette context listed
  simp only [lines, List.tail_cons, if_pos editing, List.map_append, List.map_map,
    Function.comp_def, text_errorLine]
  rw [texts]

/-- From the row of the first result on, a frame has the lines of the results that are shown. -/
theorem lines_window (header : Header) (palette : Palette)
    (editing : header.session.mode.isEditing = true)
    (listed : header.session.context.results ≠ []) :
    let context := header.session.context
    ((lines header palette).drop (layoutOf header palette).resultsRow).take
        (windowStop context - windowStart context.current) =
      windowLines (selectorStart header palette) palette context := by
  intro context
  have top : (layoutOf header palette).resultsRow =
      (topLine header palette :: linesAbove (selectorStart header palette) context).length := by
    have nonempty := mt List.isEmpty_iff.mp listed
    rw [List.length_cons, length_linesAbove _ 0]
    simp only [layoutOf, resultPlaces, if_pos editing, if_neg nonempty]
    rfl
  have height : (windowLines (selectorStart header palette) palette context).length =
      windowStop context - windowStart context.current := by
    have indices := congrArg List.length
      (shown_indices context (windowStart context.current) _ (windowStop_le context))
    rw [List.length_map, List.length_range'] at indices
    rw [windowLines_eq, List.length_map, indices]
  rw [lines_listed header palette editing listed, top, List.append_assoc, List.drop_left,
    ← height, List.take_left]

/-! ## Main result -/

/-- A frame never has more than twelve lines. Where a name is edited and there are results, the
list shows as many of them as the window has room for, one after the other from `start` up to
`stop`. The highlighted result is among them and is the only one with the marker; without a
highlight the list starts with the first result and has no marker. What is hidden above and
below is counted on a row of its own, if it is anything. The layout has the indices of the
results that are shown, and they are read on the lines from its first row on. -/
theorem window_shows_highlight (openings : Nat → Header.Opening) (first : ErrorId)
    (steps : List (Nat × Header.Deed)) (place : Nat) (palette : Palette) :
    let header := ((Ensemble.start openings first).follow steps).headers place
    let context := header.session.context
    let view := render header palette
    let margin := blanks (selectorStart header palette)
    view.frame.lines.length ≤ 1 + 1 + windowSize + 1 + 1 ∧
      (header.session.mode.isEditing = true → context.results ≠ [] →
        ∃ start stop, start < stop ∧ stop ≤ context.results.length ∧
          stop - start = min context.results.length windowSize ∧
          (∀ index, context.current = some index → start ≤ index ∧ index < stop) ∧
          (context.current = none → start = 0) ∧
          view.frame.lines.tail.map Line.text =
            (rows context start stop).map (margin ++ ·.text) ++
              header.visibleError.toList.map (margin ++ "! " ++ ·.message) ∧
          (rows context start stop).countP Row.isMarked = context.current.toList.length ∧
          view.layout.resultRows = List.range' start (stop - start) ∧
          ((view.frame.lines.drop view.layout.resultsRow).take (stop - start)).map Line.text =
            (shown context start stop).map fun result =>
              margin ++ (rowOf context result).text) := by
  intro header context view margin
  refine ⟨length_lines header palette, ?_⟩
  intro editing listed
  have orderly := (Ensemble.start_orderly openings first).follow steps
  have offering : context.Offering := (orderly.coherent place).offering
  have inside (index : Nat) (highlighted : context.current = some index) :
      index < context.results.length :=
    (List.getElem?_eq_some_iff.mp (offering.highlighted index highlighted)).1
  obtain ⟨nonempty, within, filled, framed, fromTop⟩ := window_bounds context listed inside
  refine ⟨windowStart context.current, windowStop context, nonempty, within, filled, framed,
    fromTop, texts_listed header palette editing listed,
    countP_marked context _ _ within framed, ?_, ?_⟩
  · have places : view.layout.resultRows = window context := by
      change (resultPlaces header.session).2 = window header.session.context
      rw [resultPlaces, if_pos editing, if_neg (mt List.isEmpty_iff.mp listed)]
    rw [places]
    rfl
  · have block := lines_window header palette editing listed
    change (((lines header palette).drop (layoutOf header palette).resultsRow).take
      (windowStop context - windowStart context.current)).map Line.text = _
    rw [block, windowLines_eq, List.map_map]
    simp only [Function.comp_def, text_resultLine]
    rfl

/-- Of ten results the ninth is highlighted and a rejection is shown: there are twelve lines, and
of the ten results the first and the last are hidden. -/
theorem window_shows_highlight_scrolled :
    let names := (List.range 10).map fun number => "d" ++ toString number
    let openings : Nat → Header.Opening := fun _ => ⟨⟨"T", []⟩, "", names, { kind := .writer }⟩
    let steps : List (Nat × Header.Deed) :=
      (0, .perform (.send .edit)) :: List.replicate 9 (0, .perform (.send .nextResult)) ++
        [(0, .perform (.send (.commit "x")))]
    let header := ((Ensemble.start openings .first).follow steps).headers 0
    header.session.mode.isEditing = true ∧ header.session.context.results ≠ [] ∧
      header.session.context.current = some 8 ∧ (render header {}).frame.lines.length = 12 ∧
      ∃ start stop, start ≤ 8 ∧ 8 < stop ∧
        (render header {}).layout.resultRows = List.range' start (stop - start) := by
  intro names openings steps
  obtain ⟨start, stop, -, -, -, framed, -, -, -, indices, -⟩ :=
    (window_shows_highlight openings .first steps 0 {}).2 (by decide +kernel) (by decide +kernel)
  obtain ⟨first, last⟩ := framed 8 (by decide +kernel)
  exact ⟨by decide +kernel, by decide +kernel, by decide +kernel, by decide +kernel, start, stop,
    first, last, indices⟩

end DatasetPicker.View
