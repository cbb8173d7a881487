import DatasetPicker.Proofs.Header.Columns
import DatasetPicker.Proofs.Header.Window

/-!
# The areas of the pointer

A click is looked up in the layout: on the logo, on the selector, or on a result. The logo and the
selector lie behind each other on the first row, and they stay apart where the title is so wide that
both begin and end at the last column; the results lie on the rows below. So no point is on two of
them, and the order in which they are looked up does not matter.
-/

namespace DatasetPicker

/-- A point is on one part at most, if the selector starts behind the logo and no result is on the
first row. -/
theorem Layout.count_hits_le (layout : Layout) (column row : Nat)
    (behind : layout.logo.stop ≤ layout.selector.start) (below : layout.resultAt? 0 = none) :
    [layout.hitsLogo column row, layout.hitsSelector column row,
      (layout.resultAt? row).isSome].count true ≤ 1 := by
  cases row with
  | zero =>
    rw [below]
    by_cases left : column < layout.logo.stop
    · have outside : layout.hitsSelector column 0 = false := by
        simp only [hitsSelector, Extent.contains, Bool.and_eq_false_imp, decide_eq_true_eq]
        omega
      rw [outside]
      cases layout.hitsLogo column 0 <;> decide
    · have outside : layout.hitsLogo column 0 = false := by
        simp only [hitsLogo, Extent.contains, Bool.and_eq_false_imp, decide_eq_false_iff_not]
        omega
      rw [outside]
      cases layout.hitsSelector column 0 <;> decide
  | succ row =>
    have logo : layout.hitsLogo column (row + 1) = false := rfl
    have selector : layout.hitsSelector column (row + 1) = false := rfl
    rw [logo, selector]
    cases (layout.resultAt? (row + 1)).isSome <;> decide

namespace View

variable (header : Header) (palette : Palette)

/-! ## Extents -/

/-- The logo ends where its columns do, as far as columns are counted. -/
theorem logo_stop :
    (layoutOf header palette).logo.stop = min (logo header palette).width 65535 := rfl

/-- The selector starts behind what stands before it, as far as columns are counted. -/
theorem selector_start :
    (layoutOf header palette).selector.start = min (selectorStart header palette) 65535 := rfl

/-- The selector ends where its columns do, as far as columns are counted. -/
theorem selector_stop :
    (layoutOf header palette).selector.stop =
      min (selectorStart header palette + (selector header.session palette).width) 65535 := rfl

/-- The logo covers the title. -/
theorem title_le_logo :
    min (Text.columns header.branding.title) 65535 ≤ (layoutOf header palette).logo.stop := by
  have behind : (logo header palette).width =
      Text.columns (if header.refreshing then "↻ " else "◆ ") +
        Text.columns header.branding.title := rfl
  rw [logo_stop]
  omega

/-- The selector starts behind the logo. -/
theorem logo_le_selector :
    (layoutOf header palette).logo.stop ≤ (layoutOf header palette).selector.start := by
  have behind : selectorStart header palette = (logo header palette).width + lead.width :=
    Terminal.width_append _ _
  rw [logo_stop, selector_start]
  omega

/-- Where columns are counted far enough, the selector has its least width. -/
theorem selector_extent (counted : (layoutOf header palette).selector.start + 24 ≤ 65535) :
    24 ≤ (layoutOf header palette).selector.stop - (layoutOf header palette).selector.start := by
  have wide : 24 ≤ (selector header.session palette).width := selectorColumns_le _ _
  rw [selector_start] at counted
  rw [selector_start, selector_stop]
  omega

/-- While a name is edited, the selector begins with the text in the input. -/
theorem columns_value_le (session : Selector.Session) (editing : session.mode.isEditing = true) :
    Text.columns session.context.value ≤ (selector session palette).width := by
  rw [selector, choice, if_pos editing, input, Terminal.width_append, Terminal.width_cons]
  exact Nat.le_trans (Nat.le_add_right _ _) (Nat.le_add_right _ _)

/-- The cursor stands on the selector or right behind it. -/
theorem cursor_inside {place : Screen.Place} (shown : cursor header palette = some place) :
    (layoutOf header palette).selector.start ≤ place.column ∧
      place.column ≤ (layoutOf header palette).selector.stop := by
  obtain ⟨editing, column⟩ := cursor_shown shown
  have text := columns_value_le palette header.session editing
  rw [column, selector_start, selector_stop, Screen.columnAt, Screen.greatestColumn]
  omega

/-! ## Areas -/

/-- No result is on the first row. -/
theorem resultAt_top : (layoutOf header palette).resultAt? 0 = none := by
  cases found : (layoutOf header palette).resultAt? 0 with
  | none => rfl
  | some index =>
    obtain ⟨below, -⟩ := resultAt_inside header palette 0 index found
    contradiction

/-- However wide the parts of a header are, no point of its view is on two of logo, selector and
results. There is no result while nothing is edited, the selector has at least 24 columns where so
many are counted, and the cursor stands on the selector or right behind it. -/
theorem areas_apart (header : Header) (palette : Palette) :
    let view := render header palette
    let layout := view.layout
    (∀ column row, [layout.hitsLogo column row, layout.hitsSelector column row,
        (layout.resultAt? row).isSome].count true ≤ 1) ∧
      (header.session.mode = .reading → ∀ row, layout.resultAt? row = none) ∧
      (layout.selector.start + 24 ≤ 65535 → 24 ≤ layout.selector.stop - layout.selector.start) ∧
      ∀ place, view.frame.cursor = some place →
        layout.selector.start ≤ place.column ∧ place.column ≤ layout.selector.stop := by
  intro view layout
  refine ⟨?_, ?_, selector_extent header palette, fun place => cursor_inside header palette⟩
  · intro column row
    exact layout.count_hits_le column row (logo_le_selector header palette)
      (resultAt_top header palette)
  · intro reading row
    have mode : header.session.mode.isEditing = false := by
      rw [reading]
      rfl
    exact resultAt_unlisted header palette row (.inl mode)

/-- The logo with a title of 70000 blanks takes all columns that are counted, and still no point is
on the selector as well. -/
theorem areas_apart_wide :
    let branding : Branding := { title := Screen.blanks 70000, links := [] }
    let header := (Header.start branding "alpha" ["alpha"] { kind := .channel } .first).header
    let layout := (render header {}).layout
    65535 ≤ layout.logo.stop ∧ header.session.mode = .reading ∧ layout.resultAt? 1 = none ∧
      ∀ column row, [layout.hitsLogo column row, layout.hitsSelector column row,
        (layout.resultAt? row).isSome].count true ≤ 1 := by
  intro branding header layout
  have title : Text.columns header.branding.title = 70000 := Terminal.columns_blanks 70000
  have reading : header.session.mode = .reading := rfl
  obtain ⟨apart, unlisted, -, -⟩ := areas_apart header {}
  have covered := title_le_logo header {}
  rw [title] at covered
  exact ⟨covered, reading, unlisted reading 1, apart⟩

end View

end DatasetPicker
