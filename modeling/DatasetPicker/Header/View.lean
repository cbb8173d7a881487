import DatasetPicker.Header.Basic
import DatasetPicker.Header.Layout
import DatasetPicker.Header.Palette
import DatasetPicker.Screen.Frame

/-!
# The view of a header

One line holds the logo, the selector and the links. While a name is edited, a window of
results follows, and then the rejection that is shown. The view also tells where its
parts lie.
-/

namespace DatasetPicker

open Screen (Span Line Frame columnAt blanks)

/-- The frame of a header and the layout of its parts. -/
structure View where
  frame : Frame := {}
  layout : Layout := {}
  deriving DecidableEq, Repr

namespace View

/-- The number of results in the window. -/
def windowSize : Nat := 8

/-- The least number of columns of the selector. -/
def selectorColumns : Nat := 24

/-- Shown when no dataset is selected. -/
def prompt : String := "Select dataset"

/-- A dim span. -/
def dimmed (text : String) : Span := { text, style := { dim := true } }

/-- A span without style. -/
def plain (text : String) : Span := { text }

/-- The mark and the title. -/
def logo (header : Header) (palette : Palette) : Line :=
  [{ text := if header.refreshing then "↻ " else "◆ "
     style := { colour := some palette.accent, bold := true } },
    { text := header.branding.title, style := { bold := true } }]

/-- What stands between the logo and the selector. -/
def lead : Line := [dimmed " │ ", dimmed "dataset "]

/-- The part of the line before the selector. -/
def beforeSelector (header : Header) (palette : Palette) : Line :=
  logo header palette ++ lead

/-- The text in the input with the rest of its completion. -/
def input (context : Selector.Context) : Line :=
  plain context.value ::
    if context.value.isEmpty then []
    else context.completion.toList.map fun completion => dimmed completion.placeholder

/-- The selected dataset, or the prompt. -/
def selection (context : Selector.Context) (palette : Palette) : Line :=
  if context.committed.isEmpty then [dimmed prompt]
  else [{ text := context.committed, style := { colour := some palette.accent } }]

/-- The selector without the blanks behind it. -/
def choice (session : Selector.Session) (palette : Palette) : Line :=
  if session.mode.isEditing then input session.context
  else selection session.context palette

/-- Blanks up to the least number of columns. -/
def padding (used : Nat) : Line :=
  if used < selectorColumns then [plain (blanks (selectorColumns - used))] else []

/-- The selector. -/
def selector (session : Selector.Session) (palette : Palette) : Line :=
  let choice := choice session palette
  choice ++ padding choice.width

/-- The titles of the links. -/
def links : List Link → Line
  | [] => []
  | first :: rest =>
    let title (link : Link) : Span := { text := link.title, style := { underline := true } }
    dimmed " │ " :: title first :: rest.flatMap fun link => [plain "  ", title link]

/-- The first line. -/
def topLine (header : Header) (palette : Palette) : Line :=
  beforeSelector header palette ++ selector header.session palette ++
    links header.branding.links

/-- The column where the selector starts, beyond any limit. -/
def selectorStart (header : Header) (palette : Palette) : Nat :=
  (beforeSelector header palette).width

/-- The cursor stands behind the text while the input has the focus. -/
def cursor (header : Header) (palette : Palette) : Option Screen.Place :=
  if header.session.mode.isFocused then
    some
      { column :=
          columnAt
            (selectorStart header palette + Text.columns header.session.context.value)
        row := 0 }
  else none

/-- The first result in the window: as far up as the highlight allows. -/
def windowStart (current : Option Nat) : Nat :=
  match current with
  | none => 0
  | some index => index - (windowSize - 1)

/-- The indices of the results in the window. -/
def window (context : Selector.Context) : List Nat :=
  let start := windowStart context.current
  List.range' start (min (start + windowSize) context.results.length - start)

/-- The line of a result: a marker, a bullet and the name. -/
def resultLine (indent : Nat) (palette : Palette) (context : Selector.Context)
    (index : Nat) (name : String) : Line :=
  let marked := context.current = some index
  let style : Screen.Style :=
    if marked then { colour := some palette.accent, bold := true } else {}
  [plain (blanks indent), { text := if marked then "› " else "  ", style },
    { text := "● "
      style := { colour := some (palette.shade index context.results.length) } },
    { text := name, style }]

/-- A line about results outside the window. -/
def hiddenLine (indent : Nat) (arrow : String) (count : Nat) : Line :=
  [plain (blanks indent), dimmed ("  " ++ arrow ++ " " ++ toString count ++ " more")]

/-- The line about the results above the window. -/
def linesAbove (indent : Nat) (context : Selector.Context) : List Line :=
  let start := windowStart context.current
  if 0 < start then [hiddenLine indent "↑" start] else []

/-- The lines of the window. -/
def windowLines (indent : Nat) (palette : Palette) (context : Selector.Context) :
    List Line :=
  (window context).filterMap fun index =>
    (context.results[index]?).map (resultLine indent palette context index)

/-- The line about the results below the window. -/
def linesBelow (indent : Nat) (context : Selector.Context) : List Line :=
  let shown := min (windowStart context.current + windowSize) context.results.length
  let hidden := context.results.length - shown
  if 0 < hidden then [hiddenLine indent "…" hidden] else []

/-- The lines of the results. -/
def results (indent : Nat) (palette : Palette) (context : Selector.Context) : List Line :=
  if context.results.isEmpty then
    [[plain (blanks indent), dimmed "no matching datasets"]]
  else
    linesAbove indent context ++ windowLines indent palette context ++
      linesBelow indent context

/-- The line of a rejection. -/
def errorLine (indent : Nat) (error : Selector.CommitError) : Line :=
  [{ text := blanks indent ++ "! " ++ error.message, style := { colour := some .red } }]

/-- The lines of a header. -/
def lines (header : Header) (palette : Palette) : List Line :=
  let indent := selectorStart header palette
  topLine header palette ::
    ((if header.session.mode.isEditing then results indent palette header.session.context
      else []) ++
      header.visibleError.toList.map (errorLine indent))

/-- The row of the first result and the indices of the results. -/
def resultPlaces (session : Selector.Session) : Nat × List Nat :=
  if session.mode.isEditing then
    if session.context.results.isEmpty then (1, [])
    else
      ((linesAbove 0 session.context).length + 1, window session.context)
  else (0, [])

/-- The layout of a header. -/
def layoutOf (header : Header) (palette : Palette) : Layout :=
  let start := selectorStart header palette
  let places := resultPlaces header.session
  { logo := ⟨0, columnAt (logo header palette).width⟩
    selector :=
      ⟨columnAt start, columnAt (start + (selector header.session palette).width)⟩
    resultsRow := places.1
    resultRows := places.2 }

/-- The view of a header. -/
def render (header : Header) (palette : Palette) : View :=
  { frame := { lines := lines header palette, cursor := cursor header palette }
    layout := layoutOf header palette }

end View

end DatasetPicker
