import DatasetPicker.Backend.Basic
import DatasetPicker.Selector.Session

/-!
# The header

A header shows a title, a dataset selector and some links. It turns what the selector
does into messages for the server, and keeps what only the view needs: whether a refresh
is under way and which rejection is shown. A rejection is shown until it expires or the
edit ends, whichever comes first.
-/

namespace DatasetPicker

/-- A link in the header. -/
structure Link where
  title : String
  url : String
  deriving DecidableEq, Repr

/-- The links of a header that was given none. -/
def Link.defaults : List Link :=
  [⟨"GitHub", "https://github.com/voxel51/fiftyone"⟩,
    ⟨"Docs", "https://voxel51.com/docs/fiftyone"⟩,
    ⟨"Slack", "https://slack.voxel51.com"⟩]

/-- The title and the links of a header. -/
structure Branding where
  title : String := "FiftyOne"
  links : List Link := Link.defaults
  deriving DecidableEq, Repr

/-- The state of a header. -/
structure Header where
  branding : Branding
  session : Selector.Session
  backend : Backend
  refreshing : Bool := false
  visibleError : Option Selector.CommitError := none

namespace Header

/-- The outcome of an operation on a header. -/
structure Outcome where
  header : Header
  /-- The id for the next rejection. -/
  fresh : Selector.ErrorId
  effects : List Selector.Effect := []
  records : List Journal.Record := []

/-- Acts on one report of the selector: records are kept, and the server is told the name
of a committed dataset. An observer does not belong to a header and is not told. -/
def heed (backend : Backend) : Selector.Report → Backend × List Journal.Record
  | .entry record => (backend, [record])
  | .told .server name => backend.deliver (.setDataset name)
  | .told (.observer _) _ => (backend, [])

/-- Acts on reports in order. -/
def heedAll (backend : Backend) : List Selector.Report → Backend × List Journal.Record
  | [] => (backend, [])
  | report :: rest =>
    let (backend, first) := heed backend report
    let (backend, others) := heedAll backend rest
    (backend, first ++ others)

/-- The rejection to show after some effects: the last one, or else the one before. -/
def shown (before : Option Selector.CommitError) (effects : List Selector.Effect) :
    Option Selector.CommitError :=
  effects.foldl (fun visible effect => match effect with
    | .rejected error => some error
    | .committed _ => visible) before

/-- Takes over what the selector did. -/
def absorb (header : Header) (reaction : Selector.Reaction) : Outcome :=
  let (backend, records) := heedAll header.backend reaction.reports
  let visible := shown header.visibleError reaction.effects
  { header :=
      { header with
        session := reaction.session
        backend
        visibleError := if reaction.session.mode.isEditing then visible else none }
    fresh := reaction.fresh
    effects := reaction.effects
    records }

/-- Carries out an operation of the selector. -/
def perform (header : Header) (operation : Selector.Operation) (fresh : Selector.ErrorId) :
    Outcome :=
  header.absorb (header.session.perform operation fresh)

/-- Feeds one event to the selector. -/
def dispatch (header : Header) (event : Selector.Event) (fresh : Selector.ErrorId) :
    Outcome :=
  header.perform (.send event) fresh

/-- Replaces the feed of datasets. An edit that is under way is dropped. -/
def setDatasets (header : Header) (active : String) (datasets : List String)
    (fresh : Selector.ErrorId) : Outcome :=
  header.dispatch (.setValues active datasets (some .server)) fresh

/-- A new header on a feed of datasets. -/
def start (branding : Branding) (active : String) (datasets : List String)
    (backend : Backend) (fresh : Selector.ErrorId) : Outcome :=
  setDatasets { branding, session := ⟨.reading, {}⟩, backend } active datasets fresh

/-- The record of a click on the logo. -/
def refreshRecord : Journal.Record :=
  { level := .info, speaker := .header, message := "refresh requested" }

/-- A click on the logo asks the server to refresh and flips the indicator. -/
def activateLogo (header : Header) : Header × List Journal.Record :=
  let (backend, records) := header.backend.deliver .refresh
  ({ header with backend, refreshing := !header.refreshing }, refreshRecord :: records)

/-- Hides the rejection of an id, if it is the one that is shown, and tells whether. -/
def expireError (header : Header) (id : Selector.ErrorId) : Header × Bool :=
  if header.visibleError.any (·.id = id) then
    ({ header with visibleError := none }, true)
  else (header, false)

end Header

end DatasetPicker
