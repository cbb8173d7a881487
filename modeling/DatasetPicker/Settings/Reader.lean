import DatasetPicker.Json.Fields
import DatasetPicker.Json.Reader
import DatasetPicker.Settings.Basic
import DatasetPicker.Yaml.Fields

/-!
# Reading settings

Settings are read from YAML, which is the form of the settings file, and from JSON. No
field is required, but a field that is not a setting is an error. A link needs its title
and its address and may hold other fields.
-/

namespace DatasetPicker

namespace Settings

/-- The names of the fields, in their order. -/
def fieldNames : List String :=
  ["title", "datasets", "dataset", "backend", "config_file", "config_url",
    "query_timeout_ms", "error_timeout_ms", "log_file", "links"]

/-- The numbers of milliseconds lie below this. -/
def timeBound : Nat := UInt64.size

/-- A link in a node. -/
def linkOfNode? (document : Yaml.Document) (node : Yaml.Node) : Option Link := do
  let entries ← document.entries? node
  let title ← Yaml.Document.field? entries "title"
  let url ← Yaml.Document.field? entries "url"
  return ⟨← title.bind document.text?, ← url.bind document.text?⟩

/-- Settings in a document. -/
def ofDocument? (document : Yaml.Document) : Option Settings := do
  let entries ← document.entries? document.root
  if !entries.all (fieldNames.contains ·.1) then none
  let text := document.text?
  let optional := document.optional? document.text?
  let time := document.natural? timeBound
  let standard : Settings := {}
  return {
    title := ← Yaml.orDefault standard.title text (← field entries "title")
    datasets :=
      ← Yaml.orDefault standard.datasets (document.list? text) (← field entries "datasets")
    dataset := ← Yaml.orDefault standard.dataset text (← field entries "dataset")
    backend := ← Yaml.orDefault none optional (← field entries "backend")
    configFile := ← Yaml.orDefault none optional (← field entries "config_file")
    configUrl := ← Yaml.orDefault none optional (← field entries "config_url")
    queryTimeout :=
      ← Yaml.orDefault standard.queryTimeout time (← field entries "query_timeout_ms")
    errorTimeout :=
      ← Yaml.orDefault standard.errorTimeout time (← field entries "error_timeout_ms")
    logFile := ← Yaml.orDefault none optional (← field entries "log_file")
    links :=
      ← Yaml.orDefault standard.links (document.list? (linkOfNode? document))
        (← field entries "links") }
where
  field := Yaml.Document.field?

/-- The settings of a text in YAML. A text without a document gives the defaults. -/
def ofYaml? (text : String) : Option Settings := do
  match ← Yaml.document? text with
  | some document => ofDocument? document
  | none => return {}

/-- Reads settings in YAML. -/
def ofYaml (text : String) : Except Failure Settings :=
  match ofYaml? text with
  | some settings => .ok settings
  | none => .error (.yaml "the text does not hold settings")

/-- A link in a tree. -/
def linkOfTree? (tree : Json.Tree) : Option Link := do
  match ← tree.fields? ["title", "url"] with
  | [title, url] =>
    return ⟨← Json.required (·.text?) title, ← Json.required (·.text?) url⟩
  | _ => none

/-- No member of an object has a foreign name. -/
def hasKnownNames : Json.Tree → Bool
  | .object members => members.all fun (name, _) => name.any fieldNames.contains
  | _ => true

/-- Settings in a tree. -/
def ofTree? (tree : Json.Tree) : Option Settings := do
  if !hasKnownNames tree then none
  match ← tree.fields? fieldNames with
  | [title, datasets, dataset, backend, file, url, query, error, log, links] =>
    let standard : Settings := {}
    let time (tree : Json.Tree) := tree.natural? timeBound
    let optional (tree : Json.Tree) := tree.optional? (·.text?)
    return {
      title := ← Json.orDefault standard.title (·.text?) title
      datasets := ← Json.orDefault standard.datasets (·.list? (·.text?)) datasets
      dataset := ← Json.orDefault standard.dataset (·.text?) dataset
      backend := ← Json.orDefault none optional backend
      configFile := ← Json.orDefault none optional file
      configUrl := ← Json.orDefault none optional url
      queryTimeout := ← Json.orDefault standard.queryTimeout time query
      errorTimeout := ← Json.orDefault standard.errorTimeout time error
      logFile := ← Json.orDefault none optional log
      links := ← Json.orDefault standard.links (·.list? linkOfTree?) links }
  | _ => none

/-- Reads settings in JSON. -/
def ofJson (text : String) : Except Failure Settings :=
  match (Json.read? text).bind ofTree? with
  | some settings => .ok settings
  | none => .error (.json "the text does not hold settings")

end Settings

end DatasetPicker
