import DatasetPicker.Config.Snapshot

/-!
# Responses to the configuration query

A response is an envelope with the data, a list of errors, or both. Data counts even
beside errors; without data the messages of the errors tell why.
-/

namespace DatasetPicker.Config

/-- The query that the server is asked. -/
def query : String :=
  "query AppConfig \x7b colorscale config \x7b colorPool colorscale gridZoom loopVideos " ++
    "notebookHeight showConfidence showIndex showLabel showTooltip timezone " ++
    "useFrameNumber \x7d \x7d"

/-- The body of a request for the configuration. -/
def requestBody : String :=
  String.ofList (Json.writeObject [("query", Json.writeString query)])

/-- A response. -/
structure Response where
  data : Option Snapshot
  /-- The messages of the reported errors. -/
  errors : List String := []
  deriving DecidableEq, Repr

namespace Response

/-- The message of a reported error. -/
def errorOfTree? (tree : Json.Tree) : Option String := do
  match ← tree.fields? ["message"] with
  | [message] => Json.required (·.text?) message
  | _ => none

/-- A response in a tree. An object may leave out the data, an array may not. -/
def ofTree? (tree : Json.Tree) : Option Response := do
  if let .array [] := tree then none
  match ← tree.fields? ["data", "errors"] with
  | [data, errors] =>
    return {
      data := ← Json.orDefault none (·.optional? Snapshot.ofTree?) data
      errors := ← Json.orDefault [] (·.list? errorOfTree?) errors }
  | _ => none

/-- Why a response without data has none. -/
def reason (errors : List String) : String :=
  if errors.isEmpty then "response has no `data` field" else "; ".intercalate errors

/-- The data of a response. -/
def snapshot (response : Response) : Except Failure Snapshot :=
  match response.data with
  | some snapshot => .ok snapshot
  | none => .error (.emptyResponse (reason response.errors))

end Response

/-- The snapshot in the body of a response. -/
def parseResponse (body : String) : Except Failure Snapshot :=
  match (Json.read? body).bind Response.ofTree? with
  | some response => response.snapshot
  | none => .error (.json "the body is not a response")

end DatasetPicker.Config
