/-!
# Failures

What can go wrong at the edges of the program, by cause, and the text that tells it.
Inside the selector nothing fails: a refused commit is an effect, not a failure.
-/

namespace DatasetPicker

/-- A failed operation. -/
inductive Failure where
  /-- The system refused an operation. -/
  | io (cause : String)
  /-- A file cannot be read as text. -/
  | unreadable (path : String) (cause : String)
  | json (detail : String)
  | yaml (detail : String)
  | http (url : String) (cause : String)
  /-- A response came without data. -/
  | emptyResponse (reason : String)
  | settings (reason : String)
  | unknownDataset (name : String)
  | invalidColour (text : String)
  /-- Nobody receives the messages any more. -/
  | backendClosed
  | logging (reason : String)
  deriving DecidableEq, Repr

/-- The text of a failure. -/
def Failure.message : Failure → String
  | .io cause => "io error: " ++ cause
  | .unreadable path cause => "failed to read " ++ path ++ ": " ++ cause
  | .json detail => "invalid json: " ++ detail
  | .yaml detail => "invalid settings file: " ++ detail
  | .http url cause => "query request to " ++ url ++ " failed: " ++ cause
  | .emptyResponse reason => "query returned no data: " ++ reason
  | .settings reason => "invalid settings: " ++ reason
  | .unknownDataset name => "dataset `" ++ name ++ "` is not one of the known datasets"
  | .invalidColour text => "invalid color `" ++ text ++ "`, expected #rgb or #rrggbb"
  | .backendClosed => "backend channel closed"
  | .logging reason => "failed to initialize logging: " ++ reason

end DatasetPicker
