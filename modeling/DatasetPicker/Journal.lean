import DatasetPicker.Text.Quoted

/-!
# Journal

The program reports what it does as records. A record has a level, the part of the
program that speaks, a message and named values; its line is the form in which it is
appended to the journal file. Which records reach the file is decided by a level.
-/

namespace DatasetPicker.Journal

/-- How much a record matters. -/
inductive Level where
  | warn
  | info
  | debug
  deriving DecidableEq, Repr

/-- The word that opens a line. -/
def Level.word : Level → String
  | .warn => "WARN"
  | .info => "INFO"
  | .debug => "DEBUG"

/-- The parts of the program that keep the journal. -/
inductive Speaker where
  | machine
  | selector
  | header
  | backend
  | settings
  | store
  | source
  | state
  | runner
  deriving DecidableEq, Repr

/-- The address under which a part of the program is listed. -/
def Speaker.address : Speaker → String
  | .machine => "dataset_header::selector::machine"
  | .selector => "dataset_header::selector"
  | .header => "dataset_header::header"
  | .backend => "dataset_header::backend"
  | .settings => "dataset_header::settings"
  | .store => "dataset_header::config"
  | .source => "dataset_header::config::source"
  | .state => "dataset_header::state::app_state"
  | .runner => "dataset_header::runtime::runner"

/-- A value that a record carries. -/
inductive Item where
  /-- A named value, in its written form. -/
  | value (name : String) (written : String)
  /-- A second message, which stands in the line without a name. -/
  | remark (content : String)
  deriving DecidableEq, Repr

/-- One report. -/
structure Record where
  level : Level
  speaker : Speaker
  message : String
  items : List Item := []
  deriving DecidableEq, Repr

/-- A control character that could drive a terminal is spelled out inside a message. -/
def harmless (char : Char) : List Char :=
  if char = '\x1b' then "\\x1b".toList
  else if char = '\x07' then "\\x07".toList
  else if char = '\x08' then "\\x08".toList
  else if char = '\x0c' then "\\x0c".toList
  else if char = '\x7f' then "\\x7f".toList
  else if 0x80 ≤ char.toNat ∧ char.toNat ≤ 0x9F then Text.Quoted.byCodePoint char
  else [char]

/-- The written form of an item. -/
def Item.write : Item → String
  | .value name written => name ++ "=" ++ written
  | .remark content => String.ofList (content.toList.flatMap harmless)

/-- The line of a record, without the time. -/
def Record.line (record : Record) : String :=
  record.level.word ++ " " ++ record.speaker.address ++ ": " ++
    " ".intercalate (record.message :: record.items.map Item.write)

/-- Whether a journal that is `verbose` or not keeps records of this level. -/
def Level.isKept (verbose : Bool) : Level → Bool
  | .warn | .info => true
  | .debug => verbose

/-- The lines that a journal file gains from some records. A written value may hold line
breaks, so one record can make several lines. -/
def lines (verbose : Bool) (records : List Record) : List String :=
  (records.filter (·.level.isKept verbose)).flatMap fun record =>
    (record.line.toList.splitOn '\n').map String.ofList

end DatasetPicker.Journal
