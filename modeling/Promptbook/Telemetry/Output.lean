import Promptbook.Environment
import Promptbook.Json.Basic
import Promptbook.Telemetry.Log

/-!
# Written log records

In production every log record becomes one line of JSON: the fields, then the event, the level and the time.
A key that is there already keeps its place.  Records below the rank of the environment are not written.
-/

namespace Promptbook

open Promptbook.Text

mutual

/-- The JSON tree of a logged value; what JSON cannot express is written as it stands inside other values. -/
def Value.logJson : Value → Json
  | .null => .null
  | .bool b => .bool b
  | .int n => .int n
  | .float x => .float x
  | .text s => .text s
  | .choice c => .text c.word
  | .list items => .list (logJsonItems items)
  | .tuple items => .list (logJsonItems items)
  | .table entries => .table (logJsonEntries entries)
  | v => .text (String.ofList v.quoted)

/-- The trees of items. -/
def logJsonItems : List Value → List Json
  | [] => []
  | v :: vs => v.logJson :: logJsonItems vs

/-- The trees of entries. -/
def logJsonEntries : List (String × Value) → List (String × Json)
  | [] => []
  | (k, v) :: es => (k, v.logJson) :: logJsonEntries es

end

/-- How log records are written. -/
inductive LogFormat
  | console
  | jsonLines
deriving Repr, DecidableEq

namespace LogFormat

/-- The name of a format. -/
def name : LogFormat → String
  | console => "ConsoleRenderer"
  | jsonLines => "JSONRenderer"

/-- The format of an environment. -/
def ofEnvironment : Environment → LogFormat
  | .development => console
  | .production => jsonLines

end LogFormat

namespace LogRecord

/-- Is the record written where records are written from a rank on? -/
def isWritten (rank : Nat) (r : LogRecord) : Bool :=
  rank ≤ r.level.rank

/-- The record with values that a logger is bound to; the record's own values win. -/
def bound (r : LogRecord) (values : Entries Value) : LogRecord :=
  { r with fields := values.putAll r.fields }

/-- The keys that ask for more about where a record comes from; they are not written themselves. -/
def requestKeys : List String := ["stack_info", "exc_info"]

/-- The entries of the record's line. -/
def lineEntries (r : LogRecord) (time : String) : Entries Value :=
  requestKeys.foldl Entries.without
    (((r.fields.put "event" (.text r.event)).put "level" (.text r.level.name)).put "logged_at" (.text time))

/-- The record's line. -/
def line (r : LogRecord) (time : String) : String :=
  (Value.table (r.lineEntries time)).logJson.toText .spaced

end LogRecord
end Promptbook
