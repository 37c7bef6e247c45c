import Promptbook.Entries
import Promptbook.Failure.Basic
import Promptbook.Text.Utf8

/-!
# Log records and spans

What the library reports about its work.  A log record is an event with a level and fields.  A span covers one
piece of work: it has attributes, and after a failure a status and an event.  A `Journal` holds both in the
order in which they came.
-/

namespace Promptbook

open Promptbook.Text

/-- The levels of log records. -/
inductive Level
  | debug
  | info
  | warning
  | error
  | critical
deriving Repr, DecidableEq

/-- The name of a level. -/
def Level.name : Level → String
  | debug => "debug"
  | info => "info"
  | warning => "warning"
  | error => "error"
  | critical => "critical"

/-- The rank of a level. -/
def Level.rank : Level → Nat
  | debug => 10
  | info => 20
  | warning => 30
  | error => 40
  | critical => 50

/-- A log record. -/
structure LogRecord where
  level : Level
  event : String
  fields : Entries Value
deriving Repr

/-- How a span ended. -/
inductive SpanStatus
  | unset
  | failed (description : String)
deriving Repr, DecidableEq

/-- A failure that a span has seen. -/
structure SpanEvent where
  name : String
  kind : String
  message : String
deriving Repr, DecidableEq

/-- A span. -/
structure Span where
  name : String
  attributes : Entries Value
  status : SpanStatus
  events : List SpanEvent
deriving Repr

/-- Log records and finished spans. -/
structure Journal where
  logs : List LogRecord
  spans : List Span
deriving Repr

namespace Journal

/-- The journal in which nothing is written yet. -/
def empty : Journal := ⟨[], []⟩

/-- The journal with one more log record. -/
def log (j : Journal) (r : LogRecord) : Journal :=
  { j with logs := j.logs ++ [r] }

/-- The journal with one more span. -/
def close (j : Journal) (s : Span) : Journal :=
  { j with spans := j.spans ++ [s] }

end Journal

namespace Span

/-- A span that has just begun. -/
def start (name : String) : Span := ⟨name, [], .unset, []⟩

/-- What stands before the key of an attribute. -/
def attributeOrigin : String := "promptkit:"

/-- The most attributes that a span has; a further one takes the place of the oldest. -/
def attributeLimit : Nat := 128

/-- The attribute that a value is by itself: a flag, a number or a text.  Bytes stand for the text they
encode. -/
def scalar? : Value → Option Value
  | .bytes data => (readUtf8 data).toOption.map fun cs => .text (String.ofList cs)
  | .bool b => some (.bool b)
  | .int n => some (.int n)
  | .float x => some (.float x)
  | .text s => some (.text s)
  | _ => none

/-- An item of an attribute that is a list: an attribute by itself, or nothing, for which bytes that are no
text stand too. -/
def item? : Value → Option Value
  | .null => some .null
  | .bytes data => some ((scalar? (.bytes data)).getD .null)
  | v => scalar? v

/-- Are the values other than nothing of one type? -/
def isUniform (items : List Value) : Bool :=
  match items.filter Value.isPresent with
  | [] => true
  | v :: vs => vs.all fun w => w.typeName == v.typeName

/-- The attribute that is a list of items. -/
def list? (items : List Value) : Option Value :=
  (items.mapM item?).bind fun items => if isUniform items then some (.list items) else none

/-- The attribute that a value is. -/
def attribute? : Value → Option Value
  | .list items => list? items
  | .tuple items => list? items
  | v => scalar? v

/-- Attributes with one more, which comes last. -/
def withAttribute (attributes : Entries Value) (key : String) (value : Value) : Entries Value :=
  let others := attributes.without key
  (if others.length < attributeLimit then others else others.drop 1) ++ [(key, value)]

/-- Sets an attribute; a value that can be none is left out. -/
def set (s : Span) (key : String) (value : Value) : Span :=
  match attribute? value with
  | some v => { s with attributes := withAttribute s.attributes (attributeOrigin ++ key) v }
  | none => s

/-- Sets attributes in order. -/
def setAll (s : Span) (attributes : Entries Value) : Span :=
  attributes.foldl (fun s e => s.set e.1 e.2) s

/-- Marks the end of work that went well. -/
def succeed (s : Span) : Span :=
  s.set "status" (.text "success")

/-- Marks the end of work that failed, given the kind and the text of the failure. -/
def fail (s : Span) (kind message : String) : Span :=
  { s.set "status" (.text "error") with
    status := .failed message
    events := s.events ++ [⟨"exception", kind, message⟩] }

/-- The log record of work that failed, given the text of the failure. -/
def failureRecord (name message : String) : LogRecord :=
  ⟨.debug, "span failed", [("span", .text name), ("error", .text message)]⟩

end Span
end Promptbook
