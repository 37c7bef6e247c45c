import Promptbook.Failure.Misuse
import Promptbook.Failure.Status
import Promptbook.Schema.Fault
import Promptbook.Text.Search

/-!
# Failures

Every way in which the library refuses, and the failures of collaborators that pass through it.  A failure is
its cause: kind, status, message, source and details are read off it.  The failures that carry a status are
the library's own; `Failure.status?` tells them apart.  A collaborator's failure has whatever text it gives of
itself, and giving it may fail in turn, so `Failure.text` and `Failure.report` may fail.
-/

namespace Promptbook

open Promptbook.Number Promptbook.Text Promptbook.Schema

/-- How a collaborator's failure passes on. -/
inductive Lineage
  /-- As the library's own failures do. -/
  | ordinary
  /-- As the signal that an iteration is over, which cannot leave a coroutine or a generator. -/
  | stop
  /-- As an interruption from outside, which no handler of failures takes. -/
  | interruption
deriving Repr, DecidableEq

/-- What a collaborator's failure is, but for its text: the short and the full name of its kind, how it passes on,
and how it looks inside another value. -/
structure Origin where
  kind : String
  path : String
  lineage : Lineage
  quoted : String
deriving Repr, DecidableEq

/-- A failure. -/
inductive Failure
  /-- A prompt document has a structural defect. -/
  | badDocument (message : String) (details : Value)
  /-- A prompt document has no proper metadata block. -/
  | badFrontmatter (message : String) (details : Value)
  /-- A prompt document lacks a mandatory field. -/
  | missingField (field : String)
  /-- A field of a prompt document holds an unusable value. -/
  | invalidField (field reason : String)
  /-- A prompt document lacks a section. -/
  | missingSection (section_ : String)
  /-- A text is no prompt key. -/
  | invalidKey (key : String)
  /-- No prompt is registered under a key. -/
  | promptNotFound (key : String)
  /-- Required inputs of a prompt are absent or blank. -/
  | missingInputs (key : String) (missing : List String)
  /-- No schema is registered for a prompt. -/
  | schemaNotFound (prompt : String)
  /-- Input or output data does not fit the schema of a prompt, for a reason that the text of its cause gives. -/
  | schemaViolation (prompt direction reason : String) (cause : Option Failure) (errors : List Value)
  /-- A failure of the library, or of a kind derived from the library's, with a free message, which may wrap
  another failure. -/
  | general (kind message : String) (status : Status) (source : Option String) (cause : Option Failure)
      (details : Value)
  /-- A value does not fit a record. -/
  | invalidRecord (model : String) (faults : List Fault)
  /-- A value was used as something that it is not. -/
  | misuse (m : Misuse)
  /-- A collaborator failed, with a text of its own or a failure to give one. -/
  | foreign (origin : Origin) (text : Except Failure String)
deriving Inhabited

namespace Failure

/-- The name of the kind of a failure. -/
def kindName : Failure → String
  | badDocument _ _ => "DocumentParseError"
  | badFrontmatter _ _ => "FrontmatterParseError"
  | missingField _ => "MissingFieldError"
  | invalidField _ _ => "InvalidFieldError"
  | missingSection _ => "MissingSectionError"
  | invalidKey _ => "InvalidPromptKeyError"
  | promptNotFound _ => "PromptNotFoundError"
  | missingInputs _ _ => "MissingInputsError"
  | schemaNotFound _ => "SchemaNotFoundError"
  | schemaViolation _ _ _ _ _ => "SchemaValidationError"
  | general kind _ _ _ _ _ => kind
  | invalidRecord _ _ => "ValidationError"
  | misuse m => m.kindName
  | foreign origin _ => origin.kind

/-- Is the failure one of reading a prompt document? -/
def isDocumentFailure : Failure → Bool
  | badDocument _ _ | badFrontmatter _ _ | missingField _ | invalidField _ _ | missingSection _ => true
  | _ => false

/-- The status of one of the library's own failures. -/
def status? : Failure → Option Status
  | badDocument _ _ | badFrontmatter _ _ | missingField _ | invalidField _ _ | missingSection _ =>
    some .invalidArgument
  | invalidKey _ => some .invalidArgument
  | promptNotFound _ => some .notFound
  | missingInputs _ _ => some .failedPrecondition
  | schemaNotFound _ => some .notFound
  | schemaViolation _ _ _ _ _ => some .invalidArgument
  | general _ _ status _ _ _ => some status
  | invalidRecord _ _ | misuse _ | foreign _ _ => none

/-- The part of the library that a failure comes from. -/
def source? : Failure → Option String
  | missingInputs _ _ => some "renderer"
  | schemaViolation _ _ _ _ _ => some "schemas"
  | general _ _ _ source _ _ => source
  | failure => if failure.isDocumentFailure then some "parser" else none

/-- The failure that a failure wraps. -/
def cause? : Failure → Option Failure
  | schemaViolation _ _ _ cause _ => cause
  | general _ _ _ _ cause _ => cause
  | _ => none

/-- A place inside a value, with points between its steps. -/
def placeText (path : List Step) : List Char :=
  joined ['.'] (path.map fun step => (Fault.stepValue step).shown)

/-- The faults of a record, one after the other. -/
def reportText (model : String) (faults : List Fault) : List Char :=
  let line (f : Fault) := '\n' :: placeText f.path ++ "\n  ".toList ++ f.kind.message.toList
  (FaultKind.counted faults.length "validation error").toList ++ " for ".toList ++ model.toList ++
    faults.flatMap line

/-- A message after its source and its status, where there are any. -/
def withOrigin (source : Option String) (status : Option Status) (message : List Char) : List Char :=
  match status with
  | none => message
  | some status =>
    let origin := match source with
      | some name => if name.isEmpty then [] else name.toList ++ [':', ' ']
      | none => []
    origin ++ status.name.toList ++ ':' :: ' ' :: message

/-- The message of a failure, without source and status. -/
def ownMessage : Failure → Except Failure (List Char)
  | badDocument message _ => .ok message.toList
  | badFrontmatter message _ => .ok message.toList
  | missingField field => .ok ("Prompt frontmatter missing required field: ".toList ++ field.toList)
  | invalidField field reason =>
    .ok ("Prompt frontmatter field \"".toList ++ field.toList ++ "\" ".toList ++ reason.toList)
  | missingSection name =>
    .ok ("Prompt body must contain a \"# ".toList ++ name.toList ++ "\" section".toList)
  | invalidKey key => .ok ("Invalid prompt key format: ".toList ++ quoted key.toList)
  | promptNotFound key => .ok ("Prompt not found: ".toList ++ key.toList)
  | missingInputs key missing =>
    .ok ("Missing required prompt inputs for \"".toList ++ key.toList ++ "\": ".toList ++
      commaJoined (missing.map String.toList))
  | schemaNotFound prompt => .ok ("No schema registered for prompt: ".toList ++ prompt.toList)
  | schemaViolation prompt direction reason _ _ =>
    .ok ("Invalid ".toList ++ direction.toList ++ " for prompt ".toList ++ prompt.toList ++
      ':' :: ' ' :: reason.toList)
  | general _ message _ _ _ _ => .ok message.toList
  | invalidRecord model faults => .ok (reportText model faults)
  | misuse m => .ok m.message
  | foreign _ text => text.map String.toList

/-- The full text of a failure: its message, after source and status if the failure is the library's own. -/
def text (failure : Failure) : Except Failure String :=
  failure.ownMessage.map fun message => String.ofList (withOrigin failure.source? failure.status? message)

/-- What callers are told: the message, or the name of the kind if there is no message. -/
def report (failure : Failure) : Except Failure String :=
  failure.ownMessage.map fun message =>
    if failure.status?.isNone && message.isEmpty then failure.kindName else String.ofList message

/-- The code that an HTTP response to a failure carries. -/
def httpCode (failure : Failure) : Nat :=
  ((failure.status?.map Status.httpCode).getD 500)

/-- Is the failure an interruption from outside, which is passed on but not handled? -/
def isInterruption : Failure → Bool
  | foreign origin _ => origin.lineage == .interruption
  | _ => false

/-- Is the failure the signal that an iteration is over? -/
def isStop : Failure → Bool
  | foreign origin _ => origin.lineage == .stop
  | _ => false

/-- What a failure becomes when it leaves a place, a coroutine or a generator: the signal that an iteration is
over is itself a failure there. -/
def leaving (place : String) (failure : Failure) : Failure :=
  if failure.isStop then misuse (.stopEscaped place) else failure

/-- The named parts of a failure. -/
def parts : Failure → Entries Value
  | missingField field => [("field", .text field)]
  | invalidField field _ => [("field", .text field)]
  | missingSection name => [("section", .text name)]
  | invalidKey key => [("key", .text key)]
  | promptNotFound key => [("prompt_key", .text key)]
  | missingInputs key missing => [("prompt_key", .text key), ("missing", .ofTexts missing)]
  | schemaNotFound prompt => [("prompt_id", .text prompt)]
  | schemaViolation prompt direction _ _ _ => [("prompt_id", .text prompt), ("direction", .text direction)]
  | _ => []

/-- The details that go with a failure; those of a failure with named parts are its parts. -/
def details : Failure → Value
  | schemaViolation prompt direction _ _ errors =>
    .table [("prompt_id", .text prompt), ("direction", .text direction), ("errors", .list errors)]
  | badDocument _ details | badFrontmatter _ details | general _ _ _ _ _ details => details
  | failure => .table failure.parts

/-- The entry of the details that holds the stack trace of a wrapped failure. -/
def traceKey : String := "stack"

/-- Do the details come with a stack trace?  A wrapped failure leaves one. -/
def hasTrace (failure : Failure) : Bool :=
  failure.cause?.isSome || (failure.details.entry? traceKey).isSome

/-- The faults that a schema violation lists. -/
def errors? : Failure → Option (List Value)
  | schemaViolation _ _ _ _ errors => some errors
  | _ => none

/-- Does the text of the failure hold a report of record faults? -/
def holdsReport (failure : Failure) : Bool :=
  match failure.cause? with
  | some (invalidRecord _ _) => true
  | _ => false

/-- Does a list, a set, a tuple or a table hold the key of the stack trace?  In other values no key can be
looked up. -/
def holdsTrace (details : Value) : Except Misuse Bool :=
  match details with
  | .table entries => .ok (Entries.has entries traceKey)
  | .list items | .tuple items | .set items =>
    .ok (items.any fun v => v.quoted == (Value.text traceKey).quoted)
  | .text s => .ok (holds traceKey.toList s.toList)
  | .record _ _ => .ok false
  | .bytes _ => .error (.notBytes (Value.text traceKey).typeName)
  | v => .error (.notIterable v.qualifiedTypeName)

/-- Checks that a stack trace can be put into details. -/
def checkTraceable (details : Value) : Except Misuse Unit :=
  match details with
  | .table _ => .ok ()
  | .list _ => .error .listIndex
  | v => .error (.notAssignable v.typeName)

/-- The status of a general failure: the given one, that of the wrapped failure, or the internal one. -/
def statusFor (status : Option String) (cause : Option Failure) : Except Misuse Status :=
  match status with
  | some name =>
    if name.isEmpty then .ok ((cause.bind status?).getD .internal)
    else match Status.ofName? name with
      | some status => .ok status
      | none => .error (.missingKey name)
  | none => .ok ((cause.bind status?).getD .internal)

/-- The details of a failure: empty ones count as an empty table, and those that wrap a failure must be able
to hold its stack trace. -/
def readyDetails (cause : Option Failure) (details : Value) : Except Misuse Value := do
  let details := if details.isTruthy then details else .table []
  let held ← holdsTrace details
  if cause.isSome && !held then checkTraceable details
  return details

/-- A failure with a free message. -/
def ofMessage (kind message : String) (status source : Option String) (cause : Option Failure)
    (details : Value) : Except Misuse Failure := do
  return general kind message (← statusFor status cause) source cause (← readyDetails cause details)

/-- The failure of data that does not fit the schema of a prompt.  The text of the cause must be there. -/
def ofCause (prompt direction : String) (cause : Option Failure) (errors : List Value) :
    Except Failure Failure := do
  let reason ← match cause with
    | none => .ok "None"
    | some failure => failure.text
  return schemaViolation prompt direction reason cause errors

/-- The full name of the kind of a failure. -/
def kindPath (failure : Failure) : String :=
  match failure with
  | foreign origin _ => origin.path
  | failure =>
    if failure.status?.isSome then "promptkit.core.error." ++ failure.kindName else failure.kindName

/-- The text of a failure as far as JSON shows it; one that fails to give its text is known by its kind. -/
def shownText (failure : Failure) : String :=
  match failure.text with
  | .ok text => text
  | .error _ => "<Unserializable " ++ failure.kindName ++ " object>"

/-- A failure inside another value. -/
def quotedText (failure : Failure) : String :=
  match failure with
  | foreign origin _ => origin.quoted
  | failure => failure.kindName ++ "(" ++ String.ofList (quoted failure.shownText.toList) ++ ")"

/-- The failure as a value, of which kind and text can be seen. -/
def toValue (failure : Failure) : Value :=
  .thing ⟨failure.kindName, failure.kindPath, failure.shownText, failure.quotedText⟩

/-- The failure of a record that does not fit. -/
def ofFaults (model : String) (faults : List Fault) : Failure :=
  invalidRecord model faults

end Failure
end Promptbook
