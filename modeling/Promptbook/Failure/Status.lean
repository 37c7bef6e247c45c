/-!
# Statuses

The closed list of statuses by which failures are classified, with the name of each and the code under which
it is reported over HTTP.  `ofName?_name`: the names are distinct.
-/

namespace Promptbook

/-- The class of a failure. -/
inductive Status
  | ok
  | unknown
  | invalidArgument
  | notFound
  | failedPrecondition
  | internal
deriving Repr, DecidableEq

namespace Status

/-- All statuses. -/
def all : List Status :=
  [ok, unknown, invalidArgument, notFound, failedPrecondition, internal]

/-- The name of a status. -/
def name : Status → String
  | ok => "OK"
  | unknown => "UNKNOWN"
  | invalidArgument => "INVALID_ARGUMENT"
  | notFound => "NOT_FOUND"
  | failedPrecondition => "FAILED_PRECONDITION"
  | internal => "INTERNAL"

/-- The code that an HTTP response carries for a status. -/
def httpCode : Status → Nat
  | ok => 200
  | unknown => 500
  | invalidArgument => 400
  | notFound => 404
  | failedPrecondition => 400
  | internal => 500

/-- The status with a name. -/
def ofName? (name : String) : Option Status :=
  all.find? fun status => status.name == name

theorem ofName?_name (status : Status) : ofName? status.name = some status := by
  cases status <;> decide +kernel

end Status
end Promptbook
