/-!
# Environments

Where the library runs, read from two environment variables: which environment it is and from which rank on
log records are written.  Names that mean nothing count as production and as the rank of information.
-/

namespace Promptbook

/-- The name under which the core of the library is known. -/
def packageName : String := "promptkit.core"

/-- Where the library runs. -/
inductive Environment
  | development
  | production
deriving Repr, DecidableEq

namespace Environment

/-- The name of an environment. -/
def name : Environment → String
  | development => "dev"
  | production => "prod"

/-- The environment that a variable names. -/
def ofVariable : Option String → Environment
  | none => production
  | some value => if value = development.name then development else production

end Environment

/-- The ranks that a log level can name. -/
def levelRanks : List (String × Nat) :=
  [("CRITICAL", 50), ("FATAL", 50), ("ERROR", 40), ("WARN", 30), ("WARNING", 30), ("INFO", 20), ("DEBUG", 10),
    ("NOTSET", 0)]

/-- The rank of information. -/
def standardRank : Nat := 20

/-- The upper-case letter of a character, as far as it is an ASCII letter: the long s and the dotless i have
one. -/
def upperChar (c : Char) : Char :=
  if c == 'ſ' then 'S' else if c == 'ı' then 'I' else c.toUpper

/-- The rank from which on log records are written, where a variable names it. -/
def logRank (variable_ : Option String) : Nat :=
  match variable_ with
  | none => standardRank
  | some value =>
    let level := String.ofList (value.toList.map upperChar)
    ((levelRanks.find? fun r => r.1 == level).map (·.2)).getD standardRank

end Promptbook
