import Promptbook.Prompt.Key

/-!
# Prompts

A prompt is a versioned pair of templates with the settings of the model call, the inputs that its templates
take and the format that the answer should have.  It is known by its id, its version and its variant.
-/

namespace Promptbook

/-- The formats that a prompt can ask for. -/
inductive OutputFormat
  | text
  | json
  | markdown
  | html
deriving Repr, DecidableEq

namespace OutputFormat

/-- All formats. -/
def all : List OutputFormat :=
  [text, json, markdown, html]

/-- The word for a format. -/
def word : OutputFormat → String
  | text => "text"
  | json => "json"
  | markdown => "markdown"
  | html => "html"

/-- The format that a word stands for. -/
def ofWord? (s : String) : Option OutputFormat :=
  all.find? fun format => format.word == s

theorem ofWord?_word (format : OutputFormat) : ofWord? format.word = some format := by
  cases format <;> decide +kernel

end OutputFormat

/-- The settings of a model call. -/
structure Params where
  temperature : Float
  maxTokens : Int
deriving Repr

/-- The temperature of a prompt that names none: three tenths. -/
def Params.defaultTemperature : Float :=
  Number.ofRatio false 3 10

/-- The token limit of a prompt that names none. -/
def Params.defaultMaxTokens : Int := 4096

/-- The names of the inputs that a prompt's templates take. -/
structure InputNames where
  required : List String
  optional : List String
deriving Repr, DecidableEq

/-- All names, the required ones first. -/
def InputNames.declared (names : InputNames) : List String :=
  names.required ++ names.optional

/-- What a prompt's answer should look like. -/
structure Outputs where
  format : OutputFormat
  schema : Option String
deriving Repr, DecidableEq

/-- A prompt. -/
structure Prompt where
  id : String
  version : Int
  variant : Option String
  description : String
  models : List String
  params : Params
  inputs : InputNames
  outputs : Outputs
  notes : Entries String
  system : String
  user : String
deriving Repr

namespace Prompt

/-- The key of a prompt. -/
def key (p : Prompt) : Except Misuse String :=
  Key.build p.id p.version p.variant

/-- The key of a prompt without its variant. -/
def baseKey (p : Prompt) : Except Misuse String :=
  Key.build p.id p.version none

/-- The prompt of an identity of which only the identity matters: it has empty templates and the settings of a
prompt that names none. -/
def bare (id : String) (version : Int) (variant : Option String) : Prompt where
  id := id
  version := version
  variant := variant
  description := ""
  models := []
  params := ⟨Params.defaultTemperature, Params.defaultMaxTokens⟩
  inputs := ⟨[], []⟩
  outputs := ⟨.text, none⟩
  notes := []
  system := ""
  user := ""

end Prompt
end Promptbook
