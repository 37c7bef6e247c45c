import Promptbook.Failure.Basic
import Promptbook.Prompt.Spec
import Promptbook.Render.Template
import Promptbook.Text.Blank

/-!
# Rendering prompts

`render` fills both templates of a prompt with input values.  Every required input must hold something other
than blanks.  Values come between markers, so that they can be told from the text of the template.
-/

namespace Promptbook

open Promptbook.Text

/-- How a prompt is rendered. -/
structure RenderOptions where
  /-- Put values between markers. -/
  safeDelimit : Bool
  /-- Drop the placeholders that no input is declared or supplied for. -/
  stripUnresolved : Bool
deriving Repr, DecidableEq

/-- Values between markers, unresolved placeholders kept. -/
def RenderOptions.standard : RenderOptions := ⟨true, false⟩

/-- Input values; a name may come with no value. -/
abbrev Inputs := Entries (Option String)

namespace Render

/-- The marker before a value. -/
def openMarker : String := "<<<USER_INPUT>>>"

/-- The marker after a value. -/
def closeMarker : String := "<<<END_USER_INPUT>>>"

/-- A value between its markers. -/
def delimit (value : String) : String :=
  openMarker ++ value ++ closeMarker

/-- The text of an input; an input without a value, or not supplied, is empty. -/
def inputText (inputs : Inputs) (name : String) : String :=
  ((inputs.get? name).join).getD ""

/-- Is an input supplied with something other than blanks? -/
def isSupplied (inputs : Inputs) (name : String) : Bool :=
  !allBlank (inputText inputs name).toList

/-- The required inputs that are not supplied, in order. -/
def missingInputs (p : Prompt) (inputs : Inputs) : List String :=
  p.inputs.required.filter fun name => !isSupplied inputs name

/-- What a placeholder is replaced by: the value of an input that is declared or supplied. -/
def replacement? (p : Prompt) (options : RenderOptions) (inputs : Inputs) (name : String) : Option String :=
  if inputs.has name || p.inputs.declared.contains name then
    let value := inputText inputs name
    some (if options.safeDelimit && !value.isEmpty then delimit value else value)
  else none

/-- The failure of a prompt whose required inputs are missing.  It names the prompt by its key. -/
def refusal (p : Prompt) (missing : List String) : Failure :=
  match p.baseKey with
  | .ok key => .missingInputs key missing
  | .error m => .misuse m

end Render

/-- The texts and settings of one model call. -/
structure Rendered where
  system : String
  user : String
  model : Option String
  params : Params
deriving Repr

/-- Renders a prompt with inputs. -/
def Prompt.render (p : Prompt) (options : RenderOptions) (inputs : Inputs) : Except Failure Rendered :=
  let missing := Render.missingInputs p inputs
  if missing.isEmpty then
    let fill template := Template.fill template (Render.replacement? p options inputs) options.stripUnresolved
    .ok ⟨fill p.system, fill p.user, p.models.head?, p.params⟩
  else .error (Render.refusal p missing)

/-- The names of placeholders that are not declared as inputs, in the order of their first use. -/
def Prompt.undeclaredPlaceholders (p : Prompt) : List String :=
  let used := Template.names p.system ++ Template.names p.user
  (used.filter fun name => !p.inputs.declared.contains name).eraseDups

end Promptbook
