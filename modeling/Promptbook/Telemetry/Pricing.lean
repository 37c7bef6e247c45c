import Promptbook.Failure.Misuse
import Promptbook.Number.Binary64

/-!
# Prices

What a call costs, estimated from its token counts.  Models without a price cost nothing.
-/

namespace Promptbook.Pricing

open Promptbook.Number

/-- The prices of a thousand tokens that go in and that come out, in dollars. -/
structure Price where
  input : Float
  output : Float

/-- The decimal `digits · 10^exponent` as a price. -/
def dollars (amount : Nat) (exponent : Int) : Float :=
  ofDecimal false (digits amount) exponent

/-- The models with a price. -/
def prices : List (String × Price) :=
  [("@cf/meta/llama-3.1-8b-instruct", ⟨dollars 0 0, dollars 0 0⟩),
    ("@cf/meta/llama-3.1-70b-instruct", ⟨dollars 0 0, dollars 0 0⟩),
    ("gpt-4o", ⟨dollars 25 (-4), dollars 1 (-2)⟩),
    ("gpt-4o-mini", ⟨dollars 15 (-5), dollars 6 (-4)⟩)]

/-- The price of a model. -/
def priceOf (model : Option String) : Price :=
  ((model.bind fun name => prices.find? fun p => p.1 == name).map (·.2)).getD ⟨dollars 0 0, dollars 0 0⟩

/-- A token count in thousands. -/
def thousands (tokens : Int) : Except Misuse Float :=
  let x := ofRatio (tokens < 0) tokens.natAbs 1000
  if isFinite x then .ok x else .error .quotientTooLarge

/-- The estimated cost of a call in dollars. -/
def estimate (model : Option String) (inputTokens outputTokens : Int) : Except Misuse Float := do
  let price := priceOf model
  let input ← thousands inputTokens
  let output ← thousands outputTokens
  return input * price.input + output * price.output

end Promptbook.Pricing
