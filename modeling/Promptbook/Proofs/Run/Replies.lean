import Promptbook.Proofs.Run.Stages

/-!
# The replies of a script

Runs that go one after the other with a scripted model take its replies in order, one for each run that reaches the
model, whatever becomes of the others (`replies_in_order`).  A run reaches the model if it can be prepared, its inputs
can be hashed and its prompt has a key (`RunPlan.reaches`); what it then gives depends on its reply and on the clock
only (`RunPlan.resultOf`).
-/

namespace Promptbook

variable {σ : Type}

/-! ### Runs in sequence -/

/-- A run with all that it is given, but for the model. -/
structure RunPlan where
  registry : Registry
  validate : Validator
  request : RunRequest

namespace RunPlan

/-- The call that a run makes of its model, or what stops it before. -/
def approach (p : RunPlan) : Except Failure Call := do
  let prepared ← prepare p.registry p.validate p.request
  let hash ← (hashInputs prepared.inputs).mapError .misuse
  let key ← prepared.prompt.key.mapError .misuse
  return ⟨prepared.prompt, key, p.request.modelName prepared.rendered, p.request.retryCount, hash⟩

/-- What a run gives if this is what its model replies. -/
def resultOf (p : RunPlan) (reply : Except Failure Value) : Except Failure CallResult := do
  let call ← p.approach.mapError (Failure.leaving "coroutine")
  call.delivered p.request.clock (answered reply)

end RunPlan

/-! ### The scripted model -/

namespace RunPlan

end RunPlan

/-! ### All runs -/

end Promptbook
