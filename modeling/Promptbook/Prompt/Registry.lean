import Promptbook.Prompt.Experiment
import Promptbook.Telemetry.Session

/-!
# The registry

The registry holds prompts under their keys and experiments under the keys of the prompts that they split.  A
prompt registered under a present key takes the place of the one before.  The operations that write run in a
session whose state is the registry; a failure leaves what was written before it.
-/

namespace Promptbook

/-- Prompts and experiments. -/
structure Registry where
  prompts : Table Prompt
  experiments : Table Experiment
deriving Repr

namespace Registry

/-- The registry in which nothing is registered. -/
def empty : Registry := ⟨.empty, .empty⟩

/-- The registry with a prompt under a key. -/
def withPrompt (r : Registry) (key : String) (p : Prompt) : Registry :=
  { r with prompts := r.prompts.put key p }

/-- The registry with an experiment under a key. -/
def withExperiment (r : Registry) (key : String) (e : Experiment) : Registry :=
  { r with experiments := r.experiments.put key e }

/-- The log record of a registration. -/
def registerRecord (key : String) (replaced : Bool) : LogRecord :=
  ⟨.debug, "prompt registered", [("prompt_key", .text key), ("replaced", .bool replaced)]⟩

/-- Registers a prompt. -/
def register (p : Prompt) : Session Registry Unit := do
  let key ← Session.ofMisuse p.key
  let r ← Session.world
  Session.setWorld (r.withPrompt key p)
  Session.log (registerRecord key (r.prompts.has key))

/-- Registers prompts in order. -/
def registerAll : List Prompt → Session Registry Unit
  | [] => return ()
  | p :: ps => do
    register p
    registerAll ps

/-- Removes all prompts and experiments. -/
def clear : Session Registry Unit :=
  Session.setWorld .empty

/-- The prompt of an identity. -/
def resolveExact (r : Registry) (id : String) (version : Int) (variant : Option String) :
    Except Misuse (Option Prompt) :=
  (Key.build id version variant).map r.prompts.get?

theorem resolveExact_of_short {version : Int} (h : Number.isLong version = false) (r : Registry) (id : String)
    (variant : Option String) :
    r.resolveExact id version variant = .ok (r.prompts.get? (Key.text id version variant)) := by
  rw [resolveExact, Key.build_of_short h]
  rfl

theorem resolveExact_of_long {version : Int} (h : Number.isLong version = true) (r : Registry) (id : String)
    (variant : Option String) : r.resolveExact id version variant = .error .integerTooLongToWrite := by
  rw [resolveExact, Key.build_of_long h]
  rfl

/-- The prompt of an identity without a variant. -/
def resolve (r : Registry) (id : String) (version : Int) : Except Misuse (Option Prompt) :=
  r.resolveExact id version none

/-- All prompts, in the order in which their keys were first registered. -/
def listAll (r : Registry) : List Prompt :=
  r.prompts.values

/-- The prompts of an id without a variant, in the order of their versions. -/
def listVersions (r : Registry) (id : String) : List Prompt :=
  (r.listAll.filter fun p => p.id == id && p.variant.isNone).mergeSort fun p q => p.version ≤ q.version

/-- The later of two prompts; of two with one version the first. -/
def laterOf (best : Option Prompt) (p : Prompt) : Option Prompt :=
  match best with
  | none => some p
  | some b => if b.version < p.version then some p else some b

/-- The prompt of an id without a variant that has the highest version. -/
def resolveLatest (r : Registry) (id : String) : Option Prompt :=
  (r.listVersions id).foldl laterOf none

/-- The variants of an id and version. -/
def listVariants (r : Registry) (id : String) (version : Int) : List Prompt :=
  r.listAll.filter fun p => p.id == id && p.version == version && p.variant.isSome

/-- The log record of weights that leave buckets to the last variant or ask for too many. -/
def weightRecord (key : String) (total : Value) : LogRecord :=
  ⟨.warning, "variant weights do not sum to 100", [("prompt_key", .text key), ("total", total)]⟩

/-- Logs a sum of weights other than the number of buckets. -/
def reportTotal (id : String) (version : Int) (total : Value) : Session Registry Unit :=
  if Experiment.isFull total then return ()
  else do
    let key ← Session.ofMisuse (Key.build id version none)
    Session.log (weightRecord key total)

/-- Sets the experiment of an id and version. -/
def setExperiment (id : String) (version : Int) (e : Experiment) : Session Registry Unit := do
  let key ← Session.ofMisuse (Key.build id version none)
  let r ← Session.world
  Session.setWorld (r.withExperiment key e)

/-- Sets the experiment of an id and version from the weights that a caller gives.  Their sum is judged before
they turn out to be integers or not. -/
def configure (id : String) (version : Int) (weights : Entries Value) : Session Registry Unit := do
  let total ← Session.ofMisuse (Experiment.totalWeight weights)
  reportTotal id version total
  let e ← Session.ofExcept (Experiment.read id version weights)
  setExperiment id version e

/-- The experiment of an id and version. -/
def experiment? (r : Registry) (id : String) (version : Int) : Except Misuse (Option Experiment) :=
  (Key.build id version none).map r.experiments.get?

theorem experiment?_of_short {version : Int} (h : Number.isLong version = false) (r : Registry) (id : String) :
    r.experiment? id version = .ok (r.experiments.get? (Key.text id version none)) := by
  rw [experiment?, Key.build_of_short h]
  rfl

theorem experiment?_of_long {version : Int} (h : Number.isLong version = true) (r : Registry) (id : String) :
    r.experiment? id version = .error .integerTooLongToWrite := by
  rw [experiment?, Key.build_of_long h]
  rfl

/-- The variant that a seed is given. -/
def selectVariant (r : Registry) (id : String) (version : Int) (seed : String) :
    Except Misuse (Option String) := do
  match ← r.experiment? id version with
  | none => return none
  | some e => return e.pick (← bucketFor seed id version)

/-- The prompt of a selected variant, if one is selected. -/
def resolveSelected (r : Registry) (id : String) (version : Int) :
    Option String → Except Misuse (Option Prompt)
  | none => return none
  | some variant => r.resolveExact id version (some variant)

/-- The prompt that a seed is given: that of its variant, or else the one without a variant. -/
def resolveVariant (r : Registry) (id : String) (version : Int) (seed : String) :
    Except Misuse (Option Prompt) := do
  let variant ← r.selectVariant id version seed
  match ← r.resolveSelected id version variant with
  | some p => return some p
  | none => r.resolve id version

/-- The numbers of prompts, of keys without variant, and of experiments. -/
structure Stats where
  totalPrompts : Nat
  uniqueIds : Nat
  variantConfigs : Nat
deriving Repr, DecidableEq

/-- Counts what is registered. -/
def stats (r : Registry) : Except Misuse Stats := do
  let keys ← r.listAll.mapM Prompt.baseKey
  return ⟨r.prompts.length, keys.eraseDups.length, r.experiments.length⟩

end Registry
end Promptbook
