import Promptbook.Hash.Fnv
import Promptbook.Prompt.Record
import Promptbook.Value.Conversion

/-!
# Experiments

An experiment splits the callers of a prompt among named variants.  A caller's seed falls into one of a
hundred buckets; the variants take the buckets in order, each as many as its weight says, and the last variant
also takes the buckets that are left.
-/

namespace Promptbook

open Promptbook.Number Promptbook.Schema

/-- The number of buckets. -/
def bucketCount : Nat := 100

/-- The bucket of a seed under a key, which depends on the key, so that experiments do not pick the same seeds. -/
def bucketUnder (seed key : String) : Nat :=
  Hash.fnv (seed ++ ":" ++ key) % bucketCount

/-- The bucket of a seed for the experiment of an id and version. -/
def bucketFor (seed id : String) (version : Int) : Except Misuse Nat :=
  (Key.build id version none).map (bucketUnder seed)

theorem bucketFor_of_short {version : Int} (h : Number.isLong version = false) (seed id : String) :
    bucketFor seed id version = .ok (bucketUnder seed (Key.text id version none)) := by
  rw [bucketFor, Key.build_of_short h]
  rfl

theorem bucketUnder_lt (seed key : String) : bucketUnder seed key < bucketCount :=
  Nat.mod_lt _ (by decide)

/-- The variants of an experiment with their weights, in order. -/
structure Experiment where
  promptId : String
  version : Int
  weights : Entries Int
deriving Repr, DecidableEq

namespace Experiment

/-- The variant that takes a bucket, where the variants before it have taken the buckets below `taken`. -/
def pickFrom (taken bucket : Int) : Entries Int → Option String
  | [] => none
  | [(name, _)] => some name
  | (name, weight) :: next :: rest =>
    if bucket < taken + weight then some name else pickFrom (taken + weight) bucket (next :: rest)

/-- The variant that takes a bucket; only an experiment without variants leaves a bucket free. -/
def pick (e : Experiment) (bucket : Nat) : Option String :=
  pickFrom 0 bucket e.weights

/-- The experiment as a record. -/
def toRecord (e : Experiment) : Value :=
  .record experimentShape.model [
    Fields.fieldAs "prompt_id" "promptId" (.text e.promptId),
    Fields.field "version" (.int e.version),
    Fields.field "weights" (.table (e.weights.map fun w => (w.1, .int w.2)))]

/-- The experiment that a record holds. -/
def ofRecord? (v : Value) : Option Experiment := do
  return ⟨← v.fields.text? "prompt_id", ← v.fields.int? "version", ← v.fields.intTable? "weights"⟩

/-- Reads an experiment from the weights that a caller gives. -/
def read (id : String) (version : Int) (weights : Entries Value) : Except Failure Experiment :=
  readRecord experimentShape ofRecord?
    (.table [("prompt_id", .text id), ("version", .int version), ("weights", .table weights)])

/-- Adds a weight to a sum. -/
def addWeight (sum weight : Value) : Except Misuse Value :=
  match sum, weight with
  | .int m, .int n => .ok (.int (m + n))
  | .int m, .bool b => .ok (.int (m + if b then 1 else 0))
  | .int m, .float x => .ok (.float (ofInt m + x))
  | .float x, .int n => .ok (.float (x + ofInt n))
  | .float x, .bool b => .ok (.float (x + ofInt (if b then 1 else 0)))
  | .float x, .float y => .ok (.float (x + y))
  | sum, weight => .error (.notAddable sum.typeName weight.qualifiedTypeName)

/-- The sum of weights. -/
def totalWeight (weights : Entries Value) : Except Misuse Value :=
  weights.values.foldlM addWeight (.int 0)

/-- Is the sum of weights the number of buckets? -/
def isFull : Value → Bool
  | .int n => n == bucketCount
  | .float x => isIntegral x && truncate? x == some (Int.ofNat bucketCount)
  | _ => false

end Experiment
end Promptbook
