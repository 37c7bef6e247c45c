import Promptbook.Prompt.Registry
import Promptbook.Proofs.Entries
import Promptbook.Proofs.Schema.Reading
import Promptbook.Proofs.Telemetry.Sessions

/-!
# Configuring an experiment

Weights are accepted if they can be summed and each of them is read as an integer (`accepted?`).  Then the experiment
with these integers is set and nothing else; otherwise, and for a version that is too long for a key, configuring
fails and leaves the registry as it was (`configure_cases`).  Weights that are integers are always accepted, as they
are (`accepted?_given`).
-/

namespace Promptbook

open Promptbook.Number Promptbook.Schema

namespace Experiment

/-- Integer weights in the form in which a caller gives them. -/
def given (weights : Entries Int) : Entries Value :=
  weights.map fun w => (w.1, .int w.2)

/-- The integers that weights are read as, if each of them is read as one. -/
def integers? (weights : Entries Value) : Option (Entries Int) :=
  weights.mapM fun w => (readInteger w.2).toOption.map fun n => (w.1, n)

theorem integers?_given (weights : Entries Int) : integers? (given weights) = some weights := by
  induction weights with
  | nil => rfl
  | cons w weights ih =>
    rw [integers?, given] at ih
    rw [integers?, given, List.map_cons, List.mapM_cons, ih]
    rfl

/-- The reading of one weight. -/
private def weightReading (w : String × Value) : Except (List Fault) (String × Value) :=
  (underStep (.key w.1) (anyInteger.read w.2)).map fun v => (w.1, v)

private theorem weightReading_eq_ok_iff {w e : String × Value} :
    weightReading w = .ok e ↔ ∃ n, readInteger w.2 = .ok n ∧ e = (w.1, .int n) := by
  rw [weightReading, anyInteger, Shape.read]
  cases readInteger w.2 with
  | error kind => simp [Bind.bind, Except.bind, atHere, underStep, Except.map, Except.mapError]
  | ok n => simp [Bind.bind, Except.bind, atHere, underStep, Except.map, Except.mapError, boundedInteger, eq_comm]

private theorem integers?_cons {w : String × Value} {weights : Entries Value} {integers : Entries Int} :
    integers? (w :: weights) = some integers ↔
      ∃ n rest, readInteger w.2 = .ok n ∧ integers? weights = some rest ∧ integers = (w.1, n) :: rest := by
  rw [integers?, List.mapM_cons]
  cases readInteger w.2 with
  | error kind => simp [Except.toOption]
  | ok n =>
    rw [← integers?]
    cases integers? weights <;> simp [Except.toOption, eq_comm]

private theorem collect_weightReadings {weights values : Entries Value} :
    collect (weights.map weightReading) = .ok values ↔
      ∃ integers, integers? weights = some integers ∧ values = given integers := by
  rw [collect_eq_ok_iff]
  induction weights generalizing values with
  | nil => simp [integers?, given]
  | cons w weights ih =>
    simp only [integers?_cons]
    cases values with
    | nil =>
      refine ⟨nofun, ?_⟩
      rintro ⟨integers, ⟨n, rest, -, -, rfl⟩, hvalues⟩
      cases hvalues
    | cons e values =>
      rw [List.map_cons, List.map_cons, List.cons.injEq, weightReading_eq_ok_iff, ih]
      constructor
      · rintro ⟨⟨n, hn, rfl⟩, rest, hrest, rfl⟩
        exact ⟨(w.1, n) :: rest, ⟨n, rest, hn, hrest, rfl⟩, rfl⟩
      · rintro ⟨integers, ⟨n, rest, hn, hrest, rfl⟩, hvalues⟩
        obtain ⟨rfl, rfl⟩ := List.cons.inj hvalues
        exact ⟨⟨n, hn, rfl⟩, rest, hrest, rfl⟩

/-- A table of weights is read as one of integers. -/
private theorem read_weights {weights : Entries Value} {v : Value} :
    (Shape.table anyInteger).read (.table weights) = .ok v ↔
      ∃ integers, integers? weights = some integers ∧ v = .table (given integers) := by
  have hread : (Shape.table anyInteger).read (.table weights) = (collect (weights.map weightReading)).map .table := by
    rw [Shape.read]
    rfl
  rw [hread]
  constructor
  · intro h
    cases hcollect : collect (weights.map weightReading) with
    | error faults =>
      rw [hcollect] at h
      cases h
    | ok values =>
      rw [hcollect] at h
      obtain ⟨integers, hintegers, rfl⟩ := collect_weightReadings.1 hcollect
      exact ⟨integers, hintegers, (Except.ok.inj h).symm⟩
  · rintro ⟨integers, hintegers, rfl⟩
    rw [collect_weightReadings.2 ⟨integers, hintegers, rfl⟩]
    rfl

private theorem intTable_given (weights : Entries Int) :
    (given weights).mapM (fun e => (Fields.intOf? e.2).map fun n => (e.1, n)) = some weights := by
  induction weights with
  | nil => rfl
  | cons w weights ih =>
    rw [given] at ih
    rw [given, List.map_cons, List.mapM_cons, ih]
    rfl

/-- The input from which an experiment is read. -/
private def input (id : String) (version : Int) (weights : Entries Value) : Entries Value :=
  [("prompt_id", .text id), ("version", .int version), ("weights", .table weights)]

/-- The fields of the record that an experiment is read as. -/
private def recordFields (id : String) (version : Int) (weights : Entries Int) : Fields :=
  [Fields.fieldAs "prompt_id" "promptId" (.text id), Fields.field "version" (.int version),
    Fields.field "weights" (.table (given weights))]

private theorem lookUp_weights (id : String) (version : Int) (weights : Entries Value) :
    lookUp? (input id version weights) ⟨"weights", "weights", false⟩ = some ("weights", .table weights) := by
  simp [input, lookUp?, Entries.get?]

private theorem readFields_input (id : String) (version : Int) {weights : Entries Value} {integers : Entries Int}
    (h : integers? weights = some integers) :
    readFields [requiredAs "prompt_id" "promptId" anyText, Schema.required "version" anyInteger,
        Schema.required "weights" (.table anyInteger)] (input id version weights) =
      (recordFields id version integers).map .ok := by
  have hid : lookUp? (input id version weights) ⟨"prompt_id", "promptId", false⟩ = some ("prompt_id", .text id) := by
    simp [input, lookUp?, Entries.get?]
  have hversion : lookUp? (input id version weights) ⟨"version", "version", false⟩ =
      some ("version", .int version) := by
    simp [input, lookUp?, Entries.get?]
  rw [requiredAs, Schema.required, Schema.required, readFields_cons hid (read_anyText id),
    readFields_cons hversion (read_anyInteger version),
    readFields_cons (lookUp_weights id version weights) (read_weights.2 ⟨integers, h, rfl⟩)]
  rfl

/-- Weights that are read as integers make an experiment. -/
theorem read_of_integers (id : String) (version : Int) {weights : Entries Value} {integers : Entries Int}
    (h : integers? weights = some integers) : Experiment.read id version weights = .ok ⟨id, version, integers⟩ := by
  have hextra : extraEntries (input id version weights) [⟨⟨"prompt_id", "promptId", false⟩, none⟩,
      ⟨⟨"version", "version", false⟩, none⟩, ⟨⟨"weights", "weights", false⟩, none⟩] = [] := by
    simp [extraEntries, usedKeys, input, lookUp?, Entries.get?]
  have hread : experimentShape.read (.table (input id version weights)) =
      .ok (.record experimentShape.model (recordFields id version integers)) :=
    read_record_of_fields (readFields_input id version h) hextra
  have hrecord : ofRecord? (.record experimentShape.model (recordFields id version integers)) =
      some ⟨id, version, integers⟩ := by
    simp [ofRecord?, Value.fields, recordFields, Fields.text?, Fields.int?, Fields.intTable?, Fields.get?,
      Value.field?, Fields.fieldAs, Fields.field, intTable_given]
  rw [input] at hread
  rw [Experiment.read, readRecord, hread]
  simp only [hrecord]

/-- Weights of which one is not read as an integer make no experiment. -/
theorem read_of_no_integers (id : String) (version : Int) {weights : Entries Value} (h : integers? weights = none) :
    ∃ failure, Experiment.read id version weights = .error failure := by
  have hrefused : ∀ m, experimentShape.read (.table (input id version weights)) ≠ .ok m := by
    intro m hread
    obtain ⟨record, -, hparts⟩ := parts_of_read_record hread
    have hmem : named ⟨"weights", "weights", false⟩
        (underStep (.key "weights") ((Shape.table anyInteger).read (.table weights))) ∈ record.map .ok := by
      rw [← hparts]
      simp [readFields, Schema.required, lookUp_weights]
    obtain ⟨part, -, hpart⟩ := List.mem_map.1 hmem
    cases hweights : (Shape.table anyInteger).read (.table weights) with
    | error faults =>
      rw [hweights] at hpart
      cases hpart
    | ok v =>
      obtain ⟨integers, hintegers, -⟩ := read_weights.1 hweights
      rw [h] at hintegers
      cases hintegers
  rw [Experiment.read, readRecord]
  cases hread : experimentShape.read (.table (input id version weights)) with
  | ok m => exact absurd hread (hrefused m)
  | error faults =>
    rw [input] at hread
    rw [hread]
    exact ⟨_, rfl⟩

private theorem foldlM_addWeight (weights : Entries Int) (sum : Int) :
    (given weights).values.foldlM addWeight (.int sum) = .ok (.int (sum + weights.values.sum)) := by
  induction weights generalizing sum with
  | nil =>
    simp [given, Entries.values]
    rfl
  | cons w weights ih =>
    have hstep : (given (w :: weights)).values.foldlM addWeight (.int sum) =
        (given weights).values.foldlM addWeight (.int (sum + w.2)) := rfl
    rw [hstep, ih, Entries.values, Entries.values, List.map_cons, List.sum_cons, Int.add_assoc]

theorem totalWeight_given (weights : Entries Int) :
    totalWeight (given weights) = .ok (.int weights.values.sum) := by
  rw [totalWeight, foldlM_addWeight, Int.zero_add]

/-- The integers of weights that are accepted: they can be summed, and each of them is read as an integer. -/
def accepted? (weights : Entries Value) : Option (Entries Int) :=
  match totalWeight weights with
  | .error _ => none
  | .ok _ => integers? weights

theorem accepted?_given (weights : Entries Int) : accepted? (given weights) = some weights := by
  rw [accepted?, totalWeight_given]
  exact integers?_given weights

end Experiment

namespace Registry

/-- The experiment that weights make for an id and version, if they are accepted and the version fits in a key. -/
def configured? (id : String) (version : Int) (weights : Entries Value) : Option Experiment :=
  if isLong version then none else (Experiment.accepted? weights).map fun integers => ⟨id, version, integers⟩

/-- Is a state the one before configuring, but for a log record of the sum of the weights? -/
structure Noted (id : String) (version : Int) (s noted : SessionState Registry) : Prop where
  world_eq : noted.world = s.world
  journal_eq : noted.journal = s.journal ∨
    ∃ total, noted.journal = s.journal.log (weightRecord (Key.text id version none) total)

theorem run_reportTotal (id : String) (version : Int) (total : Value) (s : SessionState Registry) :
    ∃ noted, Noted id version s noted ∧
      (Session.run (reportTotal id version total) s = (.ok (), noted) ∨
        isLong version = true ∧
          ∃ failure, Session.run (reportTotal id version total) s = (.error failure, noted)) := by
  rw [reportTotal]
  cases Experiment.isFull total with
  | true => exact ⟨s, ⟨rfl, .inl rfl⟩, .inl rfl⟩
  | false =>
    cases hlong : isLong version with
    | false =>
      refine ⟨s.logged (weightRecord (Key.text id version none) total), ⟨rfl, .inr ⟨total, rfl⟩⟩, .inl ?_⟩
      simp only [Bool.false_eq_true, if_false, Session.run_bind, Session.run_ofMisuse, Key.build_of_short hlong,
        Except.mapError, Session.run_log]
    | true =>
      refine ⟨s, ⟨rfl, .inl rfl⟩, .inr ⟨rfl, .misuse .integerTooLongToWrite, ?_⟩⟩
      simp only [Bool.false_eq_true, if_false, Session.run_bind, Session.run_ofMisuse, Key.build_of_long hlong,
        Except.mapError]

theorem run_setExperiment_of_short {id : String} {version : Int} (h : isLong version = false) (e : Experiment)
    (s : SessionState Registry) :
    Session.run (setExperiment id version e) s =
      (.ok (), { s with world := s.world.withExperiment (Key.text id version none) e }) := by
  rw [setExperiment, Session.run_bind, Session.run_ofMisuse, Key.build_of_short h]
  simp only [Except.mapError, Session.run_bind, Session.run_world, Session.run_setWorld]

theorem run_setExperiment_of_long {id : String} {version : Int} (h : isLong version = true) (e : Experiment)
    (s : SessionState Registry) :
    Session.run (setExperiment id version e) s = (.error (.misuse .integerTooLongToWrite), s) := by
  rw [setExperiment, Session.run_bind, Session.run_ofMisuse, Key.build_of_long h]
  rfl

/-- Configuring either sets the experiment that the weights make, or fails and leaves the registry as it was.  In both
cases it may have logged the sum of the weights. -/
theorem configure_cases (id : String) (version : Int) (weights : Entries Value) (s : SessionState Registry) :
    ∃ noted, Noted id version s noted ∧
      ((∃ e, configured? id version weights = some e ∧
        Session.run (configure id version weights) s =
          (.ok (), { noted with world := s.world.withExperiment (Key.text id version none) e })) ∨
      (configured? id version weights = none ∧
        ∃ failure, Session.run (configure id version weights) s = (.error failure, noted))) := by
  rw [configured?, Experiment.accepted?, configure, Session.run_bind, Session.run_ofMisuse]
  cases Experiment.totalWeight weights with
  | error m => exact ⟨s, ⟨rfl, .inl rfl⟩, .inr ⟨ite_self none, _, rfl⟩⟩
  | ok total =>
    obtain ⟨noted, hnoted, hreport | ⟨hlong, failure, hreport⟩⟩ := run_reportTotal id version total s
    · refine ⟨noted, hnoted, ?_⟩
      simp only [Except.mapError, Session.run_bind, hreport, Session.run_ofExcept]
      cases hintegers : Experiment.integers? weights with
      | none =>
        obtain ⟨failure, hread⟩ := Experiment.read_of_no_integers id version hintegers
        exact .inr ⟨ite_self none, failure, by rw [hread]⟩
      | some integers =>
        rw [Experiment.read_of_integers id version hintegers]
        cases hlong : isLong version with
        | false =>
          refine .inl ⟨_, rfl, ?_⟩
          simp only [run_setExperiment_of_short hlong, hnoted.world_eq]
        | true => exact .inr ⟨rfl, _, run_setExperiment_of_long hlong _ _⟩
    · refine ⟨noted, hnoted, .inr ⟨if_pos hlong, failure, ?_⟩⟩
      simp only [Except.mapError, Session.run_bind, hreport]

theorem configured?_given {version : Int} (h : isLong version = false) (id : String) (weights : Entries Int) :
    configured? id version (Experiment.given weights) = some ⟨id, version, weights⟩ := by
  rw [configured?, Experiment.accepted?_given, h]
  rfl

/-- Weights that make an experiment set it. -/
theorem run_configure_of_some {id : String} {version : Int} {weights : Entries Value} {e : Experiment}
    (h : configured? id version weights = some e) (s : SessionState Registry) :
    (Session.run (configure id version weights) s).1 = .ok () ∧
      (Session.run (configure id version weights) s).2.world =
        s.world.withExperiment (Key.text id version none) e := by
  obtain ⟨noted, -, ⟨f, hsome, hrun⟩ | ⟨hnone, -⟩⟩ := configure_cases id version weights s
  · obtain rfl : e = f := Option.some.inj (h.symm.trans hsome)
    rw [hrun]
    exact ⟨rfl, rfl⟩
  · rw [h] at hnone
    cases hnone

/-- Other weights are refused, and the registry stays as it was. -/
theorem run_configure_of_none {id : String} {version : Int} {weights : Entries Value}
    (h : configured? id version weights = none) (s : SessionState Registry) :
    (∃ failure, (Session.run (configure id version weights) s).1 = .error failure) ∧
      (Session.run (configure id version weights) s).2.world = s.world := by
  obtain ⟨noted, hnoted, ⟨f, hsome, -⟩ | ⟨-, failure, hrun⟩⟩ := configure_cases id version weights s
  · rw [h] at hsome
    cases hsome
  · rw [hrun]
    exact ⟨⟨failure, rfl⟩, hnoted.world_eq⟩

end Registry
end Promptbook
