import Mathlib
import Promptbook.Proofs.Entries
import Promptbook.Proofs.Render.Cuts
import Promptbook.Render.Prompt

/-!
# What rendering comes to

Rendering fails exactly if a required input is `Lacking`, and names all such inputs in the order in which they are
declared, unless the prompt has no key to be named by (`refusal_eq`).  Otherwise both templates keep their literal
texts, and `Puts` says what stands in the places of their placeholders.  All of it depends on the inputs only through
the values of the required names and of those that the templates use (`render_congr`).
-/

namespace Promptbook

open Promptbook.Number Promptbook.Template Promptbook.Text

/-- The names of the placeholders in the templates of a prompt, in order, the system template first. -/
def Prompt.usedPlaceholders (p : Prompt) : List String :=
  names p.system ++ names p.user

namespace Render

/-- An input is not supplied, comes without a value, or holds nothing but blanks. -/
def Lacking (inputs : Inputs) (name : String) : Prop :=
  inputs.get? name = none ∨ inputs.get? name = some none ∨
    ∃ value, inputs.get? name = some (some value) ∧ allBlank value.toList = true

/-- What is put in the place of each placeholder: a value that is not empty, between its markers if these are asked
for; nothing for an input without text; and nothing or the placeholder itself for a name that is neither declared nor
supplied. -/
structure Puts (p : Prompt) (options : RenderOptions) (inputs : Inputs) (put : String → String) : Prop where
  value : ∀ name value, inputs.get? name = some (some value) → value ≠ "" →
    put name = if options.safeDelimit then delimit value else value
  empty : ∀ name, inputs.get? name = some none ∨ inputs.get? name = some (some "") → put name = ""
  declared : ∀ name ∈ p.inputs.declared, inputs.get? name = none → put name = ""
  unresolved : ∀ name ∉ p.inputs.declared, inputs.get? name = none →
    put name = if options.stripUnresolved then "" else mention name

section Inputs

variable {p : Prompt} {options : RenderOptions} {inputs others : Inputs} {name : String}

theorem inputText_of_get? {value : Option String} (h : inputs.get? name = some value) :
    inputText inputs name = value.getD "" := by
  rw [inputText, h]
  rfl

theorem inputText_of_get?_none (h : inputs.get? name = none) : inputText inputs name = "" := by
  rw [inputText, h]
  rfl

theorem lacking_iff : Lacking inputs name ↔ isSupplied inputs name = false := by
  rw [Lacking, isSupplied, Bool.not_eq_false']
  rcases hget : inputs.get? name with _ | _ | value
  · simp [inputText_of_get?_none hget, allBlank]
  · simp [inputText_of_get? hget, allBlank]
  · simp [inputText_of_get? hget]

instance : Decidable (Lacking inputs name) :=
  decidable_of_iff _ lacking_iff.symm

theorem replacement?_eq_none_iff :
    replacement? p options inputs name = none ↔ inputs.get? name = none ∧ name ∉ p.inputs.declared := by
  rw [replacement?]
  split
  · next h =>
    simp only [Bool.or_eq_true, List.contains_iff_mem] at h
    simp only [reduceCtorEq, false_iff, not_and, not_not]
    intro hget
    exact h.resolve_left (by simp [Entries.has, hget])
  · next h =>
    simp only [Bool.or_eq_true, List.contains_iff_mem, not_or] at h
    refine iff_of_true rfl ⟨?_, h.2⟩
    simpa [Entries.has] using h.1

theorem replacement?_of_supplied {value : Option String} (h : inputs.get? name = some value) :
    replacement? p options inputs name =
      some (if options.safeDelimit && !(value.getD "").isEmpty then delimit (value.getD "") else value.getD "") := by
  simp [replacement?, inputText_of_get? h, Entries.has, h]

theorem replacement?_of_declared (hget : inputs.get? name = none) (h : name ∈ p.inputs.declared) :
    replacement? p options inputs name = some "" := by
  simp [replacement?, inputText_of_get?_none hget, h]

/-- Rendering puts in what `Puts` says. -/
theorem puts_standIn : Puts p options inputs (standIn (replacement? p options inputs) options.stripUnresolved) where
  value := by
    intro name value hget hne
    rw [standIn, replacement?_of_supplied hget]
    simp [hne]
  empty := by
    rintro name (hget | hget)
    · rw [standIn, replacement?_of_supplied hget]
      simp
    · rw [standIn, replacement?_of_supplied hget]
      simp
  declared := by
    intro name hname hget
    rw [standIn, replacement?_of_declared hget hname, Option.getD_some]
  unresolved := by
    intro name hname hget
    rw [standIn, replacement?_eq_none_iff.2 ⟨hget, hname⟩, Option.getD_none]

theorem isSupplied_congr (h : inputs.get? name = others.get? name) :
    isSupplied inputs name = isSupplied others name := by
  rw [isSupplied, isSupplied, inputText, inputText, h]

theorem replacement?_congr (h : inputs.get? name = others.get? name) :
    replacement? p options inputs name = replacement? p options others name := by
  rw [replacement?, replacement?, inputText, inputText, Entries.has, Entries.has, h]

theorem missingInputs_eq_filter :
    missingInputs p inputs = p.inputs.required.filter fun name => Lacking inputs name := by
  refine List.filter_congr fun name _ => ?_
  rw [Bool.eq_iff_iff, decide_eq_true_iff, lacking_iff, Bool.not_eq_true']

end Inputs

/-! ### Rendered prompts -/

theorem render_of_supplied {p : Prompt} {inputs : Inputs}
    (h : ∀ name ∈ p.inputs.required, isSupplied inputs name = true) (options : RenderOptions) :
    p.render options inputs = .ok ⟨fill p.system (replacement? p options inputs) options.stripUnresolved,
      fill p.user (replacement? p options inputs) options.stripUnresolved, p.models.head?, p.params⟩ := by
  have hnone : missingInputs p inputs = [] := by
    rw [missingInputs, List.filter_eq_nil_iff]
    intro name hname
    simp [h name hname]
  simp [Prompt.render, hnone]

variable {p : Prompt} {inputs others : Inputs}

/-- Without required inputs that lack, rendering gives the templates with the values put in. -/
theorem render_of_not_lacking (h : ∀ name ∈ p.inputs.required, ¬ Lacking inputs name) (options : RenderOptions) :
    p.render options inputs = .ok ⟨fill p.system (replacement? p options inputs) options.stripUnresolved,
      fill p.user (replacement? p options inputs) options.stripUnresolved, p.models.head?, p.params⟩ := by
  refine render_of_supplied (fun name hname => ?_) options
  rw [← Bool.not_eq_false, ← lacking_iff]
  exact h name hname

theorem render_of_lacking (h : ∃ name ∈ p.inputs.required, Lacking inputs name) (options : RenderOptions) :
    p.render options inputs =
      .error (refusal p (p.inputs.required.filter fun name => Lacking inputs name)) := by
  obtain ⟨name, hname, hlacking⟩ := h
  have hmem : name ∈ missingInputs p inputs := by
    rw [missingInputs_eq_filter]
    simpa using ⟨hname, hlacking⟩
  have hsome : (missingInputs p inputs).isEmpty = false := by
    rw [List.isEmpty_eq_false_iff]
    exact List.ne_nil_of_mem hmem
  rw [← missingInputs_eq_filter]
  simp [Prompt.render, hsome]

/-- A refused prompt is named by its key, if it has one. -/
theorem refusal_eq (p : Prompt) (missing : List String) :
    refusal p missing =
      if isLong p.version then .misuse .integerTooLongToWrite
      else .missingInputs (Key.text p.id p.version none) missing := by
  cases hlong : isLong p.version with
  | false => rw [refusal, Prompt.baseKey, Key.build_of_short hlong, if_neg Bool.false_ne_true]
  | true => rw [refusal, Prompt.baseKey, Key.build_of_long hlong, if_pos rfl]

/-- Rendering depends on the values of the required names and of those that the templates use only. -/
theorem render_congr (h : ∀ name ∈ p.inputs.required ++ p.usedPlaceholders, inputs.get? name = others.get? name)
    (options : RenderOptions) : p.render options inputs = p.render options others := by
  have hrequired : missingInputs p inputs = missingInputs p others :=
    List.filter_congr fun name hname => by rw [isSupplied_congr (h name (List.mem_append_left _ hname))]
  have hused : ∀ name ∈ p.usedPlaceholders, replacement? p options inputs name = replacement? p options others name :=
    fun name hname => replacement?_congr (h name (List.mem_append_right _ hname))
  have hsystem := fill_congr (fun name hname => hused name (List.mem_append_left _ hname)) options.stripUnresolved
  have huser := fill_congr (fun name hname => hused name (List.mem_append_right _ hname)) options.stripUnresolved
  simp only [Prompt.render, hrequired, hsystem, huser]

/-- Rendering fails exactly if a required input lacks, and then names all that do, under the key of the prompt; a
prompt without a key cannot be named, and fails with that.  Otherwise rendering puts the values in the places of the
placeholders and changes nothing else.  Neither the order of the inputs nor inputs that are neither required nor used
by a template count. -/
theorem render_outcome (p : Prompt) (options : RenderOptions) (inputs : Inputs) :
    ((∃ failure, p.render options inputs = .error failure) ↔ ∃ name ∈ p.inputs.required, Lacking inputs name) ∧
      (∀ failure, p.render options inputs = .error failure →
        failure = if isLong p.version then .misuse .integerTooLongToWrite
          else .missingInputs (Key.text p.id p.version none)
            (p.inputs.required.filter fun name => Lacking inputs name)) ∧
      ((∀ name ∈ p.inputs.required, ¬ Lacking inputs name) →
        ∃ put, Puts p options inputs put ∧ ∃ system user : Cut, system.Of p.system ∧ user.Of p.user ∧
          p.render options inputs = .ok ⟨system.text put, user.text put, p.models.head?, p.params⟩) ∧
      (∀ others : Inputs,
        (∀ name ∈ p.inputs.required ++ p.usedPlaceholders, inputs.get? name = others.get? name) →
          p.render options inputs = p.render options others) ∧
      ∀ table others : Table (Option String), table.entries.Perm others.entries →
        p.render options table.entries = p.render options others.entries := by
  have hfails : ∀ failure, p.render options inputs = .error failure →
      (∃ name ∈ p.inputs.required, Lacking inputs name) ∧
        failure = refusal p (p.inputs.required.filter fun name => Lacking inputs name) := by
    intro failure hfailure
    by_cases hlacking : ∃ name ∈ p.inputs.required, Lacking inputs name
    · rw [render_of_lacking hlacking] at hfailure
      exact ⟨hlacking, (Except.error.inj hfailure).symm⟩
    · push Not at hlacking
      rw [render_of_not_lacking hlacking] at hfailure
      cases hfailure
  refine ⟨⟨?_, ?_⟩, ?_, ?_, ?_, ?_⟩
  · rintro ⟨failure, hfailure⟩
    exact (hfails failure hfailure).1
  · exact fun hlacking => ⟨_, render_of_lacking hlacking options⟩
  · intro failure hfailure
    rw [(hfails failure hfailure).2, refusal_eq]
  · intro hcomplete
    obtain ⟨system, hsystem⟩ := Cut.exists_of p.system
    obtain ⟨user, huser⟩ := Cut.exists_of p.user
    refine ⟨_, puts_standIn, system, user, hsystem, huser, ?_⟩
    rw [render_of_not_lacking hcomplete, hsystem.fill_eq, huser.fill_eq]
  · exact fun others hsame => render_congr hsame options
  · intro table others hperm
    exact render_congr (fun name _ => Table.get?_of_perm hperm name) options

/-- A prompt that takes one input, with a version that has one digit too many. -/
def unnamable : Prompt :=
  { Prompt.bare "a" (Int.ofNat longInteger) none with inputs := ⟨["city"], []⟩ }

/-- Without its input the prompt is refused, but not for the missing input. -/
theorem lacking_hidden_of_long_version :
    (∃ name ∈ unnamable.inputs.required, Lacking [] name) ∧
      ¬∃ key missing, unnamable.render .standard [] = .error (.missingInputs key missing) := by
  have hlacking : ∃ name ∈ unnamable.inputs.required, Lacking [] name := ⟨"city", List.mem_singleton_self _, .inl rfl⟩
  refine ⟨hlacking, ?_⟩
  rintro ⟨key, missing, hrender⟩
  have hlong : isLong unnamable.version = true := isLong_longInteger
  rw [render_of_lacking hlacking, refusal_eq, if_pos hlong] at hrender
  cases hrender

end Render
end Promptbook
