import Promptbook.Proofs.Prompt.Builtin
import Promptbook.Proofs.Run.Stages
import Promptbook.Proofs.Schema.Projection

/-!
# Built-in prompts get what they need

A built-in prompt declares the inputs that its schema reads, and its templates use no others
(`declares_of_mem_builtinInterfaces`).  So validated inputs supply every placeholder: rendering stops at blank inputs
or leaves no placeholder, and whether unresolved ones are dropped does not matter (`render_of_supplied_placeholders`).
For all prompts of the catalog this is `rendering_of_validated`.
-/

namespace Promptbook

open Promptbook.Schema Promptbook.Template

/-! ### Placeholders with a text -/

/-- What stands in the place of a placeholder whose input has a text. -/
def Render.shownText (options : RenderOptions) (text : String) : String :=
  if options.safeDelimit && !text.isEmpty then Render.delimit text else text

theorem get?_renderingTexts {inputs : Entries Value} {name text : String}
    (h : (inputTexts inputs).get? name = some text) : (renderingTexts inputs).get? name = some (some text) := by
  rw [renderingTexts, Entries.get?_map, h]
  rfl

theorem keys_inputTexts (inputs : Entries Value) : (inputTexts inputs).keys = inputs.keys :=
  Entries.keys_map inputs fun e => e.2.inputText

/-- A template is filled with whatever stands in the places of its own names. -/
theorem Template.Cut.Of.fill_eq_text {s : Cut} {template : String} (hs : s.Of template)
    {value? : String → Option String} {dropUnresolved : Bool} {put : String → String}
    (hput : ∀ name ∈ Template.names template, standIn value? dropUnresolved name = put name) :
    fill template value? dropUnresolved = s.text put := by
  rw [hs.fill_eq]
  exact Cut.text_congr fun name hname => hput name (hs.names_eq ▸ hname)

/-- If the inputs have a text for every placeholder and no required one is blank, then the templates are rendered with
these texts, whether unresolved placeholders are dropped or not. -/
theorem render_of_supplied_placeholders {p : Prompt} {inputs : Entries Value} (hcomplete : p.blankInputs inputs = [])
    (hused : ∀ name ∈ p.usedPlaceholders, ∃ text, (inputTexts inputs).get? name = some text)
    (options : RenderOptions) :
    ∃ put, (∀ name ∈ p.usedPlaceholders, ∃ text, (inputTexts inputs).get? name = some text ∧
        put name = Render.shownText options text) ∧
      ∃ system user : Cut, system.Of p.system ∧ user.Of p.user ∧ ∀ strip,
        p.render { options with stripUnresolved := strip } (renderingTexts inputs) =
          .ok ⟨system.text put, user.text put, p.models.head?, p.params⟩ := by
  obtain ⟨system, hsystem⟩ := Cut.exists_of p.system
  obtain ⟨user, huser⟩ := Cut.exists_of p.user
  let put := standIn (Render.replacement? p options (renderingTexts inputs)) false
  have hput : ∀ strip name text, (inputTexts inputs).get? name = some text →
      standIn (Render.replacement? p options (renderingTexts inputs)) strip name = Render.shownText options text := by
    intro strip name text htext
    rw [standIn, Render.replacement?_of_supplied (get?_renderingTexts htext)]
    rfl
  have hsame : ∀ strip, ∀ name ∈ p.usedPlaceholders,
      standIn (Render.replacement? p options (renderingTexts inputs)) strip name = put name := by
    intro strip name hname
    obtain ⟨text, htext⟩ := hused name hname
    exact (hput strip name text htext).trans (hput false name text htext).symm
  refine ⟨put, fun name hname => ?_, system, user, hsystem, huser, fun strip => ?_⟩
  · obtain ⟨text, htext⟩ := hused name hname
    exact ⟨text, htext, hput false name text htext⟩
  · have hfillSystem :
        fill p.system (Render.replacement? p options (renderingTexts inputs)) strip = system.text put :=
      hsystem.fill_eq_text fun name hname => hsame strip name (List.mem_append_left _ hname)
    have hfillUser : fill p.user (Render.replacement? p options (renderingTexts inputs)) strip = user.text put :=
      huser.fill_eq_text fun name hname => hsame strip name (List.mem_append_right _ hname)
    rw [← hfillSystem, ← hfillUser, Prompt.render, missingInputs_renderingTexts, hcomplete, List.isEmpty_nil,
      if_pos rfl]
    rfl

/-! ### The prompts of the catalog -/

namespace Catalog

/-- A prompt declares the inputs that its schema reads, under the same names and in the same order, and its templates
use no others. -/
structure Interface.Declares (i : Interface) (input : Shape) : Prop where
  declared : i.inputs.declared = input.wireNames
  used : ∀ name ∈ i.placeholders, name ∈ i.inputs.declared

theorem declares_of_mem_builtinInterfaces {i : Interface} (h : i ∈ builtinInterfaces) :
    ∃ shapes, Entries.get? SchemaBook.builtin i.parts.id = some shapes ∧ i.Declares shapes.input := by
  simp only [builtinInterfaces, siteCopyInterface, List.mem_cons, List.not_mem_nil, or_false] at h
  rcases h with rfl | rfl | rfl | rfl | rfl <;> exact ⟨_, rfl, by decide, by decide⟩

/-- The inputs that the schema of a built-in prompt reads are those that the prompt declares. -/
theorem declares_of_prompts {ps : List Prompt} (hps : prompts = .ok ps) {p : Prompt} (hp : p ∈ ps) :
    ∃ shapes, Entries.get? SchemaBook.builtin p.id = some shapes ∧ (interfaceOf p).Declares shapes.input := by
  have hmem : interfaceOf p ∈ builtinInterfaces := interfaces_of_prompts hps ▸ List.mem_map_of_mem hp
  exact declares_of_mem_builtinInterfaces hmem

/-- The prompts of the catalog are rendered with whatever inputs their schemas accept.  These inputs can be written;
they have a text for each declared name and for no other.  Rendering names the required inputs whose text is blank, if
there are any; otherwise all placeholders are replaced, and dropping unresolved ones changes nothing. -/
theorem rendering_of_validated :
    ∃ ps, prompts = .ok ps ∧ ∀ p ∈ ps, ∀ raw inputs, SchemaBook.builtin.validateInput p.id raw = .ok inputs →
      ∀ options : RenderOptions, stringifyInputs inputs = .ok (inputTexts inputs) ∧
        (inputTexts inputs).keys = p.inputs.declared ∧
        (p.blankInputs inputs ≠ [] ∧ (∃ key, p.baseKey = .ok key ∧
            p.render options (renderingTexts inputs) = .error (.missingInputs key (p.blankInputs inputs))) ∨
          p.blankInputs inputs = [] ∧ ∃ put, (∀ name ∈ p.usedPlaceholders,
              ∃ text, (inputTexts inputs).get? name = some text ∧ put name = Render.shownText options text) ∧
            ∃ system user : Cut, system.Of p.system ∧ user.Of p.user ∧ ∀ strip,
              p.render { options with stripUnresolved := strip } (renderingTexts inputs) =
                .ok ⟨system.text put, user.text put, p.models.head?, p.params⟩) := by
  obtain ⟨ps, hps, -⟩ := exists_interfaces
  refine ⟨ps, hps, fun p hp raw inputs hvalid options => ?_⟩
  obtain ⟨shapes, hshapes, hdeclares⟩ := declares_of_prompts hps hp
  have hshort := isLong_of_prompts hps p hp
  have hkeys : (inputTexts inputs).keys = p.inputs.declared := by
    rw [keys_inputTexts, (validateInput_self hshapes hvalid).1]
    exact hdeclares.declared.symm
  refine ⟨stringifyInputs_of_written (usable_of_validateInput hvalid).written, hkeys, ?_⟩
  by_cases hblank : p.blankInputs inputs = []
  · have hused : ∀ name ∈ p.usedPlaceholders, ∃ text, (inputTexts inputs).get? name = some text := by
      intro name hname
      have hkey : name ∈ (inputTexts inputs).keys := hkeys ▸ hdeclares.used name hname
      exact Option.ne_none_iff_exists'.1 (mt (Entries.get?_eq_none_iff _ _).1 (not_not.2 hkey))
    exact .inr ⟨hblank, render_of_supplied_placeholders hblank hused options⟩
  · refine .inl ⟨hblank, Key.text p.id p.version none, Key.build_of_short hshort _ _, ?_⟩
    rw [render_of_blank options hblank, hshort]
    rfl

/-- Inputs of marketing copy that leave out the services. -/
def bareInputs : Entries Value :=
  [("business_name", .text "Sweet Crumbs"), ("city", .text "Köln")]

/-- What templates get of these inputs. -/
def bareTexts : Entries Value :=
  [("businessName", .text "Sweet Crumbs"), ("city", .text "Köln"), ("services", .list []), ("tone", .text "friendly")]

/-- Marketing copy without services is refused, as the empty list of them is a blank text; with services it is
written. -/
theorem rendering_of_validated_copy :
    ∃ ps p, prompts = .ok ps ∧ p ∈ ps ∧ p.id = "site_copy" ∧
      SchemaBook.builtin.validateInput p.id bareInputs = .ok bareTexts ∧
      (∃ key, p.baseKey = .ok key ∧
        p.render .standard (renderingTexts bareTexts) = .error (.missingInputs key ["services"])) ∧
      SchemaBook.builtin.validateInput p.id copyInputs.entries = .ok copyTexts ∧
      ∃ rendered, ∀ strip,
        p.render { RenderOptions.standard with stripUnresolved := strip } (renderingTexts copyTexts) =
          .ok rendered := by
  obtain ⟨ps, hps, hrendering⟩ := rendering_of_validated
  have hcopy : siteCopyInterface none ∈ ps.map interfaceOf := by
    rw [interfaces_of_prompts hps]
    decide
  obtain ⟨p, hp, hinterface⟩ := List.mem_map.1 hcopy
  have hid : p.id = "site_copy" := congrArg (fun i => i.parts.id) hinterface
  have hinputs : p.inputs = ⟨["businessName", "city", "services", "tone"], []⟩ := congrArg Interface.inputs hinterface
  have hbare : SchemaBook.builtin.validateInput p.id bareInputs = .ok bareTexts := by
    rw [hid]
    rfl
  have hfull : SchemaBook.builtin.validateInput p.id copyInputs.entries = .ok copyTexts := by
    rw [hid]
    rfl
  have hblank : p.blankInputs bareTexts = ["services"] := by
    rw [Prompt.blankInputs, hinputs]
    decide +kernel
  have hcomplete : p.blankInputs copyTexts = [] := by
    rw [Prompt.blankInputs, hinputs]
    decide +kernel
  refine ⟨ps, p, hps, hp, hid, hbare, ?_, hfull, ?_⟩
  · obtain ⟨-, -, ⟨-, herror⟩ | ⟨hnone, -⟩⟩ := hrendering p hp bareInputs bareTexts hbare .standard
    · rwa [hblank] at herror
    · rw [hblank] at hnone
      cases hnone
  · obtain ⟨-, -, ⟨hsome, -⟩ | ⟨-, put, -, system, user, -, -, hrender⟩⟩ :=
      hrendering p hp copyInputs.entries copyTexts hfull .standard
    · exact absurd hcomplete hsome
    · exact ⟨_, hrender⟩

end Catalog
end Promptbook
