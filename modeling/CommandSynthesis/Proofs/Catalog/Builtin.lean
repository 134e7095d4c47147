import CommandSynthesis.Catalog.Builtin
import CommandSynthesis.Proofs.Synthesis.Sealed

set_option autoImplicit false

/-!
# Built-in templates are sealed

No value that is given to an input of a built-in template reaches the shell but as letters of a
word, and no selected value reaches it at all.
-/

namespace CommandSynthesis

namespace Catalog

theorem templates_register_of_fresh {catalog : Catalog} {template : Template}
    (fresh : template.id ∉ catalog.templates.map Template.id) :
    (catalog.register template).templates = catalog.templates ++ [template] := by
  rw [register_of_fresh (place?_eq_none_iff.mpr fresh)]
  exact Array.toList_push

theorem templates_foldl_register {catalog : Catalog} {templates : List Template}
    (distinct : ((catalog.templates ++ templates).map Template.id).Nodup) :
    (templates.foldl register catalog).templates = catalog.templates ++ templates := by
  induction templates generalizing catalog with
  | nil => exact (List.append_nil _).symm
  | cons first rest ih =>
    have fresh : first.id ∉ catalog.templates.map Template.id := by
      rw [List.map_append, List.nodup_append] at distinct
      intro taken
      exact distinct.2.2 _ taken _ (List.mem_map_of_mem List.mem_cons_self) rfl
    have registered : (catalog.register first).templates = catalog.templates ++ [first] :=
      templates_register_of_fresh fresh
    rw [List.foldl_cons, ih, registered, List.append_assoc, List.singleton_append]
    rw [registered, List.append_assoc, List.singleton_append]
    exact distinct

/-- Templates with different ids are all in the catalog that is made of them. -/
theorem templates_ofList {templates : List Template}
    (distinct : (templates.map Template.id).Nodup) : (ofList templates).templates = templates := by
  have grown : (ofList templates).templates = empty.templates ++ templates :=
    templates_foldl_register distinct
  exact grown

theorem templates_builtin : builtin.templates = Builtin.templates :=
  templates_ofList (by decide +kernel)

theorem isSealed_of_mem_builtin {template : Template} (registered : template ∈ builtin.templates) :
    template.isSealed = true := by
  have checked : ∀ template ∈ Builtin.templates, template.isSealed = true := by decide +kernel
  rw [templates_builtin] at registered
  exact checked template registered

/-- Whatever values are given, the command of a built-in template has the words of its text with the
selected bodies, each hole filled with the raw value of its input. No quote is open at the end, and
none where an entered value begins. The values of select inputs only select bodies. -/
theorem synthesize_builtin {template : Template} (registered : template ∈ builtin.templates)
    (bindings : Bindings) (strict : Bool) (now : Instant) :
    let command := (template.synthesize bindings strict now).command
    (Shell.placeAfter command.toList).isQuoted = false ∧
    (∃ words, Shell.Glyph.words? (template.skeleton (template.chosen bindings)) = some words ∧
      Shell.words? command.toList =
        some (Shell.Glyph.fillWords (template.rawValue bindings) words)) ∧
    (∀ before name value after,
      template.pieces bindings = before ++ .entered name value :: after →
      command = Piece.command before ++ (Shell.quoteString value ++ Piece.command after) ∧
        (Shell.placeAfter (Piece.command before).toList).isPlain = true) ∧
    (∀ name value, .selected name value ∉ template.pieces bindings) ∧
    ∀ other : Bindings,
      (∀ input ∈ template.inputs, input.isSelect = false →
        input.value other = input.value bindings) →
      (∀ cond, .conditional cond ∈ template.segments →
        template.chosen other cond = template.chosen bindings cond) →
      (template.synthesize other strict now).command = command := by
  have tight := isSealed_of_mem_builtin registered
  refine ⟨Template.isQuoted_after_command tight bindings,
    Template.words?_of_isSealed tight bindings, ?_,
    Template.not_selected_of_isSealed tight bindings, ?_⟩
  · intro before name value after split
    refine ⟨?_, Template.isPlain_before_entered (Template.plain_of_isSealed tight bindings).1 split⟩
    change Piece.command (template.pieces bindings) = _
    rw [split, Piece.command_append_cons]
    rfl
  · intro other same choice
    exact congrArg Piece.command (Template.pieces_congr tight bindings same choice)

/-- A quote in the keyword stays a character, and what is selected is not executed. -/
theorem synthesize_builtin_logSearch :
    let bindings : Bindings := ⟨[("keyword", "'; rm -rf / #"), ("caseSensitive", "$(reboot)")]⟩
    let other : Bindings := ⟨[("keyword", "'; rm -rf / #"), ("caseSensitive", "\"")]⟩
    Builtin.logSearch ∈ builtin.templates ∧
      Shell.words? (Builtin.logSearch.synthesize bindings false .epoch).command.toList =
        some ["grep".toList, "-Rn".toList, "--".toList, "'; rm -rf / #".toList,
          "/var/log".toList, "2>/dev/null".toList] ∧
      (Builtin.logSearch.synthesize other false .epoch).command =
        (Builtin.logSearch.synthesize bindings false .epoch).command := by
  intro bindings other
  have registered : Builtin.logSearch ∈ builtin.templates := by
    rw [templates_builtin]
    simp [Builtin.templates]
  obtain ⟨-, ⟨words, read, filled⟩, -, -, unchanged⟩ :=
    synthesize_builtin registered bindings false .epoch
  have same : ∀ input ∈ Builtin.logSearch.inputs, input.isSelect = false →
      input.value other = input.value bindings := by decide +kernel
  have choice : ∀ cond ∈ Segment.conditionals Builtin.logSearch.segments,
      Builtin.logSearch.chosen other cond = Builtin.logSearch.chosen bindings cond := by
    decide +kernel
  have known : (Shell.Glyph.words? (Builtin.logSearch.skeleton
      (Builtin.logSearch.chosen bindings))).map
        (Shell.Glyph.fillWords (Builtin.logSearch.rawValue bindings)) =
      some ["grep".toList, "-Rn".toList, "--".toList, "'; rm -rf / #".toList,
        "/var/log".toList, "2>/dev/null".toList] := by decide +kernel
  rw [read] at known
  refine ⟨registered, filled.trans known, unchanged other same fun cond member => ?_⟩
  exact choice cond (List.mem_filterMap.2 ⟨_, member, rfl⟩)

end Catalog

end CommandSynthesis
