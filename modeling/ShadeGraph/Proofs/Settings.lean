import Mathlib.Data.List.Perm.Basic
import ShadeGraph.Proofs.Isolation

/-!
# Render settings

What a reachable design has chosen exists in its mode. So each choice has one keyword, and the header of the shader
names these keywords and no others.
-/

namespace ShadeGraph

namespace Mode

/-- All words that a header may name in a mode. -/
def renderWords (m : Mode) : List String := m.renderGroups.flatMap RenderGroup.options ++ m.renderFlags

/-- The keyword of an option. -/
def optionWord? (m : Mode) (group : String) (option : Nat) : Option String :=
  (m.renderGroup? group).bind (·.options[option]?)

theorem nodup_renderWords (m : Mode) : m.renderWords.Nodup := by
  cases m <;> decide

theorem isPlain_of_mem_renderWords {m : Mode} {word : String} (h : word ∈ m.renderWords) :
    Text.IsPlain word.toList := by
  -- Characters given one by one are looked at faster than those of a string.
  have hChars {text : String} {chars : List Char} (hText : String.ofList chars = text) (hSome : chars.isEmpty = false)
      (hAll : chars.all Text.isPlainChar = true) : Text.IsPlain text.toList := by
    subst hText
    rw [String.toList_ofList]
    exact ⟨List.isEmpty_eq_false_iff.mp hSome, List.all_eq_true.mp hAll⟩
  have hPlain : ∀ word ∈ m.renderWords, Text.IsPlain word.toList := by
    cases m <;> simp only [renderWords, renderGroups, renderFlags, List.flatMap_cons, List.flatMap_nil, List.append_nil,
      List.nil_append, List.forall_mem_append, List.forall_mem_cons, List.not_mem_nil, false_imp_iff, implies_true,
      and_true] <;> and_intros <;> exact hChars rfl rfl rfl
  exact hPlain word h

theorem nodup_groupNames (m : Mode) : (m.renderGroups.map RenderGroup.name).Nodup := by
  cases m <;> decide

theorem renderGroup?_name {m : Mode} {group : RenderGroup} (h : group ∈ m.renderGroups) :
    m.renderGroup? group.name = some group := by
  obtain ⟨before, after, hSplit⟩ := List.append_of_mem h
  have hNodup := m.nodup_groupNames
  rw [hSplit, List.map_append, List.map_cons, List.nodup_middle, List.nodup_cons] at hNodup
  rw [renderGroup?, List.find?_eq_some_iff_append]
  refine ⟨decide_eq_true rfl, before, after, hSplit, fun earlier hMem => ?_⟩
  have hNe : earlier.name ≠ group.name := fun hSame =>
    hNodup.1 (List.mem_append_left _ (hSame ▸ List.mem_map_of_mem hMem))
  simp [hNe]

theorem hasOption_iff {m : Mode} {name : String} {option : Nat} :
    m.hasOption name option = true ↔ ∃ group ∈ m.renderGroups, group.name = name ∧ option < group.options.length := by
  rw [hasOption, Option.any_eq_true]
  constructor
  · rintro ⟨group, hFind, hLt⟩
    have hName := List.find?_some hFind
    exact ⟨group, List.mem_of_find?_eq_some hFind, of_decide_eq_true hName, of_decide_eq_true hLt⟩
  · rintro ⟨group, hGroup, rfl, hLt⟩
    exact ⟨group, renderGroup?_name hGroup, decide_eq_true hLt⟩

theorem optionWord?_name {m : Mode} {group : RenderGroup} (h : group ∈ m.renderGroups) (option : Nat) :
    m.optionWord? group.name option = group.options[option]? := by
  rw [optionWord?, renderGroup?_name h, Option.bind_some]

theorem isSome_optionWord? {m : Mode} {name : String} {option : Nat} (h : m.hasOption name option = true) :
    (m.optionWord? name option).isSome = true := by
  obtain ⟨group, hGroup, rfl, hLt⟩ := hasOption_iff.mp h
  rw [optionWord?_name hGroup, List.getElem?_eq_getElem hLt]
  rfl

end Mode

namespace RenderSettings

variable {r : RenderSettings} {m : Mode}

/-- The line of a header that names the render settings, if there are any. -/
def line (words : List String) : String :=
  if words = [] then "" else "render_mode " ++ Text.joinWith ", " words ++ ";\n"

theorem header_eq (r : RenderSettings) (m : Mode) :
    r.header m = "shader_type " ++ m.shaderType ++ ";\n" ++ line (r.keywords m) ++ "\n" := by
  -- The equation of the definition is slow to make.
  delta header
  rw [line]
  cases r.keywords m with
  | nil => rfl
  | cons word words => rw [if_neg (List.cons_ne_nil word words)]

/-- Of each group at most one word is taken. -/
theorem keywords_sublist (r : RenderSettings) (m : Mode) : (r.keywords m).Sublist m.renderWords := by
  rw [keywords, Mode.renderWords]
  refine List.Sublist.append ?_ List.filter_sublist
  induction m.renderGroups with
  | nil => exact List.Sublist.refl []
  | cons group groups ih =>
    rw [List.filterMap_cons, List.flatMap_cons]
    split
    · exact ih.trans (List.sublist_append_right _ _)
    · rename_i word hWord
      obtain ⟨option, -, hOption⟩ := Option.bind_eq_some_iff.mp hWord
      exact (List.singleton_sublist.mpr (List.mem_of_getElem? hOption)).append ih

theorem nodup_keywords (r : RenderSettings) (m : Mode) : (r.keywords m).Nodup :=
  m.nodup_renderWords.sublist (r.keywords_sublist m)

theorem items_keywords (r : RenderSettings) (m : Mode) :
    Text.items (Text.joinWith ", " (r.keywords m)).toList = (r.keywords m).map String.toList := by
  apply Text.items_joinWith
  intro word hMem
  have hPlain := Mode.isPlain_of_mem_renderWords ((r.keywords_sublist m).subset hMem)
  exact ⟨hPlain.not_mem (by decide), hPlain.trimmed, hPlain.ne_nil⟩

/-- The keyword of what is chosen in a group. -/
def word? (r : RenderSettings) (m : Mode) (name : String) : Option String :=
  (r.options.get? name).bind (m.optionWord? name)

theorem keywords_eq (r : RenderSettings) (m : Mode) :
    r.keywords m =
      (m.renderGroups.map RenderGroup.name).filterMap (r.word? m) ++ m.renderFlags.filter (r.flags.contains ·) := by
  rw [keywords, List.filterMap_map]
  congr 1
  refine List.filterMap_congr fun group hGroup => ?_
  rw [Function.comp_apply, word?, funext (Mode.optionWord?_name hGroup)]

theorem keywords_empty (m : Mode) : empty.keywords m = [] := by
  simp [keywords, empty]

theorem line_eq_empty_iff {words : List String} : line words = "" ↔ words = [] := by
  rw [line]
  split
  · simp [*]
  · simp [*, String.append_eq_empty_iff]

end RenderSettings

namespace Design

variable {d : Design StandardNode}

theorem SettingsRegular.perm_keys (h : d.SettingsRegular) :
    ((d.mode.renderGroups.map RenderGroup.name).filter (d.settings.options.keys.contains ·)).Perm
      d.settings.options.keys := by
  refine (List.perm_ext_iff_of_nodup (d.mode.nodup_groupNames.filter _) d.settings.options.keys_nodup).mpr ?_
  intro name
  rw [List.mem_filter, List.contains_iff_mem]
  refine ⟨And.right, fun hMem => ⟨?_, hMem⟩⟩
  obtain ⟨option, hGet⟩ := Table.mem_keys_iff.mp hMem
  obtain ⟨group, hGroup, rfl, -⟩ := Mode.hasOption_iff.mp (h.options name option hGet)
  exact List.mem_map_of_mem hGroup

/-- The groups of the mode are gone through in its order. The choices were made in any order. -/
theorem SettingsRegular.perm_words (h : d.SettingsRegular) :
    (((d.mode.renderGroups.map RenderGroup.name).filterMap (d.settings.word? d.mode)).map some).Perm
      (d.settings.options.entries.map fun x => d.mode.optionWord? x.1 x.2) := by
  have hChosen : (d.mode.renderGroups.map RenderGroup.name).filterMap (d.settings.word? d.mode) =
      ((d.mode.renderGroups.map RenderGroup.name).filter (d.settings.options.keys.contains ·)).filterMap
        (d.settings.word? d.mode) := by
    rw [List.filterMap_filter]
    refine List.filterMap_congr fun name _ => ?_
    split
    · rfl
    · rename_i hKey
      rw [RenderSettings.word?, Table.get?_eq_none_iff.mpr fun hMem => hKey (List.contains_iff_mem.mpr hMem),
        Option.bind_none]
  have hEntries : (d.settings.options.entries.map fun x => d.mode.optionWord? x.1 x.2) =
      d.settings.options.keys.map (d.settings.word? d.mode) := by
    rw [Table.keys, List.map_map]
    refine List.map_congr_left fun x hMem => ?_
    rw [Function.comp_apply, RenderSettings.word?, Table.get?_eq_some_iff.mpr hMem, Option.bind_some]
  have hSome : ∀ word ∈ d.settings.options.keys.map (d.settings.word? d.mode), word.isSome = true := by
    intro word hMem
    obtain ⟨name, hName, rfl⟩ := List.mem_map.mp hMem
    obtain ⟨option, hGet⟩ := Table.mem_keys_iff.mp hName
    rw [RenderSettings.word?, hGet, Option.bind_some]
    exact Mode.isSome_optionWord? (h.options name option hGet)
  rw [hChosen, hEntries, List.map_filterMap_some_eq_filter_map_isSome, ← List.filter_eq_self.mpr hSome]
  exact (h.perm_keys.map (d.settings.word? d.mode)).filter _

theorem SettingsRegular.perm_flags (h : d.SettingsRegular) :
    (d.mode.renderFlags.filter (d.settings.flags.contains ·)).Perm d.settings.flags := by
  have hNodup : d.mode.renderFlags.Nodup := (List.nodup_append.mp d.mode.nodup_renderWords).2.1
  refine (List.perm_ext_iff_of_nodup (hNodup.filter _) h.flags_nodup).mpr fun flag => ?_
  rw [List.mem_filter, List.contains_iff_mem]
  exact ⟨And.right, fun hMem => ⟨List.contains_iff_mem.mp (h.flags flag hMem), hMem⟩⟩

/-- Each choice has its keyword, and no keyword is there for nothing. -/
theorem SettingsRegular.perm_keywords (h : d.SettingsRegular) :
    ((d.settings.keywords d.mode).map some).Perm
      ((d.settings.options.entries.map fun x => d.mode.optionWord? x.1 x.2) ++ d.settings.flags.map some) := by
  rw [RenderSettings.keywords_eq, List.map_append]
  exact h.perm_words.append (h.perm_flags.map some)

theorem SettingsRegular.keywords_eq_nil_iff (h : d.SettingsRegular) :
    d.settings.keywords d.mode = [] ↔ d.settings.options.entries = [] ∧ d.settings.flags = [] := by
  have hLength := h.perm_keywords.length_eq
  simp only [List.length_append, List.length_map] at hLength
  simp only [← List.length_eq_zero_iff]
  omega

/-- The render settings are in the header and nowhere else. -/
theorem exists_source_eq_header (d : Design StandardNode) :
    ∃ rest, ∀ settings, ({ d with settings }.compile).source = settings.header d.mode ++ rest := by
  refine ⟨d.fileScope false d.assembly ++ Text.concat (Stage.all.map d.function), fun settings => ?_⟩
  rw [compile_eq, ← String.append_assoc]
  rfl

/-- What a reachable design has chosen exists in its mode. The header names the keyword of each choice once, and
nothing else; its line is missing exactly if nothing is chosen, and the rest of the shader is as it would be then. -/
theorem settings_exist_and_are_named (hReachable : d.Reachable) :
    (∀ name option, d.settings.options.get? name = some option →
      ∃ group ∈ d.mode.renderGroups, group.name = name ∧ option < group.options.length) ∧
    (∀ flag ∈ d.settings.flags, flag ∈ d.mode.renderFlags) ∧
    ∃ words rest,
      d.compile.source =
        "shader_type " ++ d.mode.shaderType ++ ";\n" ++ RenderSettings.line words ++ "\n" ++ rest ∧
      { d with settings := .empty }.compile.source = "shader_type " ++ d.mode.shaderType ++ ";\n" ++ "\n" ++ rest ∧
      (words.map some).Perm
        ((d.settings.options.entries.map fun x => d.mode.optionWord? x.1 x.2) ++ d.settings.flags.map some) ∧
      words.Nodup ∧ Text.items (Text.joinWith ", " words).toList = words.map String.toList ∧
      (RenderSettings.line words = "" ↔ d.settings.options.entries = [] ∧ d.settings.flags = []) := by
  have hRegular := hReachable.settingsRegular
  refine ⟨fun name option hGet => Mode.hasOption_iff.mp (hRegular.options name option hGet),
    fun flag hMem => List.contains_iff_mem.mp (hRegular.flags flag hMem), ?_⟩
  obtain ⟨rest, hSource⟩ := d.exists_source_eq_header
  refine ⟨d.settings.keywords d.mode, rest, ?_, ?_, hRegular.perm_keywords, d.settings.nodup_keywords d.mode,
    d.settings.items_keywords d.mode, ?_⟩
  · rw [← RenderSettings.header_eq]
    exact hSource d.settings
  · rw [hSource, RenderSettings.header_eq, RenderSettings.keywords_empty, RenderSettings.line_eq_empty_iff.mpr rfl,
      String.append_empty]
  · rw [RenderSettings.line_eq_empty_iff, hRegular.keywords_eq_nil_iff]

/-- An option of two groups and a flag, chosen in another order than that of the mode. -/
def matte : Design StandardNode :=
  (empty .spatial).edited [.setFlag "unshaded" true, .setOption "cull" 2, .setOption "blend" 1]

theorem settings_exist_and_are_named_matte :
    matte.Reachable ∧ matte.settings.options.entries = [("cull", 2), ("blend", 1)] ∧
      matte.settings.flags = ["unshaded"] ∧
      ∃ words rest, matte.compile.source = "shader_type spatial;\n" ++ RenderSettings.line words ++ "\n" ++ rest ∧
        words.Nodup ∧ (words.map some).Perm [some "cull_disabled", some "blend_add", some "unshaded"] := by
  have hReachable : matte.Reachable := .edited (.new .spatial) (by decide)
  refine ⟨hReachable, rfl, rfl, ?_⟩
  obtain ⟨-, -, words, rest, hSource, -, hPerm, hNodup, -⟩ := settings_exist_and_are_named hReachable
  exact ⟨words, rest, hSource, hNodup, hPerm⟩

end Design

end ShadeGraph
