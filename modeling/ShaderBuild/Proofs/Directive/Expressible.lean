import ShaderBuild.Proofs.Directive.Printing

/-! # What directive lists can express

Directives cannot make every config: interface and version always move together, HLSL takes full
optimisation with it, and macros have names. These three are all that is asked of a config; each one
that meets them can be printed, and its text is read as the config itself.
-/

namespace ShaderBuild

namespace Config

/-- The configs that directives can make of the default one. -/
structure Expressible (config : Config) : Prop where
  target : ∃ target : Target, config.environment = target.environment ∧ config.version = target.version
  optimised : config.language = .hlsl → config.optimization ≠ .none
  names : ∀ define ∈ config.defines, isName define.1.toList = true

theorem Expressible.default : Expressible {} where
  target := ⟨.vulkan1_0, rfl, rfl⟩
  optimised := nofun
  names := by simp

/-- A flag keeps a config expressible: it changes neither interface nor version alone, and only ever
    to better optimisation. -/
theorem Expressible.flag {config : Config} (h : config.Expressible) (flag : Flag) :
    (flag.apply config).Expressible := by
  cases flag with
  | language chosen =>
      cases chosen with
      | hlsl => exact ⟨h.target, by simp [Flag.apply], h.names⟩
      | unknown | glsl | wgsl | assembly => exact ⟨h.target, by simp [Flag.apply], h.names⟩
  | stage | noDebug | autoBind | noFlip => exact ⟨h.target, h.optimised, h.names⟩
  | target chosen => exact ⟨⟨chosen, rfl, rfl⟩, h.optimised, h.names⟩
  | minSize | maxPerformance => exact ⟨h.target, by simp [Flag.apply], h.names⟩

theorem Expressible.apply {config : Config} (h : config.Expressible) {directive : Directive}
    (named : ∀ name value, directive = .define name value → isName name.toList = true) :
    (directive.apply config).Expressible := by
  cases directive with
  | flag flag => exact h.flag flag
  | includeDir | entryPoint => exact ⟨h.target, h.optimised, h.names⟩
  | define name value =>
      refine ⟨h.target, h.optimised, ?_⟩
      intro define member
      simp only [Directive.apply, List.mem_append, List.mem_singleton] at member
      rcases member with member | rfl
      · exact h.names define member
      · exact named name value rfl

/-- A run of directives keeps a config expressible if each of its macros has a name. -/
theorem Expressible.applyAll {config : Config} (h : config.Expressible) {directives : List Directive}
    (named : ∀ name value, .define name value ∈ directives → isName name.toList = true) :
    (Directive.applyAll config directives).Expressible := by
  induction directives generalizing config with
  | nil => exact h
  | cons directive directives ih =>
      refine ih (h.apply ?_) fun name value member => named name value (List.mem_cons_of_mem _ member)
      rintro name value rfl
      exact named name value (by simp)

/-! ## A list for every config -/

/-- The flags that make the settings of a config which flags can make, out of the default one. The
    language comes before the optimisation, which it sets too. -/
def flags (config : Config) : List Flag :=
  (if config.language = .unknown then [] else [.language config.language]) ++
    (if config.stage = .unknown then [] else [.stage config.stage]) ++
    config.target?.toList.map .target ++
    (match config.optimization with
      | .none => []
      | .minSize => [.minSize]
      | .maxPerformance => [.maxPerformance]) ++
    (if config.debugInfo then [] else [.noDebug]) ++
    (if config.autoBindUniforms then [.autoBind] else []) ++
    (if config.flipVertical then [] else [.noFlip])

def directives (config : Config) : List Directive :=
  config.flags.map .flag ++ config.includeDirs.map .includeDir ++
    config.defines.map (fun define => .define define.1 define.2) ++ [.entryPoint config.entryPoint]

def print (config : Config) : String := Directive.print config.directives

theorem target?_of_pair (target : Target) {config : Config}
    (environment : config.environment = target.environment)
    (version : config.version = target.version) :
    config.target? = some target := by
  rw [target?, environment, version]
  cases target <;> rfl

/-- The flags of an expressible config make all its settings but those that directives with
    arguments make. -/
theorem Expressible.foldl_flags {config : Config} (h : config.Expressible) :
    config.flags.foldl Flag.apply {} =
      { config with includeDirs := [], defines := [], entryPoint := "main" } := by
  obtain ⟨target, environment, version⟩ := h.target
  have settled := target?_of_pair target environment version
  have languageSet : ∀ language : Language,
      (if language = .unknown then [] else [Flag.language language]).foldl Flag.apply {} =
        { language, optimization := if language = .hlsl then .maxPerformance else .none : Config } := by
    intro language
    cases language <;> rfl
  have stageSet : ∀ (start : Config) (stage : Stage), start.stage = .unknown →
      (if stage = .unknown then [] else [Flag.stage stage]).foldl Flag.apply start =
        { start with stage } := by
    intro start stage unset
    split
    · next same => simp [same, ← unset]
    · rfl
  simp only [flags, settled, List.foldl_append]
  rw [languageSet, stageSet _ _ rfl]
  cases optimization : config.optimization with
  | none =>
      have other : config.language ≠ .hlsl := fun hlsl => h.optimised hlsl optimization
      cases debugInfo : config.debugInfo <;> cases autoBind : config.autoBindUniforms <;>
        cases flip : config.flipVertical <;>
        simp [Flag.apply, withTarget, other, environment, version]
  | minSize | maxPerformance =>
      cases debugInfo : config.debugInfo <;> cases autoBind : config.autoBindUniforms <;>
        cases flip : config.flipVertical <;>
        simp [Flag.apply, withTarget, environment, version]

theorem applyAll_includeDirs (config : Config) (dirs : List String) :
    Directive.applyAll config (dirs.map .includeDir) =
      { config with includeDirs := config.includeDirs ++ dirs } := by
  induction dirs generalizing config with
  | nil => simp [Directive.applyAll]
  | cons dir dirs ih =>
      rw [List.map_cons, Directive.applyAll, List.foldl_cons]
      refine (ih _).trans ?_
      simp [Directive.apply]

theorem applyAll_defines (config : Config) (defines : List Define) :
    Directive.applyAll config (defines.map fun define => .define define.1 define.2) =
      { config with defines := config.defines ++ defines } := by
  induction defines generalizing config with
  | nil => simp [Directive.applyAll]
  | cons define defines ih =>
      rw [List.map_cons, Directive.applyAll, List.foldl_cons]
      refine (ih _).trans ?_
      simp [Directive.apply]

/-- The directives of an expressible config make this config out of the default one. -/
theorem Expressible.applyAll_directives {config : Config} (h : config.Expressible) :
    Directive.applyAll {} config.directives = config := by
  have append : ∀ (start : Config) (left right : List Directive),
      Directive.applyAll start (left ++ right) =
      Directive.applyAll (Directive.applyAll start left) right := fun _ _ _ => List.foldl_append
  have flagged : Directive.applyAll {} (config.flags.map .flag) =
      { config with includeDirs := [], defines := [], entryPoint := "main" } := by
    rw [Directive.applyAll, List.foldl_map]
    exact h.foldl_flags
  rw [directives, append, append, append, flagged, applyAll_includeDirs, applyAll_defines]
  rfl

theorem flags_known (config : Config) : ∀ flag ∈ config.flags, Flag.ofWord? flag.word = some flag := by
  simp only [flags, List.forall_mem_append]
  refine ⟨⟨⟨⟨⟨⟨?_, ?_⟩, ?_⟩, ?_⟩, ?_⟩, ?_⟩, ?_⟩
  · cases config.language <;> decide
  · cases config.stage <;> decide
  · intro flag member
    obtain ⟨target, -, rfl⟩ := List.mem_map.mp member
    cases target <;> decide
  · cases config.optimization <;> decide
  · cases config.debugInfo <;> decide
  · cases config.autoBindUniforms <;> decide
  · cases config.flipVertical <;> decide

theorem Expressible.writable {config : Config} (h : config.Expressible) :
    ∀ directive ∈ config.directives, directive.Writable := by
  simp only [directives, List.forall_mem_append, List.forall_mem_map, List.forall_mem_singleton]
  exact ⟨⟨⟨flags_known config, fun _ _ => trivial⟩, h.names⟩, trivial⟩

end Config

namespace Directive

open Outcome

/-- The macros that a derivation defines are identifiers among its tokens. -/
theorem Derives.name_mem {tokens name value} (h : Derives tokens (.define name value)) :
    ∃ token ∈ tokens, token.kind = .ident ∧ token.text = name := by
  cases h with
  | define _ _ ident => exact ⟨_, by simp, ident, rfl⟩
  | defineAs _ _ ident _ _ => exact ⟨_, by simp, ident, rfl⟩

theorem Listed.name_mem {tokens directives name value} (h : Listed tokens directives)
    (member : .define name value ∈ directives) :
    ∃ token ∈ tokens, token.kind = .ident ∧ token.text = name := by
  induction h with
  | nil => cases member
  | last one =>
      obtain rfl := List.mem_singleton.mp member
      exact one.name_mem
  | more one _ _ ih =>
      rcases List.mem_cons.mp member with rfl | member
      · obtain ⟨token, inside, same⟩ := one.name_mem
        exact ⟨token, List.mem_append_left _ inside, same⟩
      · obtain ⟨token, inside, same⟩ := ih member
        exact ⟨token, by simp [inside], same⟩

theorem tokenize_spells {text tokens} (h : tokenize text = .ok tokens) :
    ∀ token ∈ tokens, Spells token.kind token.text.toList := by
  simp only [tokenize] at h
  split at h
  · cases h
  · cases h
    exact scanFrom_spells

theorem isName_of_parseDirectives {text directives}
    (h : parseDirectives (.text text) = .ok directives) {name value}
    (member : .define name value ∈ directives) : isName name.toList = true := by
  obtain ⟨⟨tokens, finish⟩, scanned, parsed⟩ := bind_eq_ok.mp h
  obtain ⟨_, lexed, same⟩ := map_eq_ok.mp scanned
  cases same
  simp only at parsed
  split at parsed
  · next read =>
      cases parsed
      obtain ⟨token, inside, ident, rfl⟩ :
          ∃ token ∈ tokens, token.kind = .ident ∧ token.text = name := by
        cases parseTokens_eq_ok_iff.mp read with
        | plain listed => exact listed.name_mem member
        | led _ listed =>
            obtain ⟨token, inside, same⟩ := listed.name_mem member
            exact ⟨token, List.mem_cons_of_mem _ inside, same⟩
      have spelled := tokenize_spells lexed token inside
      rw [ident] at spelled
      cases spelled with | ident name => exact name
  · cases parsed

/-- Directive lists express exactly the expressible configs, and each of these by its own text. -/
theorem parseConfig_text_iff (config : Config) :
    ((∃ text, parseConfig {} (.text text) = .ok config) ↔ config.Expressible) ∧
      (parseConfig {} (.text config.print) = .ok config ↔ config.Expressible) := by
  have sound : ∀ text, parseConfig {} (.text text) = .ok config → config.Expressible := by
    intro text h
    obtain ⟨directives, parsed, rfl⟩ := map_eq_ok.mp h
    exact Config.Expressible.default.applyAll fun name value => isName_of_parseDirectives parsed
  have complete : config.Expressible → parseConfig {} (.text config.print) = .ok config := by
    intro expressible
    rw [parseConfig, Config.print, parseDirectives_print expressible.writable, Except.map,
      expressible.applyAll_directives]
  exact ⟨⟨fun ⟨text, h⟩ => sound text h, fun h => ⟨_, complete h⟩⟩, ⟨sound _, complete⟩⟩

end Directive

end ShaderBuild
