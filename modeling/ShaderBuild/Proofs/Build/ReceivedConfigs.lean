import Mathlib.Data.List.Forall2
import ShaderBuild.Build.Compiler
import ShaderBuild.Proofs.Outcome

/-! # The configs that backends receive

A step asks its backends for configs of some kind only if backends that differ in what they do with
other configs make no difference to it. Directives never make HLSL without optimisation, and a source
that is no file has to be told its language by them. The name of a file tells a language too, but then
nothing is said about optimisation.
-/

namespace ShaderBuild

variable {σ α : Type} {kind : Config → Prop}

/-- Backends that do the same with the configs of a kind. -/
structure Backend.AgreeOn (kind : Config → Prop) (one other : Backend σ) : Prop where
  name : one.name = other.name
  languages : one.languages = other.languages
  compile : ∀ request : Request, kind request.config → one.compile request = other.compile request

/-- A step that lets no backend have a config of another kind. -/
def AsksOnly (kind : Config → Prop) (step : List (Backend σ) → Action σ α) : Prop :=
  ∀ backends others : List (Backend σ),
    List.Forall₂ (Backend.AgreeOn kind) backends others → step backends = step others

/-! ## Backends that agree on a kind of configs -/

section Agreement

variable {backends others : List (Backend σ)}
  (agree : List.Forall₂ (Backend.AgreeOn kind) backends others)

theorem Backend.AgreeOn.accepts {one other : Backend σ} (same : Backend.AgreeOn kind one other)
    (config : Config) : one.accepts config = other.accepts config := by
  rw [Backend.accepts, Backend.accepts, same.languages]

include agree

theorem names_of_agree : backends.map (·.name) = others.map (·.name) := by
  induction agree with
  | nil => rfl
  | cons same _ ih => rw [List.map_cons, List.map_cons, same.name, ih]

theorem any_of_agree (config : Config) :
    (backends.any fun backend => backend.accepts config) =
      others.any fun backend => backend.accepts config := by
  induction agree with
  | nil => rfl
  | cons same _ ih => rw [List.any_cons, List.any_cons, same.accepts, ih]

theorem filter_of_agree (config : Config) :
    List.Forall₂ (Backend.AgreeOn kind) (backends.filter fun backend => backend.accepts config)
      (others.filter fun backend => backend.accepts config) := by
  induction agree with
  | nil => exact .nil
  | @cons one other _ _ same _ ih =>
      rw [List.filter_cons, List.filter_cons, same.accepts config]
      split
      · exact .cons same ih
      · exact ih

theorem tryAll_of_agree {request : Request} (fits : kind request.config)
    (failures : List Dispatch.Failure) :
    Dispatch.tryAll request failures backends = Dispatch.tryAll request failures others := by
  induction agree generalizing failures with
  | nil => rfl
  | @cons one other _ _ same _ ih =>
      -- an attempt hands the request on as it is
      have attempts : Dispatch.attempt one request = Dispatch.attempt other request := by
        rw [Dispatch.attempt, Dispatch.attempt, same.compile request fits]
      simp only [Dispatch.tryAll, attempts, same.name, ih]

theorem dispatch_of_agree {request : Request} (fits : kind request.config) :
    dispatch backends request = dispatch others request := by
  unfold dispatch Dispatch.candidates
  have kept := filter_of_agree agree request.config
  revert kept
  generalize (backends.filter fun backend => backend.accepts request.config) = some
  generalize (others.filter fun backend => backend.accepts request.config) = same
  intro kept
  cases kept with
  | nil => rw [names_of_agree agree]
  | cons first rest =>
      have tried := tryAll_of_agree (.cons first rest) fits []
      simp only [Action.ofRequest, pure_bind, tried]

end Agreement

/-! ## What a compiler makes of a config -/

/-- A config with which HLSL is not compiled without optimisation. -/
def Config.Optimised (config : Config) : Prop :=
  config.language = .hlsl → config.optimization ≠ .none

namespace Compiler

theorem settle_of_agree {backends others : List (Backend σ)}
    (agree : List.Forall₂ (Backend.AgreeOn kind) backends others) (config : Config)
    (origin? : Option String) :
    settle backends config origin? = settle others config origin? := by
  rw [settle, settle, guess, guess, any_of_agree agree]

/-- A compiler lets its backends have the config that it has settled, and no other one. -/
theorem compile_asksOnly (root : BuildRoot) (source : String) (origin? : Option String)
    {config : Config}
    (fits : ∀ backends : List (Backend σ), kind (settle backends config origin?)) :
    AsksOnly kind fun backends : List (Backend σ) =>
      compile ⟨root, backends⟩ source origin? config := by
  intro backends others agree
  unfold compile request?
  dsimp only
  rw [settle_of_agree agree]
  cases root.searchPath? config.includeDirs with
  | none => rfl
  | some searchPath => exact dispatch_of_agree agree (fits others)

/-- HLSL is guessed by the name of a file only. -/
theorem exists_origin_of_guess {backends : List (Backend σ)} {config : Config}
    {origin? : Option String} (hlsl : guess backends config origin? = .hlsl) :
    ∃ origin, origin? = some origin ∧ Language.ofSuffix (Path.ofString origin) = .hlsl := by
  unfold guess at hlsl
  dsimp only at hlsl
  split at hlsl
  · cases origin? with
    | none => cases hlsl
    | some origin =>
        rw [Option.map_some, Option.getD_some] at hlsl
        exact ⟨origin, rfl, hlsl⟩
  · split at hlsl <;> cases hlsl

theorem settle_language {backends : List (Backend σ)} {config : Config} {origin? : Option String}
    (hlsl : (settle backends config origin?).language = .hlsl) :
    config.language = .hlsl ∨ config.language = .unknown ∧
      ∃ origin, origin? = some origin ∧ Language.ofSuffix (Path.ofString origin) = .hlsl := by
  unfold settle at hlsl
  split at hlsl
  · exact .inl hlsl
  · next unsaid => exact .inr ⟨Decidable.not_not.mp unsaid, exists_origin_of_guess hlsl⟩

theorem settle_optimization (backends : List (Backend σ)) (config : Config) (origin? : Option String) :
    (settle backends config origin?).optimization = config.optimization := by
  unfold settle
  split <;> rfl

theorem settle_of_named (backends : List (Backend σ)) {config : Config} {origin : String}
    (unsaid : config.language = .unknown)
    (named : Language.ofSuffix (Path.ofString origin) = .hlsl) :
    settle backends config (some origin) = config.withLanguage .hlsl := by
  simp [settle, guess, unsaid, named]

end Compiler

namespace Config

theorem Optimised.default : Optimised {} := by
  intro hlsl
  cases hlsl

theorem Optimised.flag {config : Config} (h : config.Optimised) (flag : Flag) :
    (flag.apply config).Optimised := by
  cases flag with
  | language chosen =>
      cases chosen with
      | hlsl => exact fun _ => nofun
      | unknown | glsl | wgsl | assembly => exact nofun
  | stage | target | noDebug | autoBind | noFlip => exact h
  | minSize | maxPerformance => exact fun _ => nofun

theorem Optimised.apply {config : Config} (h : config.Optimised) (directive : Directive) :
    (directive.apply config).Optimised := by
  cases directive with
  | flag flag => exact h.flag flag
  | includeDir | define | entryPoint => exact h

theorem Optimised.applyAll {config : Config} (h : config.Optimised) (directives : List Directive) :
    (Directive.applyAll config directives).Optimised := by
  induction directives generalizing config with
  | nil => exact h
  | cons directive directives ih => exact ih (h.apply directive)

/-- Whatever form a directive list comes in, it does not make HLSL without optimisation. -/
theorem optimised_of_parseConfig {source : DirectiveSource} {config : Config}
    (read : Directive.parseConfig {} source = .ok config) : config.Optimised := by
  obtain ⟨directives, -, rfl⟩ := Outcome.map_eq_ok.mp read
  exact Optimised.default.applyAll directives

end Config

namespace Compiler

theorem configOf_asksOnly {directives : DirectiveSource}
    {next : Config → List (Backend σ) → Action σ α}
    (rest : ∀ config, Directive.parseConfig {} directives = .ok config →
      AsksOnly kind (next config)) :
    AsksOnly kind fun backends => configOf directives >>= fun config => next config backends := by
  intro backends others agree
  unfold configOf
  cases read : Directive.parseConfig {} directives with
  | error => rfl
  | ok config => exact rest config read backends others agree

theorem compileInline_asksOnly (root : BuildRoot) (source : String) {directives : DirectiveSource}
    (fits : ∀ (config : Config) (backends : List (Backend σ)),
      Directive.parseConfig {} directives = .ok config → kind (settle backends config none)) :
    AsksOnly kind fun backends : List (Backend σ) =>
      compileInline ⟨root, backends⟩ source directives :=
  configOf_asksOnly fun config read =>
    compile_asksOnly root source none fun backends => fits config backends read

theorem compileFile_asksOnly (root : BuildRoot) {path : String} {directives : DirectiveSource}
    (fits : ∀ (config : Config) (full : Path) (backends : List (Backend σ)),
      Directive.parseConfig {} directives = .ok config → root.resolve? path = some full →
      kind (settle backends config (some full.toString))) :
    AsksOnly kind fun backends : List (Backend σ) =>
      compileFile ⟨root, backends⟩ path directives := by
  refine configOf_asksOnly fun config read backends others agree => ?_
  dsimp only
  cases placed : root.resolve? path with
  | none => rfl
  | some full =>
      refine bind_congr fun source => ?_
      exact compile_asksOnly root source _ (fun some => fits config full some read placed) _ _ agree

/-- A file that directives leave without language and optimisation, and whose name tells that it is
    HLSL. -/
def OnlyNamed (root : BuildRoot) (path : String) (directives : DirectiveSource) : Prop :=
  ∃ config full, Directive.parseConfig {} directives = .ok config ∧ root.resolve? path = some full ∧
    config.language = .unknown ∧ config.optimization = .none ∧
    Language.ofSuffix (Path.ofString full.toString) = .hlsl

/-- Backends do not receive HLSL without optimisation, save for the files that are known to be HLSL
    by their names only. For those they receive nothing else. -/
theorem hlsl_optimised_unless_named (root : BuildRoot) (directives : DirectiveSource) :
    (∀ source, AsksOnly Config.Optimised fun backends : List (Backend σ) =>
      compileInline ⟨root, backends⟩ source directives) ∧
    ∀ path,
      (¬ OnlyNamed root path directives → AsksOnly Config.Optimised
        fun backends : List (Backend σ) => compileFile ⟨root, backends⟩ path directives) ∧
      (OnlyNamed root path directives → AsksOnly (¬ ·.Optimised)
        fun backends : List (Backend σ) => compileFile ⟨root, backends⟩ path directives) := by
  refine ⟨fun source => compileInline_asksOnly root source ?_, fun path => ⟨fun told => ?_, ?_⟩⟩
  · intro config backends read hlsl
    rw [settle_optimization]
    rcases settle_language hlsl with said | ⟨-, _, none, -⟩
    · exact Config.optimised_of_parseConfig read said
    · cases none
  · refine compileFile_asksOnly root fun config full backends read placed hlsl => ?_
    rw [settle_optimization]
    rcases settle_language hlsl with said | ⟨unsaid, _, ⟨⟩, named⟩
    · exact Config.optimised_of_parseConfig read said
    · exact fun bare => told ⟨config, full, read, placed, unsaid, bare, named⟩
  · rintro ⟨config, full, read, placed, unsaid, bare, named⟩
    refine compileFile_asksOnly root fun _ _ backends same equal => ?_
    cases read.symm.trans same
    cases placed.symm.trans equal
    rw [settle_of_named backends unsaid named]
    exact fun optimised => optimised rfl bare

theorem size_asked_for_or_not :
    (AsksOnly Config.Optimised fun backends : List (Backend Unit) =>
      compileFile ⟨.directory (Path.ofString "proj"), backends⟩ "a.hlsl"
        (.tokens [⟨.ident, "min_size", 0⟩])) ∧
    AsksOnly (¬ ·.Optimised) fun backends : List (Backend Unit) =>
      compileFile ⟨.directory (Path.ofString "proj"), backends⟩ "a.hlsl" (.text "") := by
  let root := BuildRoot.directory (Path.ofString "proj")
  have told : ¬ OnlyNamed root "a.hlsl" (.tokens [⟨.ident, "min_size", 0⟩]) := by
    rintro ⟨config, _, read, -, -, bare, -⟩
    cases read
    cases bare
  have named : OnlyNamed root "a.hlsl" (.text "") := ⟨{}, _, rfl, rfl, rfl, rfl, rfl⟩
  exact ⟨((hlsl_optimised_unless_named root _).2 "a.hlsl").1 told,
    ((hlsl_optimised_unless_named root _).2 "a.hlsl").2 named⟩

/-- A backend for HLSL that keeps the configs it receives. -/
def keeping : Backend (List Config) :=
  ⟨"keeping", [.hlsl], fun request => do
    modify fun session => { session with extra := session.extra ++ [request.config] }
    return []⟩

/-- A session with one file below a directory. -/
def oneFile (name : String) : Session (List Config) :=
  { tree := ⟨[(Location.here.down "proj", .directory),
      ((Location.here.down "proj").down name, .file [] false)]⟩
    environment := []
    launcher := fun _ _ _ => .finished ⟨0, [], [], []⟩
    scratch := "scratch"
    calls := []
    log := []
    dependencies := []
    extra := [] }

theorem hlsl_received_bare :
    ∃ after, ((compileFile ⟨.directory (Path.ofString "proj"), [keeping]⟩ "a.hlsl"
        (.text "")).run.run (oneFile "a.hlsl") = (.ok ⟨[], ["proj/a.hlsl"]⟩, after)) ∧
      after.extra = [{ language := .hlsl }] ∧ ¬ Config.Optimised { language := .hlsl } := by
  refine ⟨_, rfl, rfl, ?_⟩
  exact fun optimised => optimised rfl rfl

end Compiler

end ShaderBuild
