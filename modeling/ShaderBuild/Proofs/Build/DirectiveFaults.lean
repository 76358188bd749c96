import ShaderBuild.Proofs.Backend.Stops
import ShaderBuild.Proofs.Build.Tidiness

/-! # Faults in directives

A directive list can be wrong in two ways: it does not parse, or it names no valid target. A build whose
directives are right ends in neither of these faults, whatever else may go wrong.
-/

namespace ShaderBuild

open ShaderBuild.Action

variable {σ α β : Type}

/-- A fault that lies in the directives of a shader. -/
inductive Fault.InDirectives : Fault → Prop
  | unparsed (e : Directive.SyntaxError) (notes : List String) :
      InDirectives (.refused (.directives e) notes)
  | target (pair : Config.BadPair) (notes : List String) : InDirectives (.refused (.badTarget pair) notes)

/-- Notes do not matter. -/
theorem Fault.inDirectives_refused {error : RequestError} {notes others : List String} :
    (Fault.refused error notes).InDirectives ↔ (Fault.refused error others).InDirectives := by
  constructor <;> rintro (_ | _) <;> constructor

/-- What the directives of a shader come to: a target, or what is wrong with them. -/
def Shader.verdict (defaults : Defaults) (shader : Shader) : Except RequestError Target := do
  let directives := DirectiveSource.items (shader.directiveList defaults)
  let config ← (Directive.parseConfig {} directives).mapError .directives
  config.target.mapError .badTarget

theorem Shader.verdict_eq_ok {defaults : Defaults} {shader : Shader} {target : Target} :
    shader.verdict defaults = .ok target ↔
      ∃ config, Directive.parseConfig {} (.items (shader.directiveList defaults)) = .ok config ∧
        config.target = .ok target := by
  unfold verdict
  simp only [Outcome.bind_eq_ok, Outcome.mapError_eq_ok]

theorem Shader.verdict_eq_error {defaults : Defaults} {shader : Shader} {error : RequestError} :
    shader.verdict defaults = .error error ↔
      (∃ e, Directive.parseConfig {} (.items (shader.directiveList defaults)) = .error e ∧
        error = .directives e) ∨
      ∃ config pair, Directive.parseConfig {} (.items (shader.directiveList defaults)) = .ok config ∧
        config.target = .error pair ∧ error = .badTarget pair := by
  unfold verdict
  simp only [Outcome.bind_eq_error, Outcome.mapError_eq_ok, Outcome.mapError_eq_error, exists_and_left]

namespace Action

/-- A step that is not stopped by a fault in directives. -/
def Undirected (action : Action σ α) : Prop :=
  ∀ session fault, (action.run.run session).1 = .error fault → ¬fault.InDirectives

theorem undirected_iff_ends {action : Action σ α} :
    action.Undirected ↔ action.Ends (fun _ => True) fun fault => ¬fault.InDirectives :=
  ⟨fun h session => ⟨fun _ _ => trivial, h session⟩, fun h session => (h session).2⟩

namespace Undirected

theorem pure (a : α) : (Pure.pure a : Action σ α).Undirected := nofun

theorem throw {fault : Fault} (other : ¬fault.InDirectives) :
    (MonadExcept.throw fault : Action σ α).Undirected := by
  rintro _ _ ⟨⟩
  exact other

theorem bind {x : Action σ α} {f : α → Action σ β} (first : x.Undirected)
    (rest : ∀ a, (f a).Undirected) : (x >>= f).Undirected :=
  undirected_iff_ends.mpr <|
    .bind (undirected_iff_ends.mp first) fun a _ => undirected_iff_ends.mp (rest a)

theorem get_bind {f : Session σ → Action σ α} (rest : ∀ session, (f session).Undirected) :
    (get >>= f).Undirected := fun session => rest session session

theorem modify (f : Session σ → Session σ) : (modify f : Action σ PUnit).Undirected := nofun

theorem ofExcept {x : Except Fault α} (other : ∀ fault, x = .error fault → ¬fault.InDirectives) :
    (ofExcept x : Action σ α).Undirected :=
  undirected_iff_ends.mpr (.ofExcept (fun _ _ => trivial) other)

/-- A step that goes on with what has come of another one, whatever that is. -/
theorem outcome_bind {action : Action σ α} {f : Except Fault α → Action σ β}
    (attempted : action.Undirected)
    (rest : ∀ result, (∀ fault, result = .error fault → ¬fault.InDirectives) → (f result).Undirected) :
    (outcome action >>= f).Undirected :=
  undirected_iff_ends.mpr <| .outcome_bind (undirected_iff_ends.mp attempted) fun made _ other =>
    undirected_iff_ends.mp (rest made other)

theorem changeTree (change : FileTree → FileTree.Attempt) :
    (changeTree change : Action σ Unit).Undirected :=
  undirected_iff_ends.mpr (.changeTree (fun _ => nofun) change)

end Undirected

end Action

/-! ## Known tools -/

/-- A backend that finds nothing wrong with directives that name a valid target. -/
def Backend.TakesTargets (backend : Backend σ) : Prop :=
  ∀ request target, request.config.target = .ok target → (backend.compile request).Undirected

theorem Fault.Stops.undirected {request : Request} {target : Target}
    (valid : request.config.target = .ok target) (fault : Fault) (stops : fault.Stops request) :
    ¬fault.InDirectives := by
  cases stops with
  | badTarget bad => cases valid.symm.trans bad
  | unknownTarget | inclusion | backend | access | encoding => exact nofun

theorem Backend.ofTool_takesTargets (tool : Tool) (executable? : Option String) :
    (ofTool tool executable? : Backend σ).TakesTargets := fun request _ valid session =>
  ((ofTool_stops tool executable? request).weaken (Fault.Stops.undirected valid) session).2

/-! ## Builds -/

theorem Dispatch.tryAll_undirected {request : Request} {backends : List (Backend σ)}
    (each : ∀ backend ∈ backends, (backend.compile request).Undirected) {failures : List Failure}
    (others : ∀ failure ∈ failures, ¬failure.error.fault.InDirectives) :
    (tryAll request failures backends).Undirected := by
  -- By induction on the backends; the errors of earlier attempts are kept, and one of them is left.
  induction backends generalizing failures with
  | nil =>
      unfold tryAll
      split
      · next last isLast =>
          refine .throw fun inDirectives => others last (List.mem_of_getLast? isLast) ?_
          exact Fault.inDirectives_refused.mp inDirectives
      · exact .throw nofun
  | cons backend backends ih =>
      obtain ⟨first, rest⟩ := List.forall_mem_cons.mp each
      refine .outcome_bind (.bind (.modify _) fun _ => first) fun result other => ?_
      split
      · dsimp only
        split
        · exact .bind (.modify _) fun _ => .get_bind fun _ => .pure _
        · exact .get_bind fun _ => .pure _
      · next error notes =>
          refine .bind (.modify _) fun _ => ih rest (List.forall_mem_append.mpr ⟨others, ?_⟩)
          refine List.forall_mem_singleton.mpr fun inDirectives => other _ rfl ?_
          exact Fault.inDirectives_refused.mp inDirectives
      · next fault _ => exact .throw (other fault rfl)

theorem dispatch_undirected {backends : List (Backend σ)} {request : Request} {target : Target}
    (take : ∀ backend ∈ backends, backend.TakesTargets) (valid : request.config.target = .ok target) :
    (dispatch backends request).Undirected := by
  intro session fault fails
  by_cases none : Dispatch.takers backends request.config = []
  · rw [Dispatch.run_dispatch_of_none valid none] at fails
    cases fails
    exact nofun
  · rw [Dispatch.run_dispatch_of_some valid none] at fails
    refine Dispatch.tryAll_undirected (fun backend member => ?_) (List.forall_mem_nil _) session fault fails
    exact take backend (List.mem_filter.mp member).1 request target valid

theorem Compiler.settle_target (backends : List (Backend σ)) (config : Config) (origin? : Option String) :
    (settle backends config origin?).target = config.target := by
  unfold settle
  split <;> rfl

namespace Compiler

variable {compiler : Compiler σ} {directives : DirectiveSource} {config : Config} {target : Target}

theorem readSource_undirected (path : Path) : (readSource path : Action σ String).Undirected := by
  refine .get_bind fun session => ?_
  split
  · exact .throw nofun
  · exact .throw nofun
  · split
    · exact .throw nofun
    · exact .pure _

section

variable (take : ∀ backend ∈ compiler.backends, backend.TakesTargets) (valid : config.target = .ok target)

include take valid

theorem compile_undirected (source : String) (origin? : Option String) :
    (compiler.compile source origin? config).Undirected := by
  unfold compile request?
  cases compiler.root.searchPath? config.includeDirs with
  | none => exact .throw nofun
  | some searchPath =>
      exact dispatch_undirected take ((settle_target compiler.backends config origin?).trans valid)

variable (parses : Directive.parseConfig {} directives = .ok config)

include parses

theorem compileInline_undirected (source : String) :
    (compiler.compileInline source directives).Undirected := by
  rw [compileInline_of_parsed parses]
  exact compile_undirected take valid source none

theorem compileFile_undirected (path : String) :
    (compiler.compileFile path directives).Undirected := by
  rw [compileFile_of_parsed parses]
  cases compiler.root.resolve? path with
  | none => exact .throw nofun
  | some full =>
      exact .bind (readSource_undirected full) fun source => compile_undirected take valid source _

end

end Compiler

theorem Artifact.write_undirected (dir : Path) (name : String) (feedback : Feedback) (format : Format) :
    (write dir name feedback format none none : Action σ Written).Undirected := by
  refine .bind (.ofExcept fun fault fails => ?_) fun depfile => .bind (.changeTree _) fun _ =>
    .bind (.changeTree _) fun _ => .bind (.ofExcept fun fault fails => ?_) fun bytes =>
    .bind (.changeTree _) fun _ => .bind (.changeTree _) fun _ => .pure _
  · unfold depfileFor at fails
    split at fails <;> cases fails
    exact nofun
  · unfold content at fails
    split at fails
    · cases fails
    · cases fails
    · split at fails <;> cases fails
      exact nofun

namespace Build

variable {build : Build σ} (take : ∀ backend ∈ build.compiler.backends, backend.TakesTargets)

include take

theorem compileShader_undirected {shader : Shader} {target : Target}
    (accepted : shader.verdict build.manifest.defaults = .ok target) :
    (build.compileShader shader).Undirected := by
  obtain ⟨config, parses, valid⟩ := Shader.verdict_eq_ok.mp accepted
  unfold compileShader
  split
  · exact Compiler.compileInline_undirected take valid parses _
  · exact Compiler.compileFile_undirected take valid parses _
  · exact .throw nofun

theorem runFrom_undirected {shaders : List Shader}
    (accepted : ∀ shader ∈ shaders, ∃ target, shader.verdict build.manifest.defaults = .ok target)
    (outDir : Path) (total position : Nat) (written : Artifact.Written) :
    (build.runFrom outDir total position written shaders).Undirected := by
  induction shaders generalizing position written with
  | nil => exact .pure _
  | cons shader shaders ih =>
      obtain ⟨⟨target, first⟩, others⟩ := List.forall_mem_cons.mp accepted
      refine .bind (.modify _) fun _ => .bind (compileShader_undirected take first) fun feedback => ?_
      exact .bind (Artifact.write_undirected _ _ _ _) fun files => ih others _ _

/-- A build whose directives are right does not end in a fault in directives. -/
theorem run_undirected (accepted : ∀ shader ∈ build.manifest.shaders,
      ∃ target, shader.verdict build.manifest.defaults = .ok target) : build.run.Undirected := by
  unfold run
  split
  · exact .throw nofun
  · exact .bind (.modify _) fun _ => .bind (.modify _) fun _ => runFrom_undirected take accepted _ _ _ _

end Build

/-! ## Directives that are wrong -/

namespace Compiler

variable {compiler : Compiler σ} {directives : DirectiveSource} {config : Config}
  {pair : Config.BadPair} {session : Session σ}

/-- A compilation for no valid target does nothing. -/
theorem run_compile_of_bad (bad : config.target = .error pair) (source : String)
    (origin? : Option String) :
    ∃ fault, (compiler.compile source origin? config).run.run session = (.error fault, session) ∧
      (fault.InDirectives → fault = (RequestError.badTarget pair).fault) := by
  unfold compile request?
  cases compiler.root.searchPath? config.includeDirs with
  | none => exact ⟨_, rfl, nofun⟩
  | some searchPath =>
      refine ⟨_, Dispatch.run_dispatch_of_bad ?_, fun _ => rfl⟩
      exact (settle_target compiler.backends config origin?).trans bad

theorem run_compileFile_of_bad (parses : Directive.parseConfig {} directives = .ok config)
    (bad : config.target = .error pair) (path : String) :
    ∃ fault, (compiler.compileFile path directives).run.run session = (.error fault, session) ∧
      (fault.InDirectives → fault = (RequestError.badTarget pair).fault) := by
  rw [compileFile_of_parsed parses]
  cases compiler.root.resolve? path with
  | none => exact ⟨_, rfl, nofun⟩
  | some full =>
      -- The source is read first, and that may fail as well.
      dsimp only
      rw [Outcome.run_bind, run_readSource]
      cases reads : ((readSource full).run.run session).1 with
      | error fault =>
          have other := readSource_undirected full session fault reads
          exact ⟨fault, rfl, fun inDirectives => absurd inDirectives other⟩
      | ok source => exact run_compile_of_bad bad source _

end Compiler

/-- A shader whose directives are wrong is not compiled: nothing is done for it. If its directives are
    what the build complains about, the complaint is the one that a check has. -/
theorem Build.run_compileShader_of_refused {build : Build σ} {shader : Shader} {error : RequestError}
    (refused : shader.verdict build.manifest.defaults = .error error) (session : Session σ) :
    ∃ fault, (build.compileShader shader).run.run session = (.error fault, session) ∧
      (fault.InDirectives → fault = error.fault) := by
  unfold compileShader
  rcases Shader.verdict_eq_error.mp refused with ⟨e, fails, rfl⟩ | ⟨config, pair, parses, bad, rfl⟩
  · split
    · unfold Compiler.compileInline Compiler.configOf
      dsimp only
      rw [fails]
      exact ⟨_, rfl, fun _ => rfl⟩
    · unfold Compiler.compileFile Compiler.configOf
      dsimp only
      rw [fails]
      exact ⟨_, rfl, fun _ => rfl⟩
    · exact ⟨_, rfl, nofun⟩
  · split
    · dsimp only
      rw [Compiler.compileInline_of_parsed parses]
      exact Compiler.run_compile_of_bad bad _ none
    · exact Compiler.run_compileFile_of_bad parses bad _
    · exact ⟨_, rfl, nofun⟩

end ShaderBuild
