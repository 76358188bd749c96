import ShaderBuild.Build.Runner
import ShaderBuild.Proofs.Build.FirstSuccess
import ShaderBuild.Proofs.Build.Steps
import ShaderBuild.Proofs.Files.Places

/-! # Steps that leave the files as they are

A backend may write what it likes in its scratch directory, which is gone in the end. If backends touch
nothing else, compiling a shader leaves every place as it was, whatever comes of it.
-/

namespace ShaderBuild

variable {σ α β : Type} {start : Session σ}

/-- Sessions with the same tools, the same environment and the same place for scratch directories. -/
structure Session.SameWorld (one other : Session σ) : Prop where
  launcher : other.launcher = one.launcher
  environment : other.environment = one.environment
  scratch : other.scratch = one.scratch

namespace Session.SameWorld

theorem trans {one middle other : Session σ} (first : one.SameWorld middle)
    (second : middle.SameWorld other) : one.SameWorld other :=
  ⟨second.launcher.trans first.launcher, second.environment.trans first.environment,
    second.scratch.trans first.scratch⟩

/-- Files, calls and messages come and go without a change of the world. -/
theorem moved {one other : Session σ} (same : one.SameWorld other) {tree : FileTree} {calls : List ToolCall}
    {log : List Log.Entry} {dependencies : List String} {extra : σ} :
    one.SameWorld { other with tree, calls, log, dependencies, extra } :=
  ⟨same.launcher, same.environment, same.scratch⟩

end Session.SameWorld

theorem FileTree.Rooted.of_same {tree grown : FileTree} (rooted : tree.Rooted)
    (same : ∀ place, grown.node? place = tree.node? place) : grown.Rooted := by
  intro place node taken
  rw [same] at taken ⊢
  exact rooted place node taken

namespace Action

/-- A step that leaves every place of a rooted tree as it was. -/
def Tidy (start : Session σ) (action : Action σ α) : Prop :=
  ∀ session, start.SameWorld session → session.tree.Rooted →
    start.SameWorld (action.run.run session).2 ∧
      ∀ place, (action.run.run session).2.tree.node? place = session.tree.node? place

namespace Tidy

theorem pure (a : α) : (Pure.pure a : Action σ α).Tidy start := fun _ same _ => ⟨same, fun _ => rfl⟩

theorem throw (fault : Fault) : (MonadExcept.throw fault : Action σ α).Tidy start :=
  fun _ same _ => ⟨same, fun _ => rfl⟩

theorem bind {x : Action σ α} {f : α → Action σ β} (first : x.Tidy start)
    (rest : ∀ a, (f a).Tidy start) : (x >>= f).Tidy start := by
  intro session same rooted
  obtain ⟨still, places⟩ := first session same rooted
  rw [Outcome.run_bind]
  revert still places
  rcases x.run.run session with ⟨_ | a, between⟩
  · exact fun still places => ⟨still, places⟩
  · intro still places
    obtain ⟨last, others⟩ := rest a between still (rooted.of_same places)
    exact ⟨last, fun place => (others place).trans (places place)⟩

theorem modify {f : Session σ → Session σ} (world : ∀ session : Session σ, session.SameWorld (f session))
    (tree : ∀ session, (f session).tree = session.tree) : (modify f : Action σ PUnit).Tidy start := by
  intro session same _
  exact ⟨same.trans (world session), fun place => congrArg (·.node? place) (tree session)⟩

theorem get_bind {f : Session σ → Action σ α} (rest : ∀ session, (f session).Tidy start) :
    (get >>= f).Tidy start := fun session same rooted => rest session session same rooted

theorem outcome {action : Action σ α} (tidy : action.Tidy start) : (outcome action).Tidy start := tidy

theorem ofRequest (x : Except RequestError α) : (ofRequest x : Action σ α).Tidy start := by
  cases x with
  | ok a => exact pure a
  | error error => exact throw error.fault

theorem log (entry : Log.Entry) : (log entry : Action σ Unit).Tidy start :=
  modify (fun _ => ⟨rfl, rfl, rfl⟩) fun _ => rfl

end Tidy

end Action

open ShaderBuild.Action

theorem Dispatch.tryAll_tidy {request : Request} {backends : List (Backend σ)}
    (tidy : ∀ backend ∈ backends, (backend.compile request).Tidy start) (failures : List Failure) :
    (tryAll request failures backends).Tidy start := by
  induction backends generalizing failures with
  | nil =>
      unfold tryAll
      split
      · exact .throw _
      · exact .throw _
  | cons backend backends ih =>
      obtain ⟨first, others⟩ := List.forall_mem_cons.mp tidy
      have attempts : (attempt backend request).Tidy start :=
        .bind (.modify (fun _ => ⟨rfl, rfl, rfl⟩) fun _ => rfl) fun _ => first
      refine .bind (.outcome attempts) fun result => ?_
      split
      · dsimp only
        split
        · exact .bind (.log _) fun _ => .get_bind fun _ => .pure _
        · exact .get_bind fun _ => .pure _
      · exact .bind (.log _) fun _ => ih others _
      · exact .throw _

theorem Dispatch.mem_of_candidates {backends found : List (Backend σ)} {config : Config}
    (accepting : candidates backends config = .ok found) : ∀ backend ∈ found, backend ∈ backends := by
  unfold candidates at accepting
  split at accepting
  · cases accepting
  · cases accepting
    exact fun backend member => (List.mem_filter.mp member).1

theorem dispatch_tidy {request : Request} {backends : List (Backend σ)}
    (tidy : ∀ backend ∈ backends, (backend.compile request).Tidy start) :
    (dispatch backends request).Tidy start := by
  unfold dispatch
  split
  · exact .throw _
  · cases accepting : Dispatch.candidates backends request.config with
    | error => exact .throw _
    | ok found =>
        exact Dispatch.tryAll_tidy
          (fun backend member => tidy backend (Dispatch.mem_of_candidates accepting backend member)) []

namespace Compiler

theorem compileInline_of_parsed {directives : DirectiveSource} {config : Config}
    (parses : Directive.parseConfig {} directives = .ok config) (compiler : Compiler σ)
    (source : String) :
    compiler.compileInline source directives = compiler.compile source none config := by
  rw [compileInline, configOf, parses, Outcome.mapError_ok, Action.ofRequest, pure_bind]

theorem compileFile_of_parsed {directives : DirectiveSource} {config : Config}
    (parses : Directive.parseConfig {} directives = .ok config) (compiler : Compiler σ)
    (path : String) :
    compiler.compileFile path directives =
      match compiler.root.resolve? path with
      | some full => do
        let source ← readSource full
        compiler.compile source (some full.toString) config
      | none => throw .rootless := by
  rw [compileFile, configOf, parses, Outcome.mapError_ok, Action.ofRequest]
  exact pure_bind config _

/-- Reading a source changes nothing. -/
theorem run_readSource (path : Path) (session : Session σ) :
    (readSource path).run.run session = (((readSource path).run.run session).1, session) := by
  unfold readSource
  rw [Outcome.run_get_bind]
  split
  · rfl
  · rfl
  · split <;> rfl

variable {compiler : Compiler σ}
  (tidy : ∀ backend ∈ compiler.backends, ∀ request, (backend.compile request).Tidy start)

include tidy

theorem compile_tidy (source : String) (origin? : Option String) (config : Config) :
    (compiler.compile source origin? config).Tidy start := by
  unfold compile
  split
  · exact dispatch_tidy fun backend member => tidy backend member _
  · exact .throw _

theorem compileInline_tidy (source : String) (directives : DirectiveSource) :
    (compiler.compileInline source directives).Tidy start :=
  .bind (.ofRequest _) fun config => compile_tidy tidy source none config

theorem compileFile_tidy (path : String) (directives : DirectiveSource) :
    (compiler.compileFile path directives).Tidy start := by
  refine .bind (.ofRequest _) fun config => ?_
  split
  · refine .bind ?_ fun source => compile_tidy tidy source _ config
    refine .get_bind fun session => ?_
    split
    · exact .throw _
    · exact .throw _
    · split
      · exact .throw _
      · exact .pure _
  · exact .throw _

end Compiler

/-- Compiling a shader of a manifest leaves the files as they are, if the backends do. -/
theorem Build.compileShader_tidy {build : Build σ}
    (tidy : ∀ backend ∈ build.compiler.backends, ∀ request, (backend.compile request).Tidy start)
    (shader : Shader) : (build.compileShader shader).Tidy start := by
  unfold compileShader
  split
  · exact Compiler.compileInline_tidy tidy _ _
  · exact Compiler.compileFile_tidy tidy _ _
  · exact .throw _

end ShaderBuild
