import ShaderBuild.Proofs.Backend.Stops
import ShaderBuild.Proofs.Build.Tidiness

/-! # Faults that are foreseen

Some faults can only come of a misuse of the parts of a build. A build with known tools never ends in one
of these: what a tool leaves is read back as words, so it can be stored, and paths are only looked up
below a root that is one. Without a root the search for a path is the one fault that is left.
-/

namespace ShaderBuild

open ShaderBuild.Action

variable {σ α β : Type}

/-- A fault of the request or of the place where a build runs. -/
inductive Fault.Foreseen : Fault → Prop
  | refused (error : RequestError) (notes : List String) : Foreseen (.refused error notes)
  | access (fault : AccessFault) : Foreseen (.access fault)
  | encoding (fault : Text.Utf8.Fault) : Foreseen (.encoding fault)
  | nameless (path : Path) : Foreseen (.nameless path)
  | sourceless (shader : String) : Foreseen (.sourceless shader)

/-- A fault that can stop a build with a given root. -/
def Fault.Under (root : BuildRoot) (fault : Fault) : Prop :=
  fault.Foreseen ∨ root = .void ∧ fault = .rootless

/-! ## Known tools -/

/-- A backend that gives words or a foreseen fault. -/
def Backend.GivesWords (backend : Backend σ) : Prop :=
  ∀ request, (backend.compile request).Ends AreWords Fault.Foreseen

theorem Fault.Stops.foreseen {request : Request} (fault : Fault) (stops : fault.Stops request) :
    fault.Foreseen := by
  cases stops with
  | badTarget | unknownTarget | inclusion | backend => exact .refused _ _
  | access => exact .access _
  | encoding => exact .encoding _

theorem Backend.ofTool_givesWords (tool : Tool) (executable? : Option String) :
    (ofTool tool executable? : Backend σ).GivesWords := fun request =>
  (ofTool_stops tool executable? request).weaken Fault.Stops.foreseen

theorem Backend.available_giveWords (tree : FileTree) (environment : List (String × String)) :
    ∀ backend ∈ (available tree environment : List (Backend σ)), backend.GivesWords := by
  intro backend member
  obtain ⟨_, _, rfl⟩ := List.mem_map.mp member
  exact ofTool_givesWords _ _

/-! ## Builds -/

def Feedback.HasWords (feedback : Feedback) : Prop := AreWords feedback.words

theorem Dispatch.tryAll_ends {request : Request} {backends : List (Backend σ)}
    (each : ∀ backend ∈ backends, backend.GivesWords) (failures : List Failure) :
    (tryAll request failures backends).Ends Feedback.HasWords Fault.Foreseen := by
  induction backends generalizing failures with
  | nil =>
      unfold tryAll
      split
      · exact .throw (.refused _ _)
      · exact .throw (.refused _ _)
  | cons backend backends ih =>
      obtain ⟨first, rest⟩ := List.forall_mem_cons.mp each
      refine .outcome_bind (.bind (.modify _) fun _ _ => first request) fun made results stops => ?_
      split
      · next words =>
          have isWords : AreWords words := results words rfl
          dsimp only
          split
          · exact .bind (.modify _) fun _ _ => .get_bind fun _ => .pure isWords
          · exact .get_bind fun _ => .pure isWords
      · exact .bind (.modify _) fun _ _ => ih rest _
      · next fault _ => exact .throw (stops fault rfl)

theorem dispatch_ends {backends : List (Backend σ)} (each : ∀ backend ∈ backends, backend.GivesWords)
    (request : Request) : (dispatch backends request).Ends Feedback.HasWords Fault.Foreseen := by
  unfold dispatch
  split
  · exact .throw (.refused _ _)
  · refine .bind (.ofRequest (fun _ found => found) fun _ _ => .refused _ _) fun takers found => ?_
    exact Dispatch.tryAll_ends (fun taker member =>
      each taker (Dispatch.mem_of_candidates found taker member)) []

theorem Fault.Under.of_foreseen {root : BuildRoot} (fault : Fault) (foreseen : fault.Foreseen) :
    fault.Under root := .inl foreseen

/-- Below a directory every path can be resolved. -/
theorem BuildRoot.eq_void_of_resolve? {root : BuildRoot} {path : String}
    (unresolved : root.resolve? path = none) : root = .void := by
  cases root with
  | directory dir => cases unresolved
  | void => rfl

theorem BuildRoot.eq_void_of_searchPath? {root : BuildRoot} {includeDirs : List String}
    (unresolved : root.searchPath? includeDirs = none) : root = .void := by
  cases root with
  | directory dir =>
      have resolved : ∀ dirs : List String,
          dirs.mapM (BuildRoot.directory dir).resolve? = some (dirs.map dir.below) := by
        intro dirs
        induction dirs with
        | nil => rfl
        | cons first rest ih => simp [ih, resolve?, dir?]
      simp [searchPath?, resolved] at unresolved
  | void => rfl

namespace Compiler

theorem readSource_ends (path : Path) :
    (readSource path : Action σ String).Ends (fun _ => True) Fault.Foreseen := by
  refine .get_bind fun session => ?_
  split
  · exact .throw (.access _)
  · exact .throw (.refused _ _)
  · split
    · exact .throw (.refused _ _)
    · exact .pure trivial

variable {compiler : Compiler σ} (each : ∀ backend ∈ compiler.backends, backend.GivesWords)

include each

theorem compile_ends (source : String) (origin? : Option String) (config : Config) :
    (compiler.compile source origin? config).Ends Feedback.HasWords (Fault.Under compiler.root) := by
  unfold compile request?
  cases found : compiler.root.searchPath? config.includeDirs with
  | none => exact .throw (.inr ⟨BuildRoot.eq_void_of_searchPath? found, rfl⟩)
  | some searchPath => exact (dispatch_ends each _).weaken Fault.Under.of_foreseen

theorem compileInline_ends (source : String) (directives : DirectiveSource) :
    (compiler.compileInline source directives).Ends Feedback.HasWords (Fault.Under compiler.root) :=
  .bind (.ofRequest (fun _ _ => trivial) fun _ _ => .inl (.refused _ _)) fun _ _ =>
    compile_ends each _ _ _

theorem compileFile_ends (path : String) (directives : DirectiveSource) :
    (compiler.compileFile path directives).Ends Feedback.HasWords (Fault.Under compiler.root) := by
  refine .bind (.ofRequest (fun _ _ => trivial) fun _ _ => .inl (.refused _ _)) fun _ _ => ?_
  split
  · exact .bind ((readSource_ends _).weaken Fault.Under.of_foreseen) fun _ _ => compile_ends each _ _ _
  · next unresolved => exact .throw (.inr ⟨BuildRoot.eq_void_of_resolve? unresolved, rfl⟩)

end Compiler

/-- Words can be stored in every format. -/
theorem Artifact.write_ends (dir : Path) (name : String) {feedback : Feedback} (words : feedback.HasWords)
    (format : Format) :
    (write dir name feedback format none none : Action σ Written).Ends (fun _ => True)
      Fault.Foreseen := by
  refine .bind (.ofExcept (fun _ _ => trivial) fun fault fails => ?_) fun _ _ =>
    .bind (.changeTree .access _) fun _ _ => .bind (.changeTree .access _) fun _ _ =>
    .bind (.ofExcept (fun _ _ => trivial) fun fault fails => ?_) fun _ _ =>
    .bind (.changeTree .access _) fun _ _ => .bind (.changeTree .access _) fun _ _ => .pure trivial
  · unfold depfileFor at fails
    split at fails <;> cases fails
    exact .nameless _
  · unfold content at fails
    split at fails
    · cases fails
    · cases fails
    · split at fails
      · cases fails
      · next none =>
          obtain ⟨n, member, wide⟩ := Spirv.encode?_eq_none_iff.mp none
          exact (wide (words n member)).elim

namespace Build

variable {build : Build σ} (each : ∀ backend ∈ build.compiler.backends, backend.GivesWords)

include each

theorem compileShader_ends (shader : Shader) :
    (build.compileShader shader).Ends Feedback.HasWords (Fault.Under build.compiler.root) := by
  unfold compileShader
  split
  · exact Compiler.compileInline_ends each _ _
  · exact Compiler.compileFile_ends each _ _
  · exact .throw (.inl (.sourceless _))

theorem runFrom_ends (outDir : Path) (total position : Nat) (written : Artifact.Written)
    (shaders : List Shader) :
    (build.runFrom outDir total position written shaders).Ends (fun _ => True)
      (Fault.Under build.compiler.root) := by
  induction shaders generalizing position written with
  | nil => exact .pure trivial
  | cons shader shaders ih =>
      refine .bind (.modify _) fun _ _ => .bind (compileShader_ends each shader) fun feedback words => ?_
      exact .bind ((Artifact.write_ends _ _ words _).weaken Fault.Under.of_foreseen) fun _ _ => ih _ _

/-- A build with backends that give words ends in foreseen faults only, below a root that is one. -/
theorem run_ends : build.run.Ends (fun _ => True) (Fault.Under build.compiler.root) := by
  unfold run
  split
  · next unresolved =>
      have void := BuildRoot.eq_void_of_resolve? (Option.or_eq_none_iff.mp unresolved).2
      exact .throw (.inr ⟨void, rfl⟩)
  · exact .bind (.modify _) fun _ _ => .bind (.modify _) fun _ _ => runFrom_ends each _ _ _ _ _

end Build

end ShaderBuild
