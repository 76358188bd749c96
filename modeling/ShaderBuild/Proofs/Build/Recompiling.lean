import ShaderBuild.Proofs.Build.Tidiness
import ShaderBuild.Proofs.Include.Reading

/-! # Compiling again

If the backends read through the include search only, what a compilation comes to depends on a tree only
through the paths that it looks at. Where these show what they have shown before, it comes to the same.
-/

namespace ShaderBuild

open FileTree

variable {σ : Type} {start session again after : Session σ}

/-- A session of the same world, with other files. -/
structure Session.Like (start session : Session σ) : Prop where
  world : start.SameWorld session
  rooted : session.tree.Rooted

/-- A session that has moved on without changes to the files. -/
theorem Session.Like.of_samePlaces (like : start.Like session) (world : start.SameWorld after)
    (same : SamePlaces session.tree after.tree) : start.Like after := ⟨world, like.rooted.of_same same⟩

/-- A backend whose compilations come to what some reading of included files comes to. -/
structure Backend.ReadsBy (start : Session σ) (backend : Backend σ) (reading : Request → Reading) :
    Prop where
  result : ∀ request session, start.Like session →
    ((backend.compile request).run.run session).1 =
      (((reading request).action request.searchPath).run.run session).1
  dependencies : ∀ request session, start.Like session →
    ((backend.compile request).run.run session).2.dependencies =
      (((reading request).action request.searchPath).run.run session).2.dependencies
  tidy : ∀ request, (backend.compile request).Tidy start

/-! ## Compiling again -/

section

variable {reading : Backend σ → Request → Reading} {request : Request}

theorem Backend.ReadsBy.run_afresh {backend : Backend σ} {read : Request → Reading}
    (reads : backend.ReadsBy start read) (like : start.Like session) (request : Request) :
    ∃ ended, (backend.compile request).run.run (session.afresh request) =
        ((read request).result session.tree request.searchPath, ended) ∧
      ended.dependencies =
        request.origin?.toList ++ (read request).records session.tree request.searchPath ∧
      start.SameWorld ended ∧ SamePlaces session.tree ended.tree := by
  have same : start.Like (session.afresh request) :=
    ⟨like.world.moved, like.rooted⟩
  have result := reads.result request _ same
  have dependencies := reads.dependencies request _ same
  have tidy := reads.tidy request _ same.world same.rooted
  rw [Reading.run_action] at result dependencies
  exact ⟨((backend.compile request).run.run (session.afresh request)).2, Prod.ext result rfl,
    dependencies, tidy⟩

namespace Dispatch

/-- The paths that the attempts at a request look at, up to the one that ends them. -/
def looks (reading : Backend σ → Request → Reading) (tree : FileTree) (request : Request) :
    List (Backend σ) → List String
  | [] => []
  | backend :: others =>
    (reading backend request).looks tree request.searchPath ++
      match (reading backend request).result tree request.searchPath with
      | .error (.refused ..) => looks reading tree request others
      | _ => []

theorem looks_of_samePlaces {tree grown : FileTree} (same : SamePlaces tree grown)
    (backends : List (Backend σ)) :
    looks reading grown request backends = looks reading tree request backends := by
  induction backends with
  | nil => rfl
  | cons backend others ih =>
      rw [looks, looks, Reading.looks_of_samePlaces same, ih,
        (Reading.of_sameAt fun path _ => same.sameAt path).1]

/-- Backends that have led to a feedback do so again where all that they look at is as it was. -/
theorem tryAll_again {backends : List (Backend σ)} {earlier others : List Failure} {feedback : Feedback}
    (reads : ∀ backend ∈ backends, backend.ReadsBy start (reading backend))
    (like : start.Like session) (likeAgain : start.Like again)
    (same : ∀ path ∈ looks reading session.tree request backends, SameAt path session.tree again.tree)
    (ran : (tryAll request earlier backends).run.run session = (.ok feedback, after)) :
    ∃ last, (tryAll request others backends).run.run again = (.ok feedback, last) := by
  induction backends generalizing session again earlier others with
  | nil =>
      unfold tryAll at ran
      split at ran <;> cases ran
  | cons backend backends ih =>
      obtain ⟨first, rest⟩ := List.forall_mem_cons.mp reads
      obtain ⟨ended, compiled, records, endedWorld, endedPlaces⟩ := first.run_afresh like request
      obtain ⟨endedAgain, compiledAgain, recordsAgain, worldEnded, placesEnded⟩ :=
        first.run_afresh likeAgain request
      obtain ⟨here, later⟩ := List.forall_mem_append.mp same
      obtain ⟨sameResult, sameRecords⟩ := Reading.of_sameAt here
      rw [sameResult] at compiledAgain
      rw [sameRecords, ← records] at recordsAgain
      cases result : (reading backend request).result session.tree request.searchPath with
      | ok words =>
          rw [result] at compiled compiledAgain
          rw [run_tryAll_of_ok compiled] at ran
          cases ran
          rw [run_tryAll_of_ok compiledAgain, recordsAgain]
          exact ⟨_, rfl⟩
      | error fault =>
          rw [result] at compiled compiledAgain later
          by_cases refuses : ∃ error notes, fault = .refused error notes
          · obtain ⟨error, notes, rfl⟩ := refuses
            rw [run_tryAll_of_refused compiled] at ran
            rw [run_tryAll_of_refused compiledAgain]
            -- A failed attempt has changed nothing that the next one could see.
            have moved : start.Like (warned backend error ended) := like.of_samePlaces
              endedWorld.moved endedPlaces
            have movedAgain : start.Like (warned backend error endedAgain) := likeAgain.of_samePlaces
              worldEnded.moved placesEnded
            refine ih rest moved movedAgain (fun path member => ?_) ran
            have looked : path ∈ looks reading session.tree request backends := by
              rwa [← looks_of_samePlaces endedPlaces]
            exact ((endedPlaces.symm.sameAt path).trans (later path looked)).trans
              (placesEnded.sameAt path)
          · have other : ∀ error notes, fault ≠ .refused error notes :=
              fun error notes is => refuses ⟨error, notes, is⟩
            rw [run_tryAll_of_fault compiled other] at ran
            cases ran

end Dispatch

theorem dispatch_again {backends : List (Backend σ)} {feedback : Feedback}
    (reads : ∀ backend ∈ backends, backend.ReadsBy start (reading backend))
    (like : start.Like session) (likeAgain : start.Like again)
    (same : ∀ path ∈ Dispatch.looks reading session.tree request
      (Dispatch.takers backends request.config), SameAt path session.tree again.tree)
    (ran : (dispatch backends request).run.run session = (.ok feedback, after)) :
    ∃ last, (dispatch backends request).run.run again = (.ok feedback, last) := by
  cases valid : request.config.target with
  | error pair =>
      rw [Dispatch.run_dispatch_of_bad valid] at ran
      cases ran
  | ok target =>
      by_cases none : Dispatch.takers backends request.config = []
      · rw [Dispatch.run_dispatch_of_none valid none] at ran
        cases ran
      · rw [Dispatch.run_dispatch_of_some valid none] at ran ⊢
        refine Dispatch.tryAll_again (fun backend member => ?_) like likeAgain same ran
        exact reads backend (List.mem_filter.mp member).1

namespace Compiler

variable {compiler : Compiler σ} {feedback : Feedback}

/-- The paths that a compilation with a parsed config looks at. -/
def looks (compiler : Compiler σ) (reading : Backend σ → Request → Reading) (tree : FileTree)
    (source : String) (origin? : Option String) (config : Config) : List String :=
  match compiler.request? source origin? config with
  | some request =>
    Dispatch.looks reading tree request (Dispatch.takers compiler.backends request.config)
  | none => []

theorem compile_again {source : String} {origin? : Option String} {config : Config}
    (reads : ∀ backend ∈ compiler.backends, backend.ReadsBy start (reading backend))
    (like : start.Like session) (likeAgain : start.Like again)
    (same : ∀ path ∈ compiler.looks reading session.tree source origin? config,
      SameAt path session.tree again.tree)
    (ran : (compiler.compile source origin? config).run.run session = (.ok feedback, after)) :
    ∃ last, (compiler.compile source origin? config).run.run again = (.ok feedback, last) := by
  unfold compile at ran ⊢
  unfold looks at same
  cases known : compiler.request? source origin? config with
  | none =>
      rw [known] at ran
      cases ran
  | some request =>
      rw [known] at ran same
      exact dispatch_again reads like likeAgain same ran

/-- A source is the same wherever its path shows the same. -/
theorem readSource_again {path : Path} (same : SameAt path.toString session.tree again.tree) :
    ((readSource path).run.run again).1 = ((readSource path).run.run session).1 := by
  unfold readSource
  rw [Outcome.run_get_bind, Outcome.run_get_bind, same.read]
  split
  · rfl
  · rfl
  · split <;> rfl

end Compiler

namespace Build

variable {build : Build σ} {feedback : Feedback}

/-- The paths that the compilation of a shader looks at: its source, and what its backends look at. -/
def looks (build : Build σ) (reading : Backend σ → Request → Reading) (shader : Shader)
    (session : Session σ) : List String :=
  match Directive.parseConfig {} (.items (shader.directiveList build.manifest.defaults)) with
  | .error _ => []
  | .ok config =>
    match shader.inline?, shader.source? with
    | some source, _ => build.compiler.looks reading session.tree source none config
    | none, some path =>
      match build.compiler.root.resolve? path with
      | none => []
      | some full =>
        full.toString ::
          match ((Compiler.readSource full).run.run session).1 with
          | .ok source => build.compiler.looks reading session.tree source (some full.toString) config
          | .error _ => []
    | none, none => []

theorem compileShader_again {shader : Shader}
    (reads : ∀ backend ∈ build.compiler.backends, backend.ReadsBy start (reading backend))
    (like : start.Like session) (likeAgain : start.Like again)
    (same : ∀ path ∈ build.looks reading shader session, SameAt path session.tree again.tree)
    (ran : (build.compileShader shader).run.run session = (.ok feedback, after)) :
    ∃ last, (build.compileShader shader).run.run again = (.ok feedback, last) := by
  unfold compileShader at ran ⊢
  unfold looks at same
  dsimp only at ran ⊢
  cases parses : Directive.parseConfig {} (.items (shader.directiveList build.manifest.defaults)) with
  | error e =>
      unfold Compiler.compileInline Compiler.compileFile Compiler.configOf at ran
      rw [parses] at ran
      split at ran <;> cases ran
  | ok config =>
      rw [parses] at same
      split at ran
      · next source inline =>
          rw [inline] at same
          rw [Compiler.compileInline_of_parsed parses] at ran ⊢
          exact Compiler.compile_again reads like likeAgain same ran
      · next path outside sourced =>
          rw [outside, sourced] at same
          dsimp only at same
          rw [Compiler.compileFile_of_parsed parses] at ran ⊢
          cases placed : build.compiler.root.resolve? path with
          | none =>
              rw [placed] at ran
              cases ran
          | some full =>
              rw [placed] at ran same
              obtain ⟨here, later⟩ := List.forall_mem_cons.mp same
              dsimp only at ran ⊢
              rw [Outcome.run_bind, Compiler.run_readSource] at ran ⊢
              rw [Compiler.readSource_again here]
              cases text : ((Compiler.readSource full).run.run session).1 with
              | error fault =>
                  rw [text] at ran
                  cases ran
              | ok source =>
                  rw [text] at ran later
                  exact Compiler.compile_again reads like likeAgain later ran
      · cases ran

end Build

end

end ShaderBuild
