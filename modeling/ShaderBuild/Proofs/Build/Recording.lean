import ShaderBuild.Backend.Available
import ShaderBuild.Proofs.Outcome

/-! # Steps that only record what they read

Most steps of a build do nothing with the list of read files but add to it. What such a step adds
does not depend on what is on the list, so it can be told apart from it. Taking in an include is
such a step, and the compilations by the known tools are made of such steps.
-/

namespace ShaderBuild

variable {σ α β : Type}

/-- A session in which some files were read before. -/
def Session.withEarlier (session : Session σ) (earlier : List String) : Session σ :=
  { session with dependencies := earlier ++ session.dependencies }

namespace Action

/-- A step that does nothing with the list of read files but add to it. -/
def OnlyRecords (action : Action σ α) : Prop :=
  ∀ session earlier, action.run.run (session.withEarlier earlier) =
    ((action.run.run session).1, (action.run.run session).2.withEarlier earlier)

/-- The files that a step records, in order. -/
def recorded (action : Action σ α) (session : Session σ) : List String :=
  (action.run.run { session with dependencies := [] }).2.dependencies

/-- What is on the list in the end is what was on it, and then what the step has recorded. -/
theorem OnlyRecords.dependencies_eq {action : Action σ α} (records : action.OnlyRecords)
    (session : Session σ) :
    (action.run.run session).2.dependencies = session.dependencies ++ action.recorded session := by
  have split : session =
      ({ session with dependencies := [] } : Session σ).withEarlier session.dependencies := by
    simp [Session.withEarlier]
  conv => lhs; rw [split, records]
  rfl

theorem run_outcome (action : Action σ α) (session : Session σ) :
    (outcome action).run.run session =
      (.ok (action.run.run session).1, (action.run.run session).2) := rfl

namespace OnlyRecords

theorem pure (a : α) : (Pure.pure a : Action σ α).OnlyRecords := fun _ _ => rfl

theorem throw (fault : Fault) : (MonadExcept.throw fault : Action σ α).OnlyRecords := fun _ _ => rfl

theorem bind {x : Action σ α} {f : α → Action σ β} (first : x.OnlyRecords)
    (rest : ∀ a, (f a).OnlyRecords) : (x >>= f).OnlyRecords := by
  intro session earlier
  rw [Outcome.run_bind, Outcome.run_bind, first session earlier]
  rcases x.run.run session with ⟨_ | a, between⟩
  · rfl
  · exact rest a between earlier

theorem modify {f : Session σ → Session σ}
    (keeps : ∀ session earlier, f (session.withEarlier earlier) = (f session).withEarlier earlier) :
    (modify f : Action σ PUnit).OnlyRecords := by
  intro session earlier
  exact congrArg (Prod.mk _) (keeps session earlier)

/-- A step may look at all of the session but the list. -/
theorem get_bind {f : Session σ → Action σ α} (rest : ∀ session, (f session).OnlyRecords)
    (blind : ∀ session earlier, f (session.withEarlier earlier) = f session) :
    (get >>= f).OnlyRecords := by
  intro session earlier
  show (f (session.withEarlier earlier)).run.run (session.withEarlier earlier) = _
  rw [blind]
  exact rest session session earlier

/-- A step may change the rest of the session by what it has seen. -/
theorem get_set_bind {g : Session σ → Session σ} {f : Session σ → Action σ α}
    (keeps : ∀ session earlier, g (session.withEarlier earlier) = (g session).withEarlier earlier)
    (rest : ∀ session, (f session).OnlyRecords)
    (blind : ∀ session earlier, f (session.withEarlier earlier) = f session) :
    (get >>= fun session => set (g session) >>= fun _ => f session).OnlyRecords := by
  intro session earlier
  show (f (session.withEarlier earlier)).run.run (g (session.withEarlier earlier)) = _
  rw [blind, keeps]
  exact rest session (g session) earlier

theorem outcome {action : Action σ α} (records : action.OnlyRecords) :
    (outcome action).OnlyRecords := by
  intro session earlier
  rw [run_outcome, run_outcome, records]

theorem ofExcept (x : Except Fault α) : (ofExcept x : Action σ α).OnlyRecords := by
  cases x with
  | ok a => exact pure a
  | error fault => exact throw fault

theorem ofRequest (x : Except RequestError α) : (ofRequest x : Action σ α).OnlyRecords := by
  cases x with
  | ok a => exact pure a
  | error error => exact throw error.fault

theorem forM {f : α → Action σ PUnit} (each : ∀ a, (f a).OnlyRecords) (items : List α) :
    (items.forM f).OnlyRecords := by
  induction items with
  | nil => exact pure ()
  | cons item items ih => exact bind (each item) fun _ => ih

theorem record (path : String) : (record path : Action σ Unit).OnlyRecords :=
  modify fun session earlier => by simp [Session.withEarlier]

theorem changeTree (change : FileTree → FileTree.Attempt) :
    (changeTree change : Action σ Unit).OnlyRecords := by
  refine get_bind (fun session => ?_) fun _ _ => rfl
  refine bind (modify fun _ _ => rfl) fun _ => ?_
  split
  · exact pure ()
  · exact throw _

theorem withScratch {work : String → Action σ α} (records : ∀ dir, (work dir).OnlyRecords) :
    (withScratch work).OnlyRecords := by
  refine get_bind (fun session => ?_) fun _ _ => rfl
  refine bind (changeTree _) fun _ => bind (outcome (records _)) fun result => ?_
  exact bind (modify fun _ _ => rfl) fun _ => ofExcept result

end OnlyRecords

end Action

open ShaderBuild.Action

/-- Taking in an include records it and does nothing else with the list. -/
theorem Include.resolve_onlyRecords (searchPath : List Path) (wanted : Include)
    (origin? : Option String) :
    (Include.resolve searchPath wanted origin? : Action σ IncludedFile).OnlyRecords := by
  refine OnlyRecords.get_bind (fun session => ?_) fun _ _ => rfl
  refine OnlyRecords.bind (OnlyRecords.ofExcept _) fun file => ?_
  exact OnlyRecords.bind (OnlyRecords.record _) fun _ => OnlyRecords.pure _

theorem Include.recordDepfile_onlyRecords (text : String) (skip? : Option String) :
    (Include.recordDepfile text skip? : Action σ Unit).OnlyRecords := by
  refine OnlyRecords.forM (fun path => ?_) _
  split
  · exact OnlyRecords.pure _
  · exact OnlyRecords.record path

namespace Tool

theorem run_onlyRecords (tool : Tool) (executable? : Option String) (arguments : List String)
    (input? : Option String) :
    (tool.run executable? arguments input? : Action σ Bytes).OnlyRecords := by
  cases executable? with
  | none => exact OnlyRecords.throw _
  | some executable =>
      refine OnlyRecords.get_set_bind (fun _ _ => rfl) (fun session => ?_) fun _ _ => rfl
      split
      · exact OnlyRecords.throw _
      · exact OnlyRecords.throw _
      · exact OnlyRecords.bind (OnlyRecords.modify fun _ _ => rfl) fun _ => OnlyRecords.ofRequest _

theorem readOutput_onlyRecords (tool : Tool) (path : String) :
    (tool.readOutput path : Action σ (List Int)).OnlyRecords := by
  refine OnlyRecords.get_bind (fun session => ?_) fun _ _ => rfl
  split
  · exact OnlyRecords.ofRequest _
  · exact OnlyRecords.throw _

end Tool

theorem Naga.compile_onlyRecords (executable? : Option String) (request : Request) :
    (Naga.compile executable? request : Action σ (List Int)).OnlyRecords := by
  refine OnlyRecords.bind (OnlyRecords.ofRequest _) fun flags => OnlyRecords.withScratch fun dir => ?_
  refine OnlyRecords.bind (OnlyRecords.changeTree _) fun _ => ?_
  exact OnlyRecords.bind (Tool.run_onlyRecords _ _ _ _) fun _ => Tool.readOutput_onlyRecords _ _

theorem SpirvAssembler.compile_onlyRecords (executable? : Option String) (request : Request) :
    (SpirvAssembler.compile executable? request : Action σ (List Int)).OnlyRecords := by
  refine OnlyRecords.bind (OnlyRecords.ofRequest _) fun flags => OnlyRecords.withScratch fun dir => ?_
  refine OnlyRecords.bind (OnlyRecords.changeTree _) fun _ => ?_
  exact OnlyRecords.bind (Tool.run_onlyRecords _ _ _ _) fun _ => Tool.readOutput_onlyRecords _ _

namespace Shaderc

theorem recordListed_onlyRecords (depfile source : String) :
    (recordListed depfile source : Action σ Unit).OnlyRecords := by
  refine OnlyRecords.get_bind (fun session => ?_) fun _ _ => rfl
  dsimp only
  split
  · split
    · exact OnlyRecords.throw _
    · split
      · exact OnlyRecords.throw _
      · exact Include.recordDepfile_onlyRecords _ _
  · exact OnlyRecords.pure ()

theorem sourceFile_onlyRecords (request : Request) (dir : String) :
    (sourceFile request dir : Action σ (String × Option String)).OnlyRecords := by
  unfold sourceFile
  split
  · exact OnlyRecords.pure _
  · exact OnlyRecords.bind (OnlyRecords.changeTree _) fun _ => OnlyRecords.pure _

theorem compile_onlyRecords (executable? : Option String) (request : Request) :
    (compile executable? request : Action σ (List Int)).OnlyRecords := by
  refine OnlyRecords.bind (OnlyRecords.ofRequest _) fun _ => ?_
  refine OnlyRecords.bind (OnlyRecords.ofRequest _) fun flags => OnlyRecords.withScratch fun dir => ?_
  refine OnlyRecords.bind (sourceFile_onlyRecords request dir) fun file => ?_
  refine OnlyRecords.bind (OnlyRecords.outcome (Tool.run_onlyRecords _ _ _ _)) fun result => ?_
  cases result with
  | error fault => exact OnlyRecords.throw _
  | ok =>
      refine OnlyRecords.bind (recordListed_onlyRecords _ _) fun _ => ?_
      exact Tool.readOutput_onlyRecords _ _

end Shaderc

/-- The known backends only record what they read. -/
theorem Backend.available_onlyRecords {tree : FileTree} {environment : List (String × String)}
    {backend : Backend σ} (member : backend ∈ available tree environment) (request : Request) :
    (backend.compile request).OnlyRecords := by
  obtain ⟨⟨tool, executable⟩, -, rfl⟩ := List.mem_map.mp member
  show ((ofTool tool (some executable)).compile request).OnlyRecords
  unfold ofTool
  split
  · exact Naga.compile_onlyRecords _ request
  · split
    · exact Shaderc.compile_onlyRecords _ request
    · exact SpirvAssembler.compile_onlyRecords _ request

end ShaderBuild
