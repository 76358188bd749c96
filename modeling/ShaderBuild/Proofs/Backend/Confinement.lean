import ShaderBuild.Proofs.Backend.Compilation
import ShaderBuild.Proofs.Build.Tidiness
import ShaderBuild.Proofs.Files.Confined

/-! # The known tools keep to their scratch directory

A compilation by a known tool writes in a directory of its own, which is gone afterwards. If the tools
do so as well, a compilation leaves the files as they are.
-/

namespace ShaderBuild

open FileTree

variable {σ α β : Type} {start : Session σ} {place : Location}

/-- Tools that write into a scratch directory only. -/
def Launcher.StaysIn (launcher : Launcher) (scratch : String) : Prop :=
  ∀ tree calls call run, launcher tree calls call = .finished run →
    ∀ file ∈ run.written, ∀ place spot, tree.locate scratch = .ok place →
      tree.locate file.1 = .ok spot → place.Below spot

namespace Action

/-- A step that changes nothing but the files of a scratch directory that stands at a place. -/
def WorksIn (start : Session σ) (place : Location) (action : Action σ α) : Prop :=
  ∀ session, start.SameWorld session → session.tree.locate start.scratch = .ok place →
    start.SameWorld (action.run.run session).2 ∧
      ChangedBelow place session.tree (action.run.run session).2.tree

namespace WorksIn

theorem pure (a : α) : (Pure.pure a : Action σ α).WorksIn start place :=
  fun session same _ => ⟨same, .refl place session.tree⟩

theorem throw (fault : Fault) : (MonadExcept.throw fault : Action σ α).WorksIn start place :=
  fun session same _ => ⟨same, .refl place session.tree⟩

theorem bind {x : Action σ α} {f : α → Action σ β} (first : x.WorksIn start place)
    (rest : ∀ a, (f a).WorksIn start place) : (x >>= f).WorksIn start place := by
  intro session same located
  obtain ⟨still, changed⟩ := first session same located
  rw [Outcome.run_bind]
  revert still changed
  rcases x.run.run session with ⟨_ | a, between⟩
  · exact fun still changed => ⟨still, changed⟩
  · intro still changed
    obtain ⟨last, more⟩ := rest a between still (changed.directories.locate.mpr located)
    exact ⟨last, changed.trans more⟩

theorem get_bind {f : Session σ → Action σ α} (rest : ∀ session, (f session).WorksIn start place) :
    (get >>= f).WorksIn start place := fun session same located => rest session session same located

theorem outcome {action : Action σ α} (works : action.WorksIn start place) :
    (outcome action).WorksIn start place := works

theorem ofRequest (x : Except RequestError α) : (ofRequest x : Action σ α).WorksIn start place := by
  cases x with
  | ok a => exact pure a
  | error error => exact throw error.fault

theorem record (path : String) : (record path : Action σ Unit).WorksIn start place :=
  fun session same _ => ⟨same.moved, .refl place session.tree⟩

theorem forM {f : α → Action σ PUnit} (each : ∀ a, (f a).WorksIn start place) (items : List α) :
    (items.forM f).WorksIn start place := by
  induction items with
  | nil => exact pure ()
  | cons item items ih => exact bind (each item) fun _ => ih

theorem writeFile {name : String} (isEntry : IsEntry name) (content : Bytes) :
    (writeFile (inside start.scratch name) content : Action σ Unit).WorksIn start place := by
  intro session same located
  rw [Action.writeFile, run_changeTree]
  exact ⟨same.moved,
    .of_attempt _ content fun _ leads => below_of_inside isEntry located leads⟩

end WorksIn

/-- Work in a scratch directory leaves nothing behind, if it keeps to the directory. -/
theorem withScratch_tidy {work : String → Action σ α}
    (works : ∀ place, (work start.scratch).WorksIn start place) : (withScratch work).Tidy start := by
  intro session same rooted
  rw [← same.scratch] at works
  unfold withScratch
  rw [Outcome.run_get_bind, Outcome.run_bind, run_changeTree, attempt]
  cases made : session.tree.makeDirectory session.scratch with
  | error fault => exact ⟨same.moved, fun _ => rfl⟩
  | ok grown =>
      obtain ⟨place, located, named, free, rfl⟩ := makeDirectory_eq_ok made
      have ready : (session.tree.put place .directory).locate session.scratch = .ok place :=
        locate_keeps located (keeps_put_directory named)
      obtain ⟨still, worked⟩ := works place { session with tree := session.tree.put place .directory }
        same.moved (same.scratch ▸ ready)
      dsimp only [Option.elim]
      rw [Outcome.run_bind, run_outcome]
      dsimp only
      rw [Outcome.run_bind, run_modify]
      dsimp only
      rw [run_ofExcept]
      exact ⟨still.moved,
        node?_of_worked rooted located named free worked⟩

end Action

open ShaderBuild.Action

/-! ## Tools -/

namespace Tool

theorem leave_changedBelow {tree : FileTree} {written : List (String × Bytes)}
    (inside : ∀ file ∈ written, ∀ spot, tree.locate file.1 = .ok spot → place.Below spot) :
    ChangedBelow place tree (leave tree written) := by
  induction written using List.reverseRecOn with
  | nil => exact .refl place tree
  | append_singleton written file ih =>
      obtain ⟨before, last⟩ := List.forall_mem_append.mp inside
      rw [leave_concat]
      refine (ih before).trans (.of_attempt _ _ fun spot leads => ?_)
      exact last file (List.mem_singleton_self file) spot
        ((leave_sameDirectories tree written).locate.mp leads)

variable (stays : start.launcher.StaysIn start.scratch)

include stays in
theorem run_worksIn (tool : Tool) (executable? : Option String) (arguments : List String)
    (input? : Option String) : (tool.run executable? arguments input?).WorksIn start place := by
  cases executable? with
  | none => exact .throw _
  | some executable =>
      intro session same located
      rw [run_run_some]
      cases ends : session.launcher session.tree session.calls ⟨executable :: arguments, input?⟩ with
      | cannotStart fault =>
          exact ⟨same.moved, .refl place session.tree⟩
      | nul => exact ⟨same.moved, .refl place session.tree⟩
      | finished run =>
          rw [same.launcher] at ends
          refine ⟨same.moved, leave_changedBelow ?_⟩
          exact fun file member spot => stays _ _ _ run ends file member place spot located

theorem readOutput_worksIn (tool : Tool) (path : String) :
    (tool.readOutput path : Action σ (List Int)).WorksIn start place := by
  refine .get_bind fun session => ?_
  split
  · exact .ofRequest _
  · exact .throw _

end Tool

/-! ## Compilations -/

section

variable (stays : start.launcher.StaysIn start.scratch)

include stays

theorem Naga.compile_tidy (executable? : Option String) (request : Request) :
    (Naga.compile executable? request).Tidy start := by
  refine .bind (.ofRequest _) fun flags => withScratch_tidy fun place => ?_
  have input : start.scratch ++ "/input.wgsl" = inside start.scratch "input.wgsl" := inside_eq _ rfl
  rw [input]
  refine .bind (.writeFile (.of_long (by decide) (by decide)) _) fun _ => ?_
  exact .bind (Tool.run_worksIn stays _ _ _ _) fun _ => Tool.readOutput_worksIn _ _

theorem SpirvAssembler.compile_tidy (executable? : Option String) (request : Request) :
    (SpirvAssembler.compile executable? request).Tidy start := by
  refine .bind (.ofRequest _) fun flags => withScratch_tidy fun place => ?_
  have input : start.scratch ++ "/input.spvasm" = inside start.scratch "input.spvasm" :=
    inside_eq _ rfl
  rw [input]
  refine .bind (.writeFile (.of_long (by decide) (by decide)) _) fun _ => ?_
  exact .bind (Tool.run_worksIn stays _ _ _ _) fun _ => Tool.readOutput_worksIn _ _

namespace Shaderc

omit stays in
theorem recordListed_worksIn (depfile source : String) :
    (recordListed depfile source : Action σ Unit).WorksIn start place := by
  refine .get_bind fun session => ?_
  dsimp only
  split
  · split
    · exact .throw _
    · split
      · exact .throw _
      · refine .forM (fun path => ?_) _
        split
        · exact .pure _
        · exact .record path
  · exact .pure _

omit stays in
theorem sourceFile_worksIn (request : Request) :
    (sourceFile request start.scratch : Action σ _).WorksIn start place := by
  cases inline : request.origin? with
  | some origin =>
      unfold sourceFile
      rw [inline]
      exact .pure _
  | none =>
      rw [Backend.sourceFile_inline inline]
      exact .bind (.writeFile (Backend.isShort_inline request.config).isEntry _) fun _ => .pure _

theorem compile_tidy (executable? : Option String) (request : Request) :
    (compile executable? request).Tidy start := by
  refine .bind (.ofRequest _) fun _ => .bind (.ofRequest _) fun flags => withScratch_tidy fun place => ?_
  refine .bind (sourceFile_worksIn request) fun (source, input?) => ?_
  refine .bind (.outcome (Tool.run_worksIn stays _ _ _ _)) fun result => ?_
  split
  · exact .throw _
  · exact .bind (recordListed_worksIn _ _) fun _ => Tool.readOutput_worksIn _ _

end Shaderc

/-- A compilation by a known tool leaves the files as they are. -/
theorem Backend.ofTool_tidy (tool : Tool) (executable? : Option String) (request : Request) :
    ((ofTool tool executable?).compile request).Tidy start := by
  unfold ofTool
  split
  · exact Naga.compile_tidy stays executable? request
  · split
    · exact Shaderc.compile_tidy stays executable? request
    · exact SpirvAssembler.compile_tidy stays executable? request

end

end ShaderBuild
