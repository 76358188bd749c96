import ShaderBuild.Proofs.Build.ManifestRun

/-! # What a run writes

A run writes the files of its shaders and nothing else, whatever comes of it. It goes through a list of
shaders as it goes through a front part of it and then through the rest.
-/

namespace ShaderBuild

open Artifact FileTree

variable {σ α β : Type}

theorem FileTree.Touches.weaken {paths more : List String} {tree grown : FileTree}
    (touches : Touches paths tree grown) (within : paths ⊆ more) :
    Touches more tree grown where
  keeps := touches.keeps
  rooted := touches.rooted
  file place content executable elsewhere :=
    touches.file place content executable fun path member => elsewhere path (within member)

namespace Action

variable {start : Session σ} {paths : List String}

/-- A step that writes to the files of these paths only, whatever comes of it. -/
def WritesTo (start : Session σ) (paths : List String) (action : Action σ α) : Prop :=
  ∀ session, start.SameWorld session → session.tree.Rooted →
    start.SameWorld (action.run.run session).2 ∧
      Touches paths session.tree (action.run.run session).2.tree

namespace WritesTo

theorem of_tidy {action : Action σ α} (tidy : action.Tidy start) : action.WritesTo start [] := by
  intro session same rooted
  obtain ⟨still, places⟩ := tidy session same rooted
  exact ⟨still, .of_same (fun rooted => rooted.of_same places) places⟩

theorem weaken {more : List String} {action : Action σ α} (writes : action.WritesTo start paths)
    (within : paths ⊆ more) : action.WritesTo start more := by
  intro session same rooted
  obtain ⟨still, touches⟩ := writes session same rooted
  exact ⟨still, touches.weaken within⟩

theorem bind {x : Action σ α} {f : α → Action σ β} (first : x.WritesTo start paths)
    (rest : ∀ a, (f a).WritesTo start paths) : (x >>= f).WritesTo start paths := by
  intro session same rooted
  obtain ⟨still, touches⟩ := first session same rooted
  rw [Outcome.run_bind]
  revert still touches
  rcases x.run.run session with ⟨_ | a, between⟩
  · exact fun still touches => ⟨still, touches⟩
  · intro still touches
    obtain ⟨last, more⟩ := rest a between still (touches.rooted rooted)
    exact ⟨last, (touches.trans more).weaken (List.append_subset.mpr ⟨.refl _, .refl _⟩)⟩

theorem pure (a : α) : (Pure.pure a : Action σ α).WritesTo start paths :=
  weaken (of_tidy (.pure a)) (List.nil_subset _)

theorem ofExcept (x : Except Fault α) : (ofExcept x : Action σ α).WritesTo start paths := by
  refine weaken (of_tidy ?_) (List.nil_subset _)
  cases x with
  | ok a => exact .pure a
  | error fault => exact .throw fault

theorem log (entry : Log.Entry) : (log entry : Action σ Unit).WritesTo start paths :=
  weaken (of_tidy (.log entry)) (List.nil_subset _)

theorem makeParent (path : Path) : (makeParent path : Action σ Unit).WritesTo start paths := by
  intro session same _
  rw [Artifact.makeParent, run_changeTree]
  exact ⟨same.moved,
    (Touches.of_grows (grows_makeDirectories session.tree path.parent)).weaken (List.nil_subset _)⟩

theorem writeFile {path : String} (content : Bytes) (member : path ∈ paths) :
    (writeFile path content : Action σ Unit).WritesTo start paths := by
  intro session same _
  rw [Action.writeFile, run_changeTree]
  refine ⟨same.moved, ?_⟩
  rw [attempt]
  cases written : session.tree.write path content with
  | error fault => exact (Touches.refl session.tree).weaken (List.nil_subset _)
  | ok grown =>
      obtain ⟨place, located, wrote⟩ := write_eq_ok written
      exact (Touches.of_wrote located wrote).weaken (List.cons_subset.mpr ⟨member, List.nil_subset _⟩)

end WritesTo

end Action

open ShaderBuild.Action

namespace Artifact

variable {dir : Path} {name : String} {format : Format} {feedback : Feedback} {start : Session σ}

/-- A shader's files are the only ones that are written for it, also if that goes wrong half way. -/
theorem write_writesTo (named : isIdentifier name = true) :
    (write dir name feedback format none none).WritesTo start
      ((entries dir name format).map fun entry => entry.2.toString) := by
  rw [write_eq named]
  refine .bind (.makeParent _) fun _ => .bind (.makeParent _) fun _ => .bind (.ofExcept _) fun bytes => ?_
  refine .bind (.writeFile bytes ?_) fun _ => .bind (.writeFile _ ?_) fun _ => .pure _
  · simp [entries]
  · simp [entries]

end Artifact

namespace Build

variable {build : Build σ} {start session : Session σ} {outDir : Path} {total position : Nat}

/-- A run writes the files of its shaders and no others, also if it stops half way. -/
theorem runFrom_writesTo
    (tidy : ∀ backend ∈ build.compiler.backends, ∀ request, (backend.compile request).Tidy start)
    {shaders : List Shader} (named : ∀ shader ∈ shaders, isIdentifier shader.name = true)
    (written : Written) : (build.runFrom outDir total position written shaders).WritesTo start
      ((shaders.flatMap (build.filesOf outDir)).map fun entry => entry.2.toString) := by
  induction shaders generalizing position written with
  | nil => exact .pure _
  | cons shader shaders ih =>
      obtain ⟨first, others⟩ := List.forall_mem_cons.mp named
      rw [List.flatMap_cons, List.map_append]
      refine .bind (.log _) fun _ => .bind ?_ fun feedback => .bind ?_ fun files => ?_
      · exact (WritesTo.of_tidy (compileShader_tidy tidy shader)).weaken (List.nil_subset _)
      · exact (write_writesTo first).weaken (List.subset_append_left _ _)
      · exact (ih others _).weaken (List.subset_append_right _ _)

theorem runFrom_append (before more : List Shader) (written : Written) :
    build.runFrom outDir total position written (before ++ more) =
      build.runFrom outDir total position written before >>= fun all =>
        build.runFrom outDir total (position + before.length) all more := by
  induction before generalizing position written with
  | nil => rfl
  | cons shader before ih =>
      simp only [List.cons_append, runFrom, bind_assoc, ih, List.length_cons, Nat.add_assoc position,
        Nat.add_comm 1]

end Build

end ShaderBuild
