import ShaderBuild.Proofs.Artifact.Writing
import ShaderBuild.Proofs.Build.FirstSuccess

/-! # What writing an artifact reports

An artifact and its depfile may go anywhere. Both are written wherever that is, but they are reported by
name, and a name stands for one file only: if the two have the same name, the artifact is not reported.
-/

namespace ShaderBuild.Artifact

open FileTree

variable {dir : Path} {name : String} {format : Format} {feedback : Feedback}

/-- Files that are known by name, and where they are. -/
def paths (written : Written) : List Path := written.map (·.2)

theorem enter_of_differ {artifact depfile : Path} (differ : artifact.name ≠ depfile.name) :
    enter [(artifact.name, artifact)] depfile.name depfile =
      [(artifact.name, artifact), (depfile.name, depfile)] := by
  simp [enter, differ]

theorem enter_of_same {artifact depfile : Path} (same : artifact.name = depfile.name) :
    enter [(artifact.name, artifact)] depfile.name depfile = [(depfile.name, depfile)] := by
  simp [enter, same]

theorem paths_enter_iff (artifact depfile : Path) :
    paths (enter [(artifact.name, artifact)] depfile.name depfile) = [artifact, depfile] ↔
      artifact.name ≠ depfile.name := by
  constructor
  · intro both same
    rw [enter_of_same same] at both
    cases both
  · intro differ
    rw [enter_of_differ differ]
    rfl

/-- The place of a depfile: the one that is given, else the artifact's with a suffix more. -/
inductive DepfileOf (artifact : Path) : Option Path → Path → Prop
  | given (depfile : Path) : DepfileOf artifact (some depfile) depfile
  | beside (named : artifact.name ≠ "") :
      DepfileOf artifact none (artifact.withName (artifact.name ++ ".d"))

theorem DepfileOf.names_differ {artifact depfile : Path} (beside : DepfileOf artifact none depfile) :
    artifact.name ≠ depfile.name := by
  cases beside
  intro same
  have lengths := congrArg (fun text => text.toList.length) same
  simp [Path.withName, Path.name] at lengths

theorem exists_depfile {σ : Type} {session after : Session σ} {artifact? depfile? : Option Path}
    {written : Written}
    (ran : (write dir name feedback format artifact? depfile?).run.run session = (.ok written, after)) :
    ∃ depfile, DepfileOf (artifact?.getD (pathIn dir name format)) depfile? depfile ∧
      (writeAt name feedback format (artifact?.getD (pathIn dir name format)) depfile).run.run session =
        (.ok written, after) := by
  cases depfile? with
  | some depfile => exact ⟨depfile, .given depfile, ran⟩
  | none =>
      obtain ⟨depfile, _, found, ran⟩ := Action.run_bind_eq_ok.mp ran
      rw [Action.run_ofExcept] at found
      obtain ⟨found, rfl⟩ := Prod.mk.inj found
      unfold depfileFor at found
      split at found
      · cases found
      · next named =>
          cases found
          exact ⟨_, .beside (by simpa using named), ran⟩

/-- Once an artifact and its depfile are written, each holds what the shader's feedback makes, if they are
    not the same file, and no other file has changed. Both are reported if and only if their names differ;
    otherwise the depfile stands for both. A depfile that is not given always has a name of its own. -/
theorem write_reports {σ : Type} {session after : Session σ} {artifact? depfile? : Option Path}
    {written : Written}
    (ran : (write dir name feedback format artifact? depfile?).run.run session = (.ok written, after)) :
    ∃ artifact depfile, artifact = artifact?.getD (pathIn dir name format) ∧
      DepfileOf artifact depfile? depfile ∧
      Leaves name feedback format artifact depfile session after ∧
      (paths written = [artifact, depfile] ↔ artifact.name ≠ depfile.name) ∧
      (artifact.name = depfile.name → written = [(depfile.name, depfile)]) ∧
      (depfile? = none → artifact.name ≠ depfile.name) := by
  obtain ⟨depfile, isDepfile, writes⟩ := exists_depfile ran
  obtain ⟨rfl, leaves⟩ := writeAt_leaves writes
  refine ⟨_, depfile, rfl, isDepfile, leaves, paths_enter_iff _ _, enter_of_same, ?_⟩
  rintro rfl
  exact isDepfile.names_differ

def oneWord : Feedback := ⟨[0x07230203], []⟩

theorem both_reported :
    ∃ after, (write (Path.ofString "out") "a" oneWord .binary (some (Path.ofString "out/a"))
        (some (Path.ofString "deps/a.d"))).run.run Dispatch.idle =
      (.ok [("a", Path.ofString "out/a"), ("a.d", Path.ofString "deps/a.d")], after) ∧
      Leaves "a" oneWord .binary (Path.ofString "out/a") (Path.ofString "deps/a.d") Dispatch.idle after ∧
      paths [("a", Path.ofString "out/a"), ("a.d", Path.ofString "deps/a.d")] =
        [Path.ofString "out/a", Path.ofString "deps/a.d"] := by
  have ran : ∃ after, (write (Path.ofString "out") "a" oneWord .binary (some (Path.ofString "out/a"))
      (some (Path.ofString "deps/a.d"))).run.run Dispatch.idle =
      (.ok [("a", Path.ofString "out/a"), ("a.d", Path.ofString "deps/a.d")], after) := ⟨_, rfl⟩
  obtain ⟨after, ran⟩ := ran
  obtain ⟨_, depfile, rfl, isDepfile, leaves, both, -, -⟩ := write_reports ran
  cases isDepfile
  exact ⟨after, ran, leaves, both.mpr (by decide)⟩

/-- Files of one name in two directories are both written, and one of them is reported. -/
theorem artifact_not_reported :
    ∃ after, (write (Path.ofString "out") "a" oneWord .binary (some (Path.ofString "out/a"))
        (some (Path.ofString "deps/a"))).run.run Dispatch.idle =
      (.ok [("a", Path.ofString "deps/a")], after) ∧
      Apart after.tree (Path.ofString "out/a") (Path.ofString "deps/a") ∧
      after.tree.read "out/a" = .ok [3, 2, 0x23, 7] ∧
      Path.ofString "out/a" ∉ paths [("a", Path.ofString "deps/a")] := by
  refine ⟨_, rfl, ?_, ?_, ?_⟩
  · rintro place ⟨⟩ ⟨⟩
  · decide +kernel
  · decide

end ShaderBuild.Artifact
