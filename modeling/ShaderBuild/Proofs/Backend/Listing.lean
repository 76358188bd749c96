import ShaderBuild.Backend.Shaderc
import ShaderBuild.Proofs.Build.Steps
import ShaderBuild.Proofs.Files.Touching

/-! # What a depfile adds to the read files

The paths of a depfile are noted as they stand there, in order and with repeats. Only the file that was
compiled is left out.
-/

namespace ShaderBuild

variable {σ : Type} {session after : Session σ}

/-- A session in which some more files have been read. -/
def Session.noting (session : Session σ) (paths : List String) : Session σ :=
  { session with dependencies := session.dependencies ++ paths }

theorem Session.noting_nil : session.noting [] = session := by
  rw [noting, List.append_nil]

theorem Session.noting_noting (earlier later : List String) :
    (session.noting earlier).noting later = session.noting (earlier ++ later) := by
  rw [noting, noting, noting, List.append_assoc]

theorem Include.run_recordDepfile (text skip : String) (session : Session σ) :
    (recordDepfile text (some skip)).run.run session =
      (.ok (), session.noting ((Depfile.parse text).filter (· ≠ skip))) := by
  unfold recordDepfile
  generalize Depfile.parse text = paths
  rw [List.forM_eq_forM]
  induction paths generalizing session with
  | nil => exact congrArg (Prod.mk _) Session.noting_nil.symm
  | cons path paths ih =>
      rw [List.forM_cons, Outcome.run_bind]
      by_cases skipped : path = skip
      · rw [if_pos (congrArg some skipped), List.filter_cons_of_neg (by simpa using skipped)]
        exact ih session
      · rw [if_neg (by simpa using skipped), List.filter_cons_of_pos (by simpa using skipped),
          ← List.singleton_append, ← Session.noting_noting]
        exact ih (session.noting [path])

namespace Shaderc

/-- What the depfile at a path lists, if there is one. -/
inductive Lists (tree : FileTree) (depfile : String) : List String → Prop
  | absent (none : ¬tree.isFile depfile) : Lists tree depfile []
  | text {bytes : Bytes} {text : List Char} (read : tree.read depfile = .ok bytes)
      (decodes : Text.Utf8.decode bytes = .ok text) :
      Lists tree depfile (Depfile.parse (String.ofList (Text.universalNewlines text)))

theorem run_recordListed_eq_ok {depfile source : String} :
    (recordListed depfile source).run.run session = (.ok (), after) ↔
      ∃ paths, Lists session.tree depfile paths ∧ session.noting (paths.filter (· ≠ source)) = after := by
  unfold recordListed
  rw [Outcome.run_get_bind]
  dsimp only
  by_cases present : session.tree.isFile depfile
  · obtain ⟨bytes, read⟩ := FileTree.isFile_iff.mp present
    rw [if_pos present, read]
    dsimp only
    cases decodes : Text.Utf8.decode bytes with
    | error fault =>
        refine ⟨nofun, ?_⟩
        rintro ⟨_, none | ⟨readToo, decodesToo⟩, -⟩
        · exact absurd present none
        · cases read.symm.trans readToo
          cases decodes.symm.trans decodesToo
    | ok text =>
        dsimp only
        rw [Include.run_recordDepfile]
        constructor
        · rintro ⟨⟩
          exact ⟨_, .text read decodes, rfl⟩
        · rintro ⟨_, none | ⟨readToo, decodesToo⟩, rfl⟩
          · exact absurd present none
          · cases read.symm.trans readToo
            cases decodes.symm.trans decodesToo
            rfl
  · rw [if_neg present]
    constructor
    · rintro ⟨⟩
      exact ⟨[], .absent present, Session.noting_nil⟩
    · rintro ⟨_, _ | ⟨read, _⟩, rfl⟩
      · exact congrArg (Prod.mk _) Session.noting_nil.symm
      · exact absurd (FileTree.isFile_iff.mpr ⟨_, read⟩) present

end Shaderc

end ShaderBuild
