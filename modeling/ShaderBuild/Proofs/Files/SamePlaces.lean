import ShaderBuild.Proofs.Files.Confined

/-! # Changes that change nothing

Two trees with the same at every place look the same at every path. Making a directory that is there and
writing what a file holds already give such a tree.
-/

namespace ShaderBuild.FileTree

variable {tree grown : FileTree} {place : Location} {path : String} {dir : Path} {content : Bytes}

/-- Two trees that show the same at a path: one file, or the same reason for none. -/
structure SameAt (path : String) (tree grown : FileTree) : Prop where
  found : grown.findFile path = tree.findFile path
  read : grown.read path = tree.read path

/-- Two trees with the same at every place. -/
def SamePlaces (tree grown : FileTree) : Prop := ∀ place, grown.node? place = tree.node? place

namespace SamePlaces

theorem symm (same : SamePlaces tree grown) : SamePlaces grown tree := fun place => (same place).symm

theorem trans {middle : FileTree} (one : SamePlaces tree middle) (other : SamePlaces middle grown) :
    SamePlaces tree grown := fun place => (other place).trans (one place)

theorem walk (same : SamePlaces tree grown) (subject : String) (parts : List String) :
    grown.walk subject place parts = tree.walk subject place parts := by
  induction parts generalizing place with
  | nil => rfl
  | cons part parts ih => simp only [FileTree.walk, same place, ih]

theorem locate (same : SamePlaces tree grown) (path : String) : grown.locate path = tree.locate path := by
  simp only [FileTree.locate, same.walk]

theorem sameAt (same : SamePlaces tree grown) (path : String) : SameAt path tree grown where
  found := by simp only [findFile, same.locate, same _]
  read := by simp only [FileTree.read, same.locate, same _]

end SamePlaces

theorem SameAt.trans {middle : FileTree} (one : SameAt path tree middle)
    (other : SameAt path middle grown) : SameAt path tree grown :=
  ⟨other.found.trans one.found, other.read.trans one.read⟩

/-! ## Directories that are there -/

theorem isDirectory_iff : tree.isDirectory path = true ↔
    ∃ place, tree.locate path = .ok place ∧ tree.node? place = some .directory := by
  unfold isDirectory at?
  cases tree.locate path with
  | error fault => simp
  | ok place =>
      dsimp only
      cases found : tree.node? place with
      | none => simp [found]
      | some node => cases node <;> simp [found]

theorem isDirectory_keeps (isDirectory : tree.isDirectory path = true) (keeps : Keeps tree grown) :
    grown.isDirectory path = true := by
  obtain ⟨place, located, directory⟩ := isDirectory_iff.mp isDirectory
  exact isDirectory_iff.mpr ⟨place, locate_keeps located keeps, keeps place directory⟩

theorem isDirectory_of_ensureDirectory (made : tree.ensureDirectory dir = .ok grown) :
    grown.isDirectory dir.toString = true := by
  unfold ensureDirectory at made
  split at made
  · next makes =>
      cases made
      obtain ⟨place, located, named, free, rfl⟩ := makeDirectory_eq_ok makes
      refine isDirectory_iff.mpr ⟨place, locate_keeps located (keeps_put_directory named), ?_⟩
      rw [node?_put named, if_pos rfl]
  · cases made
  · split at made
    · next there =>
        cases made
        exact there.2
    · cases made

/-- A directory that was made with the ones above it is there. -/
theorem isDirectory_of_makeDirectories (made : tree.makeDirectories dir = (grown, none)) :
    grown.isDirectory dir.toString = true := by
  have ensured {tree : FileTree} {dir : Path}
      (ensures : tree.attempt (·.ensureDirectory dir) = (grown, none)) :
      grown.isDirectory dir.toString = true := by
    unfold attempt at ensures
    split at ensures
    · next makes =>
        cases ensures
        exact isDirectory_of_ensureDirectory makes
    · cases ensures
  unfold makeDirectories at made
  cases fuel : dir.parts.length with
  | zero =>
      rw [fuel] at made
      exact ensured made
  | succ fuel' =>
      rw [fuel] at made
      unfold makeDirectoriesAux at made
      split at made
      · split at made
        · exact ensured made
        · next stopped => exact (stopped grown made).elim
      · exact ensured made

/-- Making a directory that is there changes nothing. -/
theorem makeDirectories_of_isDirectory (isDirectory : tree.isDirectory dir.toString = true) :
    tree.makeDirectories dir = (tree, none) := by
  obtain ⟨place, located, directory⟩ := isDirectory_iff.mp isDirectory
  have present : tree.makeDirectory dir.toString = .error (.system (.present dir.toString)) := by
    unfold makeDirectory
    exact Outcome.bind_eq_error.mpr (.inr ⟨place, located, by rw [directory]⟩)
  have ensured : tree.attempt (·.ensureDirectory dir) = (tree, none) := by
    rw [attempt, ensureDirectory, present]
    dsimp only
    rw [if_pos ⟨by simp [SystemFault.present], isDirectory⟩]
  unfold makeDirectories
  cases dir.parts.length with
  | zero => exact ensured
  | succ fuel =>
      unfold makeDirectoriesAux
      rw [present]
      exact ensured

/-! ## Files that hold it already -/

/-- Writing what a file holds already changes nothing. -/
theorem write_of_read (stands : tree.read path = .ok content) :
    ∃ grown, tree.write path content = .ok grown ∧ SamePlaces tree grown := by
  obtain ⟨place, executable, located, found⟩ := read_eq_ok_iff.mp stands
  have noDirectory : tree.node? place ≠ some .directory := by simp [found]
  refine ⟨tree.put place (.file content executable), ?_, fun other => ?_⟩
  · exact Outcome.bind_eq_ok.mpr ⟨place, located, by rw [found]⟩
  · rw [node?_put (named_of_node?_ne noDirectory)]
    split
    · next same => rw [same, found]
    · rfl

end ShaderBuild.FileTree
