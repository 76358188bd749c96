import ShaderBuild.Proofs.Files.Touching

/-! # A fresh directory

A directory that has just been made is empty, and its entries can be written as long as their paths are
short enough. Writing a file there or elsewhere does not change where paths lead.
-/

namespace ShaderBuild.FileTree

open Outcome

variable {tree grown : FileTree} {place : Location} {path dir : String} {content : Bytes}

/-! ## Writing -/

theorem exists_wrote (content : Bytes) (located : tree.locate path = .ok place)
    (noDirectory : tree.node? place ≠ some .directory) (inside : tree.node? place.up = some .directory) :
    ∃ grown, tree.write path content = .ok grown ∧ Wrote tree place content grown := by
  have succeeds : ∃ grown, tree.write path content = .ok grown := by
    cases stands : tree.node? place with
    | none => exact ⟨_, bind_eq_ok.mpr ⟨place, located, by rw [stands, inside]⟩⟩
    | some node =>
        cases node with
        | directory => exact absurd stands noDirectory
        | file => exact ⟨_, bind_eq_ok.mpr ⟨place, located, by rw [stands]⟩⟩
  obtain ⟨grown, written⟩ := succeeds
  obtain ⟨spot, leads, wrote⟩ := write_eq_ok written
  cases located.symm.trans leads
  exact ⟨grown, written, wrote⟩

theorem attempt_write_cases (tree : FileTree) (path : String) (content : Bytes) :
    (tree.attempt (·.write path content)).1 = tree ∨
      ∃ place, tree.locate path = .ok place ∧
        Wrote tree place content (tree.attempt (·.write path content)).1 := by
  unfold attempt
  split
  · next grown written => exact .inr (write_eq_ok written)
  · exact .inl rfl

/-! ## Entries of a fresh directory -/

/-- The path of an entry of a directory that is named by a text. -/
def inside (dir name : String) : String := dir ++ "/" ++ name

theorem inside_eq (dir : String) {name below : String} (same : "/" ++ name = below) :
    dir ++ below = inside dir name := by
  rw [inside, String.append_assoc, same]

/-- The most bytes that the name of an entry takes. -/
def shortName : Nat := 12

structure IsShort (name : String) : Prop where
  isEntry : IsEntry name
  noNul : '\x00' ∉ name.toList
  fits : name.utf8ByteSize ≤ shortName

/-- A directory whose entries are free, but for the taken names. -/
structure Fresh (dir : String) (place : Location) (taken : List String) (tree : FileTree) : Prop where
  directory : tree.node? place = some .directory
  leads : ∀ name, IsShort name → tree.locate (inside dir name) = .ok (place.down name)
  free : ∀ name ∉ taken, tree.node? (place.down name) = none

theorem startOf_separator {dir : String} (named : dir ≠ "") :
    startOf (dir ++ "/").toList = startOf dir.toList := by
  have same : Path.rootOf (dir ++ "/").toList = .relative ↔ Path.rootOf dir.toList = .relative := by
    obtain ⟨c, rest, starts⟩ := List.exists_cons_of_ne_nil (mt String.toList_eq_nil_iff.mp named)
    rw [rootOf_eq_relative_iff, rootOf_eq_relative_iff, String.toList_append, starts]
    rfl
  simp only [startOf, same]

theorem folderParts_separator (dir : String) : folderParts (dir ++ "/") = components dir.toList := by
  have cut : Text.splitAt '/' (dir ++ "/").toList = Text.splitAt '/' dir.toList ++ [[]] := by
    rw [String.toList_append]
    exact Text.splitAt_append_sep '/' dir.toList []
  rw [folderParts, components, cut, List.dropLast_concat]

theorem locate_inside {name : String} (located : tree.locate dir = .ok place)
    (directory : tree.node? place = some .directory)
    (room : dir.utf8ByteSize + 1 + shortName ≤ longestPath) (isShort : IsShort name) :
    tree.locate (inside dir name) = .ok (place.down name) := by
  obtain ⟨clean, named, _, leads⟩ := locate_eq_ok_iff.mp located
  have isFolder : IsFolder (dir ++ "/") := .inr ⟨dir.toList, String.toList_append⟩
  have size : (inside dir name).utf8ByteSize = dir.utf8ByteSize + 1 + name.utf8ByteSize := by
    rw [inside, String.utf8ByteSize_append, String.utf8ByteSize_append]
    rfl
  have fits := isShort.fits
  refine locate_eq_ok_iff.mpr ⟨?_, ?_, ?_, ?_⟩
  · simp [inside, clean, isShort.noNul]
  · intro void
    rw [void] at size
    have : (0 : Nat) = dir.utf8ByteSize + 1 + name.utf8ByteSize := size
    omega
  · omega
  · rw [inside, startOf_append isFolder isShort.isEntry, components_append isFolder isShort.isEntry,
      startOf_separator named, folderParts_separator]
    refine leads_append_iff.mpr ⟨place, leads, .step directory ?_ .here⟩
    have holds : name.utf8ByteSize ≤ longestName := Nat.le_trans fits (by decide)
    rw [next?_entry isShort.isEntry, if_neg (Nat.not_lt.mpr holds)]

theorem fresh_of_makeDirectory (rooted : tree.Rooted) (made : tree.makeDirectory dir = .ok grown)
    (room : dir.utf8ByteSize + 1 + shortName ≤ longestPath) : ∃ place, Fresh dir place [] grown := by
  obtain ⟨place, located, rest⟩ := bind_eq_ok.mp made
  split at rest
  · cases rest
  · next free =>
      have noDirectory : tree.node? place ≠ some .directory := by simp [free]
      have named := named_of_node?_ne noDirectory
      split at rest
      · next above =>
          cases rest
          have directory : (tree.put place .directory).node? place = some .directory := by
            rw [node?_put named, if_pos rfl]
          have still : (tree.put place .directory).locate dir = .ok place :=
            locate_keeps located fun other isDir => by
              rw [node?_put named]
              split
              · rfl
              · exact isDir
          refine ⟨place, directory, fun name => locate_inside still directory room, fun name _ => ?_⟩
          have below : place.down name ≠ place := fun same =>
            List.cons_ne_self _ _ (congrArg Location.names same)
          rw [node?_put named, if_neg below]
          -- An entry that was there before would have stood in a directory.
          cases stands : tree.node? (place.down name) with
          | none => rfl
          | some node => cases free.symm.trans (rooted _ node stands)
      · cases rest
      · cases rest

theorem Fresh.write {taken : List String} {name : String} (fresh : Fresh dir place taken tree)
    (isShort : IsShort name) (isFree : name ∉ taken) (content : Bytes) :
    ∃ grown, tree.write (inside dir name) content = .ok grown ∧ Fresh dir place (name :: taken) grown := by
  have noDirectory : tree.node? (place.down name) ≠ some .directory := by
    rw [fresh.free name isFree]
    exact nofun
  obtain ⟨grown, written, wrote⟩ :=
    exists_wrote content (fresh.leads name isShort) noDirectory fresh.directory
  have same := wrote.sameDirectories
  refine ⟨grown, written, (same place).mpr fresh.directory,
    fun other isOther => same.locate.mpr (fresh.leads other isOther), fun other notTaken => ?_⟩
  obtain ⟨differ, others⟩ := not_or.mp (mt List.mem_cons.mpr notTaken)
  obtain ⟨executable, node?⟩ := wrote.node?
  rw [node?, if_neg fun meet => differ (List.cons.inj (congrArg Location.names meet)).1,
    fresh.free other others]

end ShaderBuild.FileTree
