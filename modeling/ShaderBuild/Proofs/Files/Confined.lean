import ShaderBuild.Proofs.Files.Scratch

/-! # Changes below a place

A directory that is made for some work and taken away afterwards leaves a tree as it was, if the work
has changed nothing outside of it.
-/

namespace ShaderBuild

/-- A place that is another one or stands somewhere in it. -/
def Location.Below (place other : Location) : Prop :=
  other.anchor = place.anchor ∧ place.names <:+ other.names

theorem Location.below_down (place : Location) (name : String) : place.Below (place.down name) :=
  ⟨rfl, List.suffix_cons _ _⟩

namespace FileTree

open Outcome

variable {tree middle grown : FileTree} {place other : Location} {path dir : String} {content : Bytes}

/-- A change that leaves everything outside of a place alone and makes no directories. -/
structure ChangedBelow (place : Location) (tree grown : FileTree) : Prop where
  elsewhere : ∀ other, ¬place.Below other → grown.node? other = tree.node? other
  directories : SameDirectories tree grown

namespace ChangedBelow

theorem refl (place : Location) (tree : FileTree) : ChangedBelow place tree tree :=
  ⟨fun _ _ => rfl, .refl tree⟩

theorem trans (one : ChangedBelow place tree middle) (more : ChangedBelow place middle grown) :
    ChangedBelow place tree grown where
  elsewhere other outside := (more.elsewhere other outside).trans (one.elsewhere other outside)
  directories := one.directories.trans more.directories

theorem of_attempt (path : String) (content : Bytes)
    (inside : ∀ spot, tree.locate path = .ok spot → place.Below spot) :
    ChangedBelow place tree (tree.attempt (·.write path content)).1 := by
  rcases attempt_write_cases tree path content with same | ⟨spot, leads, wrote⟩
  · rw [same]
    exact refl place tree
  · obtain ⟨executable, node?⟩ := wrote.node?
    refine ⟨fun other outside => ?_, wrote.sameDirectories⟩
    have elsewhere : other ≠ spot := by
      rintro rfl
      exact outside (inside other leads)
    rw [node?, if_neg elsewhere]

end ChangedBelow

/-- An entry of a directory stands below it. -/
theorem below_of_inside {name : String} {spot : Location} (isEntry : IsEntry name)
    (located : tree.locate dir = .ok place) (leads : tree.locate (inside dir name) = .ok spot) :
    place.Below spot := by
  obtain ⟨_, named, _, toDir⟩ := locate_eq_ok_iff.mp located
  have isFolder : IsFolder (dir ++ "/") := .inr ⟨dir.toList, String.toList_append⟩
  obtain ⟨folder, toFolder, _, rfl⟩ := locate_append isFolder isEntry leads
  rw [startOf_separator named, folderParts_separator] at toFolder
  cases toFolder.unique toDir
  exact Location.below_down _ name

/-! ## Making a directory and taking it away -/

theorem makeDirectory_eq_ok (made : tree.makeDirectory path = .ok grown) :
    ∃ place, tree.locate path = .ok place ∧ place.names ≠ [] ∧ tree.node? place = none ∧
      grown = tree.put place .directory := by
  obtain ⟨place, located, rest⟩ := bind_eq_ok.mp made
  split at rest
  · cases rest
  · next free =>
      have noDirectory : tree.node? place ≠ some .directory := by simp [free]
      have named := named_of_node?_ne noDirectory
      split at rest
      · exact ⟨place, located, named, free, (Except.ok.inj rest).symm⟩
      · cases rest
      · cases rest

theorem keeps_put_directory (named : place.names ≠ []) : Keeps tree (tree.put place .directory) := by
  intro other directory
  rw [node?_put named]
  split
  · rfl
  · exact directory

/-- Nothing stands in a directory that is not there. -/
theorem Rooted.node?_below (rooted : tree.Rooted) (free : tree.node? place = none)
    (below : place.Below other) : tree.node? other = none := by
  obtain ⟨anchor, names⟩ := other
  obtain ⟨rfl, inner, same⟩ := below
  dsimp only at same
  subst same
  -- By induction on the names below: what is taken stands in a directory.
  induction inner with
  | nil => exact free
  | cons name inner ih =>
      cases taken : tree.node? ⟨place.anchor, name :: (inner ++ place.names)⟩ with
      | none => exact taken
      | some node => cases ih.symm.trans (rooted _ node taken)

theorem lookup_filter {nodes : List (Location × Node)} (kept : Location → Bool) :
    (nodes.filter fun entry => kept entry.1).lookup other =
      if kept other then nodes.lookup other else none := by
  induction nodes with
  | nil => simp
  | cons entry nodes ih =>
      obtain ⟨spot, node⟩ := entry
      by_cases here : other = spot
      · subst here
        by_cases isKept : kept other <;> simp [isKept, ih]
      · have past : (other == spot) = false := by simp [here]
        by_cases isKept : kept spot <;> simp [isKept, ih, List.lookup_cons, past]

theorem node?_removeDirectory (located : tree.locate path = .ok place) (named : other.names ≠ []) :
    (place.Below other → (tree.removeDirectory path).node? other = none) ∧
      (¬place.Below other → (tree.removeDirectory path).node? other = tree.node? other) := by
  have isBelow : place.Below other ↔
      (other.anchor = place.anchor && place.names.isSuffixOf other.names) = true := by
    simp [Location.Below]
  have lookup : (tree.removeDirectory path).node? other =
      if !(other.anchor = place.anchor && place.names.isSuffixOf other.names)
      then tree.node? other else none := by
    rw [node?_of_named named, node?_of_named named, removeDirectory, located]
    exact lookup_filter fun spot =>
      !(spot.anchor = place.anchor && place.names.isSuffixOf spot.names)
  rw [isBelow, lookup]
  constructor
  · intro below
    simp [below]
  · intro outside
    simp [outside]

/-- A directory that was made, worked in and taken away has left nothing behind. -/
theorem node?_of_worked (rooted : tree.Rooted) (located : tree.locate dir = .ok place)
    (named : place.names ≠ []) (free : tree.node? place = none)
    (worked : ChangedBelow place (tree.put place .directory) middle) (other : Location) :
    (middle.removeDirectory dir).node? other = tree.node? other := by
  by_cases anchor : other.names = []
  · rw [node?_of_anchor anchor, node?_of_anchor anchor]
  have still : middle.locate dir = .ok place :=
    worked.directories.locate.mpr (locate_keeps located (keeps_put_directory named))
  obtain ⟨gone, kept⟩ := node?_removeDirectory still anchor
  by_cases below : place.Below other
  · rw [gone below, rooted.node?_below free below]
  · have differ : other ≠ place := by
      rintro rfl
      exact below ⟨rfl, List.suffix_refl _⟩
    rw [kept below, worked.elsewhere other below, node?_put named, if_neg differ]

end FileTree

end ShaderBuild
