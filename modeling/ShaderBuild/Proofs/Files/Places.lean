import ShaderBuild.Files.Tree
import ShaderBuild.Proofs.Outcome

/-! # Places of a file tree

What stands where after a change. Writing a file changes one place, and making directories takes free
places only. Every taken place stays in a directory.
-/

namespace ShaderBuild

theorem Location.up_ne {place : Location} (named : place.names ≠ []) : place.up ≠ place := by
  obtain ⟨anchor, names⟩ := place
  cases names with
  | nil => exact absurd rfl named
  | cons name rest =>
      intro same
      exact List.cons_ne_self name rest (congrArg Location.names same).symm

namespace FileTree

open Outcome

variable {tree grown : FileTree} {place other : Location} {path : String} {content : Bytes}

/-! ## What stands at a place -/

theorem node?_of_named (named : place.names ≠ []) : tree.node? place = tree.nodes.lookup place := by
  simp [node?, named]

theorem node?_of_anchor (anchor : place.names = []) : tree.node? place = some .directory := by
  simp [node?, anchor]

theorem named_of_node?_ne (other : tree.node? place ≠ some .directory) : place.names ≠ [] :=
  fun anchor => other (node?_of_anchor anchor)

/-- Every taken place stands in a directory. -/
def Rooted (tree : FileTree) : Prop :=
  ∀ place node, tree.node? place = some node → tree.node? place.up = some .directory

theorem rooted_empty : FileTree.empty.Rooted := by
  intro place node taken
  obtain ⟨anchor, names⟩ := place
  cases names with
  | nil => cases anchor <;> rfl
  | cons => cases taken

theorem lookup_replaced_self {nodes : List (Location × Node)} (node : Node)
    (taken : ∃ entry ∈ nodes, entry.1 = place) :
    (nodes.map fun entry => if entry.1 = place then (place, node) else entry).lookup place =
      some node := by
  induction nodes with
  | nil => simp at taken
  | cons entry nodes ih =>
      obtain ⟨spot, found⟩ := entry
      by_cases here : spot = place
      · simp [here]
      · have later : ∃ entry ∈ nodes, entry.1 = place := by simpa [here] using taken
        have past : (place == spot) = false := by simp [Ne.symm here]
        rw [List.map_cons, if_neg here, List.lookup_cons, past]
        exact ih later

theorem lookup_replaced_other (nodes : List (Location × Node)) (node : Node) (differ : other ≠ place) :
    (nodes.map fun entry => if entry.1 = place then (place, node) else entry).lookup other =
      nodes.lookup other := by
  induction nodes with
  | nil => rfl
  | cons entry nodes ih =>
      obtain ⟨spot, found⟩ := entry
      by_cases here : spot = place
      · have past : (other == place) = false := by simp [differ]
        rw [List.map_cons, if_pos here, List.lookup_cons, List.lookup_cons, here, past]
        exact ih
      · rw [List.map_cons, if_neg here, List.lookup_cons, List.lookup_cons, ih]

theorem lookup_put (tree : FileTree) (place : Location) (node : Node) (other : Location) :
    (tree.put place node).nodes.lookup other =
      if other = place then some node else tree.nodes.lookup other := by
  unfold put
  split
  · next taken =>
      split
      · next same =>
          subst same
          exact lookup_replaced_self node (by simpa using taken)
      · next differ => exact lookup_replaced_other tree.nodes node differ
  · next free =>
      have none : tree.nodes.lookup place = none := by
        rw [List.lookup_eq_none_iff]
        intro entry member
        simp only [List.any_eq_true, decide_eq_true_eq, not_exists, not_and] at free
        simpa using Ne.symm (free entry member)
      rw [List.lookup_append]
      by_cases same : other = place
      · simp [same, none]
      · have past : (other == place) = false := by simp [same]
        simp [List.lookup_cons, past, same]

theorem node?_put (named : place.names ≠ []) (node : Node) (other : Location) :
    (tree.put place node).node? other = if other = place then some node else tree.node? other := by
  by_cases anchor : other.names = []
  · have differ : other ≠ place := fun same => named (same ▸ anchor)
    rw [node?_of_anchor anchor, node?_of_anchor anchor, if_neg differ]
  · rw [node?_of_named anchor, node?_of_named anchor, lookup_put]

/-- A file or directory in a directory keeps a tree rooted, if it does not take the place of a directory
    that others stand in. -/
theorem Rooted.put (rooted : tree.Rooted) (named : place.names ≠ []) {node : Node}
    (inside : tree.node? place.up = some .directory)
    (spared : tree.node? place = some .directory → node = .directory) :
    (tree.put place node).Rooted := by
  intro other found taken
  rw [node?_put named] at taken ⊢
  by_cases same : other = place
  · subst same
    rw [if_neg (Location.up_ne named), inside]
  · rw [if_neg same] at taken
    have above := rooted other found taken
    by_cases within : other.up = place
    · rw [if_pos within, spared (within ▸ above)]
    · rw [if_neg within, above]

/-! ## Writing -/

/-- A tree in which a file has been written. -/
structure Wrote (tree : FileTree) (place : Location) (content : Bytes) (grown : FileTree) : Prop where
  named : place.names ≠ []
  noDirectory : tree.node? place ≠ some .directory
  node? : ∃ executable, ∀ other, grown.node? other =
    if other = place then some (.file content executable) else tree.node? other
  rooted : tree.Rooted → grown.Rooted

theorem write_eq_ok (written : tree.write path content = .ok grown) :
    ∃ place, tree.locate path = .ok place ∧ Wrote tree place content grown := by
  obtain ⟨place, located, rest⟩ := bind_eq_ok.mp written
  have spec (named : place.names ≠ []) (noDirectory : tree.node? place ≠ some .directory)
      (executable : Bool) (inside : tree.Rooted → tree.node? place.up = some .directory)
      (same : tree.put place (.file content executable) = grown) : Wrote tree place content grown :=
    { named, noDirectory
      node? := ⟨executable, fun other => by rw [← same, node?_put named]⟩
      rooted := fun rooted => same ▸ rooted.put named (inside rooted) fun taken => absurd taken noDirectory }
  refine ⟨place, located, ?_⟩
  split at rest
  · next old executable found =>
      have noDirectory : tree.node? place ≠ some .directory := by simp [found]
      exact spec (named_of_node?_ne noDirectory) noDirectory executable
        (fun rooted => rooted place _ found) (Except.ok.inj rest)
  · cases rest
  · next free =>
      have noDirectory : tree.node? place ≠ some .directory := by simp [free]
      split at rest
      · next inside =>
          exact spec (named_of_node?_ne noDirectory) noDirectory false (fun _ => inside)
            (Except.ok.inj rest)
      · cases rest
      · cases rest

/-! ## Making directories -/

/-- A tree in which directories may have come to be at places that were free. -/
structure Grows (tree grown : FileTree) : Prop where
  node? : ∀ place, grown.node? place = tree.node? place ∨
    tree.node? place = none ∧ grown.node? place = some .directory
  rooted : tree.Rooted → grown.Rooted

theorem Grows.refl (tree : FileTree) : Grows tree tree := ⟨fun _ => .inl rfl, id⟩

theorem Grows.trans {middle : FileTree} (one : Grows tree middle) (other : Grows middle grown) :
    Grows tree grown where
  node? place := by
    rcases other.node? place with same | ⟨free, made⟩
    · rw [same]
      exact one.node? place
    · rcases one.node? place with same | ⟨_, taken⟩
      · exact .inr ⟨same ▸ free, made⟩
      · rw [taken] at free
        cases free
  rooted := other.rooted ∘ one.rooted

theorem Grows.of_makeDirectory (made : tree.makeDirectory path = .ok grown) : Grows tree grown := by
  obtain ⟨place, located, rest⟩ := bind_eq_ok.mp made
  split at rest
  · cases rest
  · next free =>
      have noDirectory : tree.node? place ≠ some .directory := by simp [free]
      have named := named_of_node?_ne noDirectory
      split at rest
      · next inside =>
          cases rest
          refine ⟨fun other => ?_, fun rooted => rooted.put named inside fun _ => rfl⟩
          rw [node?_put named]
          split
          · next same => exact .inr ⟨same ▸ free, rfl⟩
          · exact .inl rfl
      · cases rest
      · cases rest

theorem Grows.of_ensureDirectory {path : Path} (made : tree.ensureDirectory path = .ok grown) :
    Grows tree grown := by
  unfold ensureDirectory at made
  split at made
  · next same => exact .of_makeDirectory (same.trans made)
  · cases made
  · split at made
    · cases made
      exact .refl _
    · cases made

theorem Grows.of_attempt {change : FileTree → Except AccessFault FileTree}
    (grows : ∀ grown, change tree = .ok grown → Grows tree grown) : Grows tree (tree.attempt change).1 := by
  unfold attempt
  split
  · next grown changed => exact grows grown changed
  · exact .refl _

theorem grows_makeDirectories (tree : FileTree) (path : Path) :
    Grows tree (tree.makeDirectories path).1 := by
  have ensures (tree : FileTree) (path : Path) : Grows tree (tree.attempt (·.ensureDirectory path)).1 :=
    .of_attempt fun _ => .of_ensureDirectory
  unfold makeDirectories
  generalize path.parts.length = fuel
  induction fuel generalizing tree path with
  | zero => exact ensures tree path
  | succ fuel ih =>
      unfold makeDirectoriesAux
      split
      · have above := ih tree path.parent
        split
        · next grown same =>
            rw [same] at above
            exact above.trans (ensures grown path)
        · exact above
      · exact ensures tree path

end FileTree

end ShaderBuild
