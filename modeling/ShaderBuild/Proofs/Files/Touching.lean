import ShaderBuild.Proofs.Files.Paths

/-! # What a change touches

A change that writes some files, and makes directories for them, leaves all other files alone. What was
written before still stands, unless the change has written to the same place.
-/

namespace ShaderBuild.FileTree

open Outcome

variable {tree middle grown : FileTree} {place : Location} {path : String} {content : Bytes}

theorem read_eq_ok_iff :
    tree.read path = .ok content ↔
      ∃ place executable, tree.locate path = .ok place ∧
        tree.node? place = some (.file content executable) := by
  unfold read
  rw [bind_eq_ok]
  refine exists_congr fun place => ?_
  cases found : tree.node? place with
  | none => simp
  | some node =>
      cases node with
      | directory => simp
      | file => simp

theorem isFile_iff : tree.isFile path = true ↔ ∃ content, tree.read path = .ok content := by
  rw [isFile, at?]
  cases located : tree.locate path with
  | error fault => simp [read_eq_ok_iff, located]
  | ok place =>
      dsimp only
      cases stands : tree.node? place with
      | none => simp [read_eq_ok_iff, located, stands]
      | some node =>
          cases node with
          | directory => simp [read_eq_ok_iff, located, stands]
          | file content executable =>
              exact iff_of_true rfl ⟨content, read_eq_ok_iff.mpr ⟨place, executable, located, stands⟩⟩

/-- A change that leaves all files alone but those that these paths lead to. Directories stay. -/
structure Touches (paths : List String) (tree grown : FileTree) : Prop where
  keeps : Keeps tree grown
  rooted : tree.Rooted → grown.Rooted
  file : ∀ place content executable, (∀ path ∈ paths, grown.locate path ≠ .ok place) →
    (grown.node? place = some (.file content executable) ↔
      tree.node? place = some (.file content executable))

namespace Touches

theorem refl (tree : FileTree) : Touches [] tree tree := ⟨fun _ => id, id, fun _ _ _ _ => .rfl⟩

theorem trans {paths more : List String} (one : Touches paths tree middle)
    (other : Touches more middle grown) : Touches (paths ++ more) tree grown where
  keeps place directory := other.keeps place (one.keeps place directory)
  rooted := other.rooted ∘ one.rooted
  file place content executable elsewhere := by
    refine (other.file place content executable fun path member => ?_).trans
      (one.file place content executable fun path member led => ?_)
    · exact elsewhere path (List.mem_append_right _ member)
    · exact elsewhere path (List.mem_append_left _ member) (locate_keeps led other.keeps)

theorem of_grows (grows : Grows tree grown) : Touches [] tree grown where
  keeps place directory := by
    rcases grows.node? place with same | ⟨free, _⟩
    · rw [same, directory]
    · rw [directory] at free
      cases free
  rooted := grows.rooted
  file place content executable _ := by
    rcases grows.node? place with same | ⟨free, made⟩
    · rw [same]
    · simp [free, made]

theorem of_same (rooted : tree.Rooted → grown.Rooted)
    (same : ∀ place, grown.node? place = tree.node? place) : Touches [] tree grown where
  keeps place directory := (same place).trans directory
  rooted := rooted
  file place content executable _ := by rw [same]

theorem of_wrote (located : tree.locate path = .ok place) (wrote : Wrote tree place content grown) :
    Touches [path] tree grown := by
  obtain ⟨executable, node?⟩ := wrote.node?
  have keeps := wrote.sameDirectories.keeps
  refine ⟨keeps, wrote.rooted, fun other content executable elsewhere => ?_⟩
  have differ : other ≠ place := by
    rintro rfl
    exact elsewhere path List.mem_cons_self (locate_keeps located keeps)
  rw [node?, if_neg differ]

theorem read {paths : List String} (touches : Touches paths tree grown)
    (before : tree.read path = .ok content)
    (apart : ∀ other ∈ paths, ∀ place, grown.locate path = .ok place → grown.locate other ≠ .ok place) :
    grown.read path = .ok content := by
  obtain ⟨place, executable, located, stands⟩ := read_eq_ok_iff.mp before
  have still := locate_keeps located touches.keeps
  refine read_eq_ok_iff.mpr ⟨place, executable, still, ?_⟩
  exact (touches.file place content executable fun other member => apart other member place still).mpr
    stands

end Touches

theorem Wrote.read (located : tree.locate path = .ok place) (wrote : Wrote tree place content grown) :
    grown.read path = .ok content := by
  have still := locate_keeps located (Touches.of_wrote located wrote).keeps
  obtain ⟨executable, node?⟩ := wrote.node?
  exact read_eq_ok_iff.mpr ⟨place, executable, still, by rw [node?, if_pos rfl]⟩

end ShaderBuild.FileTree
