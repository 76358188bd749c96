import ShaderBuild.Proofs.Manifest.Demand

/-! # Room for all levels of a payload

A payload that is not nested too deeply is not stopped by a bound on how far down its expansion goes, as long
as no variable leads further down.
-/

namespace ShaderBuild.Manifest

mutual

/-- How many collections there are around the innermost value. -/
def levels : Value → Nat
  | .map entries => entryLevels entries
  | .list items => itemLevels items
  | _ => 0

def entryLevels : List (Value × Value) → Nat
  | [] => 0
  | (_, value) :: entries => max (levels value + 1) (entryLevels entries)

def itemLevels : List Value → Nat
  | [] => 0
  | item :: items => max (levels item + 1) (itemLevels items)

end

section

variable {m : Type → Type}

/-- The variables that some demands are for lead no further down. -/
def Flat (lookup : Lookup m) (demands : List Demand) : Prop :=
  ∀ demand ∈ demands, ∀ name, demand.name? = some name →
    ∀ steps room path, lookup steps (some room) name path = lookup steps none name path

theorem Flat.append {lookup : Lookup m} {demands others : List Demand} :
    Flat lookup (demands ++ others) ↔ Flat lookup demands ∧ Flat lookup others :=
  List.forall_mem_append

variable [Monad m] [LawfulMonad m] [MonadExceptOf ExpansionFault m]

theorem expandPieces_shallow {lookup : Lookup m} {room : Nat} {path : KeyPath} {pieces : List Piece}
    (flat : Flat lookup (pieces.filterMap (Demand.ofPiece? path))) :
    pieces.mapM (expandPiece lookup (some room) path) = pieces.mapM (expandPiece lookup none path) := by
  induction pieces with
  | nil => rfl
  | cons piece pieces ih =>
      have others := ih fun demand member => flat demand (by
        rw [List.filterMap_cons]
        split
        · exact member
        · exact List.mem_cons_of_mem _ member)
      have first : expandPiece lookup (some room) path piece = expandPiece lookup none path piece := by
        match piece with
        | .char _ | .escaped _ => rfl
        | .variable name => rw [expandPiece, expandPiece, flat _ List.mem_cons_self name rfl]
      rw [List.mapM_cons, List.mapM_cons, first, others]

theorem expandText_shallow {lookup : Lookup m} {room : Nat} {path : KeyPath} {text : String}
    (flat : Flat lookup (Demand.ofText path text)) :
    expandText lookup (some room) path text = expandText lookup none path text := by
  unfold expandText
  split
  · next name single =>
      rw [Demand.ofText_of_single path single] at flat
      exact flat _ List.mem_cons_self name rfl _ _ _
  · next long =>
      rw [Demand.ofText_of_long path fun name single => long name single] at flat
      rw [expandPieces_shallow flat]

mutual

/-- A value is expanded as far down as it goes if there is room for its levels. -/
theorem expand_shallow (lookup : Lookup m) (room : Nat) (path : KeyPath) (value : Value) :
    memberSteps * levels value ≤ room → Flat lookup (Demand.ofValue path value) →
      expand lookup (some room) path value = expand lookup none path value := by
  cases value with
  | map entries =>
      intro fits flat
      rw [expand, expand, expandEntries_shallow lookup room path entries fits flat]
  | list items =>
      intro fits flat
      rw [expand, expand, expandItems_shallow lookup room path 0 items fits flat]
  | str text => exact fun _ flat => expandText_shallow flat
  | null | bool | int | float | bytes | date | moment | set | tuple | again => exact fun _ _ => rfl
termination_by sizeOf value

theorem expandEntries_shallow (lookup : Lookup m) (room : Nat) (path : KeyPath)
    (entries : List (Value × Value)) :
    memberSteps * entryLevels entries ≤ room → Flat lookup (Demand.ofEntries path entries) →
      expandEntries lookup (some room) path entries = expandEntries lookup none path entries := by
  cases entries with
  | nil => exact fun _ _ => rfl
  | cons entry entries =>
      obtain ⟨key, value⟩ := entry
      intro fits flat
      simp only [memberSteps, entryLevels] at fits
      rw [Demand.ofEntries, ← List.singleton_append, Flat.append, Flat.append] at flat
      have enough : memberSteps ≤ room := by simp only [memberSteps]; omega
      have first := expand_shallow lookup (room - memberSteps) (path ++ [.name key.plain]) value
        (by simp only [memberSteps]; omega) flat.2.1
      have others := expandEntries_shallow lookup room path entries (by simp only [memberSteps]; omega)
        flat.2.2
      rw [expandEntries, expandEntries, others, deeper, deeper, if_pos enough]
      simp only [pure_bind, first]
termination_by sizeOf entries

theorem expandItems_shallow (lookup : Lookup m) (room : Nat) (path : KeyPath) (position : Nat)
    (items : List Value) :
    memberSteps * itemLevels items ≤ room → Flat lookup (Demand.ofItems path position items) →
      expandItems lookup (some room) path position items = expandItems lookup none path position items := by
  cases items with
  | nil => exact fun _ _ => rfl
  | cons item items =>
      intro fits flat
      simp only [memberSteps, itemLevels] at fits
      rw [Demand.ofItems, Flat.append] at flat
      have enough : memberSteps ≤ room := by simp only [memberSteps]; omega
      have first := expand_shallow lookup (room - memberSteps) (path ++ [.index position]) item
        (by simp only [memberSteps]; omega) flat.1
      have others := expandItems_shallow lookup room path (position + 1) items
        (by simp only [memberSteps]; omega) flat.2
      rw [expandItems, expandItems, others, deeper, deeper, if_pos enough]
      simp only [pure_bind, first]
termination_by sizeOf items

end

end

end ShaderBuild.Manifest
