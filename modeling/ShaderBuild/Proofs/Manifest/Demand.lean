import ShaderBuild.Manifest.Variables
import ShaderBuild.Proofs.Outcome

/-! # What a value asks for

All that can stop the expansion of a value is listed here in the order in which it comes up, with
the place of the text for every placeholder. A value can be expanded exactly if every demand on the
list is met, and otherwise the first one that is not says why.
-/

namespace ShaderBuild.Manifest

/-- What must be there or must be possible for a value to be expanded. -/
inductive Demand where
  /-- The key of a mapping is to be written, for the place of what it leads to. -/
  | written (key : Value)
  /-- A text is a single placeholder for a variable. -/
  | whole (name : String) (path : KeyPath)
  /-- A variable is to be spliced into a longer text. -/
  | spliced (name : String) (path : KeyPath)
  /-- A value that holds itself is to be gone through. -/
  | endless

namespace Demand

def name? : Demand → Option String
  | .whole name _ | .spliced name _ => some name
  | .written _ | .endless => none

/-- Meet a demand, given how names are looked up. -/
def check (lookup : Lookup (Except ExpansionFault)) : Demand → Except ExpansionFault Unit
  | .written key => if key.isUnwritable then .error .unwritable else .ok ()
  | .whole name path => Outcome.done (lookup wholeSteps none name path)
  | .spliced name path => do
    let value ← lookup splicedSteps none name path
    Outcome.done (splice name path value)
  | .endless => .error .tooDeep

def ofPiece? (path : KeyPath) : Piece → Option Demand
  | .variable name => some (.spliced name path)
  | .char _ | .escaped _ => none

def ofText (path : KeyPath) (text : String) : List Demand :=
  match Piece.ofString text with
  | [.variable name] => [.whole name path]
  | pieces => pieces.filterMap (ofPiece? path)

mutual

/-- The demands of a value. -/
def ofValue (path : KeyPath) : Value → List Demand
  | .map entries => ofEntries path entries
  | .list items => ofItems path 0 items
  | .str text => ofText path text
  | .again _ => [.endless]
  | _ => []

def ofEntries (path : KeyPath) : List (Value × Value) → List Demand
  | [] => []
  | (key, value) :: entries =>
    .written key :: (ofValue (path ++ [.name key.plain]) value ++ ofEntries path entries)

/-- The demands of the items of a list, the first of them at `position`. -/
def ofItems (path : KeyPath) (position : Nat) : List Value → List Demand
  | [] => []
  | item :: items => ofValue (path ++ [.index position]) item ++ ofItems path (position + 1) items

end

end Demand

section

variable (lookup : Lookup (Except ExpansionFault))

theorem done_expandPiece (path : KeyPath) (piece : Piece) :
    Outcome.done (expandPiece lookup none path piece) =
      (Demand.ofPiece? path piece).toList.forM (Demand.check lookup) := by
  match piece with
  | .char _ | .escaped _ => rfl
  | .variable name =>
      show _ = Demand.check lookup (.spliced name path) >>= fun _ => pure ()
      cases found : lookup splicedSteps none name path with
      | error fault => simp [expandPiece, Demand.check, found]
      | ok value =>
          cases ended : splice name path value <;> simp [expandPiece, Demand.check, found, ended]

theorem done_expandPieces (path : KeyPath) (pieces : List Piece) :
    Outcome.done (pieces.mapM (expandPiece lookup none path)) =
      (pieces.filterMap (Demand.ofPiece? path)).forM (Demand.check lookup) := by
  induction pieces with
  | nil => rfl
  | cons piece pieces ih =>
      have first := done_expandPiece lookup path piece
      have split : (piece :: pieces).filterMap (Demand.ofPiece? path) =
          (Demand.ofPiece? path piece).toList ++ pieces.filterMap (Demand.ofPiece? path) := by
        cases piece <;> rfl
      rw [List.forM_eq_forM] at first ih ⊢
      rw [split, List.forM_append, List.mapM_cons, Outcome.done_bind, ← first, ← ih]
      cases expandPiece lookup none path piece with
      | error fault => rfl
      | ok text => cases pieces.mapM (expandPiece lookup none path) <;> rfl

theorem expandText_of_single {text name : String} (path : KeyPath)
    (single : Piece.ofString text = [.variable name]) :
    expandText lookup none path text = lookup wholeSteps none name path := by
  rw [expandText, single]

theorem expandText_of_long {text : String} (path : KeyPath)
    (long : ∀ name, Piece.ofString text ≠ [.variable name]) :
    expandText lookup none path text = (do
      let texts ← (Piece.ofString text).mapM (expandPiece lookup none path)
      pure (.str (String.join texts))) := by
  unfold expandText
  split
  · next name single => exact (long name single).elim
  · rfl

theorem Demand.ofText_of_single {text name : String} (path : KeyPath)
    (single : Piece.ofString text = [.variable name]) : ofText path text = [.whole name path] := by
  rw [ofText, single]

theorem Demand.ofText_of_long {text : String} (path : KeyPath)
    (long : ∀ name, Piece.ofString text ≠ [.variable name]) :
    ofText path text = (Piece.ofString text).filterMap (ofPiece? path) := by
  unfold ofText
  split
  · next name single => exact (long name single).elim
  · rfl

theorem done_expandText (path : KeyPath) (text : String) :
    Outcome.done (expandText lookup none path text) =
      (Demand.ofText path text).forM (Demand.check lookup) := by
  by_cases whole : ∃ name, Piece.ofString text = [.variable name]
  · obtain ⟨name, single⟩ := whole
    rw [expandText_of_single lookup path single, Demand.ofText_of_single path single]
    show _ = Demand.check lookup (.whole name path) >>= fun _ => pure ()
    cases found : lookup wholeSteps none name path <;> simp [Demand.check, found]
  · have long : ∀ name, Piece.ofString text ≠ [.variable name] :=
      fun name single => whole ⟨name, single⟩
    rw [expandText_of_long lookup path long, Demand.ofText_of_long path long, ← done_expandPieces]
    cases (Piece.ofString text).mapM (expandPiece lookup none path) <;> rfl

mutual

/-- A value can be expanded exactly if its demands are met, and the first that is not stops it. -/
theorem done_expand (path : KeyPath) (value : Value) :
    Outcome.done (expand lookup none path value) =
      (Demand.ofValue path value).forM (Demand.check lookup) := by
  cases value with
  | map entries =>
      have inside := done_expandEntries path entries
      rw [expand, Demand.ofValue, ← inside]
      cases expandEntries lookup none path entries <;> rfl
  | list items =>
      have inside := done_expandItems path 0 items
      rw [expand, Demand.ofValue, ← inside]
      cases expandItems lookup none path 0 items <;> rfl
  | str text => exact done_expandText lookup path text
  | again => rfl
  | null | bool | int | float | bytes | date | moment | set | tuple => rfl
termination_by sizeOf value

theorem done_expandEntries (path : KeyPath) (entries : List (Value × Value)) :
    Outcome.done (expandEntries lookup none path entries) =
      (Demand.ofEntries path entries).forM (Demand.check lookup) := by
  cases entries with
  | nil => rfl
  | cons entry entries =>
      obtain ⟨key, value⟩ := entry
      have inside := done_expand (path ++ [.name key.plain]) value
      have others := done_expandEntries path entries
      rw [List.forM_eq_forM] at inside others ⊢
      rw [expandEntries, Demand.ofEntries, List.forM_cons, List.forM_append, ← inside, ← others]
      by_cases long : key.isUnwritable
      · simp [Demand.check, long]
      · cases first : expand lookup none (path ++ [.name key.plain]) value with
        | error fault => simp [Demand.check, long, deeper, first]
        | ok expanded =>
            cases expandEntries lookup none path entries <;> simp [Demand.check, long, deeper, first]
termination_by sizeOf entries

theorem done_expandItems (path : KeyPath) (position : Nat) (items : List Value) :
    Outcome.done (expandItems lookup none path position items) =
      (Demand.ofItems path position items).forM (Demand.check lookup) := by
  cases items with
  | nil => rfl
  | cons item items =>
      have inside := done_expand (path ++ [.index position]) item
      have others := done_expandItems path (position + 1) items
      rw [List.forM_eq_forM] at inside others ⊢
      rw [expandItems, Demand.ofItems, List.forM_append, ← inside, ← others]
      cases first : expand lookup none (path ++ [.index position]) item with
      | error fault => simp [deeper, first]
      | ok expanded =>
          cases expandItems lookup none path (position + 1) items <;> simp [deeper, first]
termination_by sizeOf items

end

variable {lookup} {path : KeyPath} {value : Value}

theorem expand_ok_iff :
    (∃ expanded, expand lookup none path value = .ok expanded) ↔
      ∀ demand ∈ Demand.ofValue path value, demand.check lookup = .ok () := by
  rw [← Outcome.done_eq_ok, done_expand, Outcome.forM_eq_ok]

theorem expand_error {fault : ExpansionFault}
    (stopped : expand lookup none path value = .error fault) :
    ∃ demand ∈ Demand.ofValue path value, demand.check lookup = .error fault := by
  rw [← Outcome.done_eq_error, done_expand] at stopped
  exact Outcome.forM_eq_error stopped

/-- Entries can be expanded if the first one can and the others can. -/
theorem expandEntries_cons_eq_ok {key : Value} {entries made : List (Value × Value)} :
    expandEntries lookup none path ((key, value) :: entries) = .ok made ↔
      ¬ key.isUnwritable ∧ ∃ own others,
        expand lookup none (path ++ [.name key.plain]) value = .ok own ∧
          expandEntries lookup none path entries = .ok others ∧ made = (key, own) :: others := by
  rw [expandEntries, deeper, pure_bind]
  by_cases long : key.isUnwritable
  · simp [long]
  · simp [long, Outcome.bind_eq_ok, eq_comm (b := made)]

theorem expandItems_cons_eq_ok {position : Nat} {items made : List Value} :
    expandItems lookup none path position (value :: items) = .ok made ↔
      ∃ own others, expand lookup none (path ++ [.index position]) value = .ok own ∧
        expandItems lookup none path (position + 1) items = .ok others ∧ made = own :: others := by
  rw [expandItems, deeper, pure_bind]
  simp [Outcome.bind_eq_ok, eq_comm (b := made)]

/-- Why a demand is not met. -/
inductive Demand.Refused (lookup : Lookup (Except ExpansionFault)) (fault : ExpansionFault) :
    Demand → Prop
  | unwritable {key} (long : key.isUnwritable) (is : fault = .unwritable) :
      Refused lookup fault (.written key)
  | endless (is : fault = .tooDeep) : Refused lookup fault .endless
  | whole {name path} (failed : lookup wholeSteps none name path = .error fault) :
      Refused lookup fault (.whole name path)
  | spliced {name path} (failed : lookup splicedSteps none name path = .error fault) :
      Refused lookup fault (.spliced name path)
  | formless {name path value} (found : lookup splicedSteps none name path = .ok value)
      (failed : splice name path value = .error fault) : Refused lookup fault (.spliced name path)

theorem Demand.refused_of_check {demand : Demand} {fault : ExpansionFault}
    (stopped : demand.check lookup = .error fault) : demand.Refused lookup fault := by
  cases demand with
  | written key =>
      by_cases long : key.isUnwritable
      · rw [check, if_pos long] at stopped
        cases stopped
        exact .unwritable long rfl
      · rw [check, if_neg long] at stopped
        cases stopped
  | whole name path => exact .whole (Outcome.done_eq_error.mp stopped)
  | spliced name path =>
      rcases Outcome.bind_eq_error.mp stopped with failed | ⟨value, found, failed⟩
      · exact .spliced failed
      · exact .formless found (Outcome.done_eq_error.mp failed)
  | endless =>
      cases stopped
      exact .endless rfl

end

end ShaderBuild.Manifest
