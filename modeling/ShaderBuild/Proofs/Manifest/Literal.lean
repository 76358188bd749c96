import ShaderBuild.Proofs.Manifest.Escapes
import ShaderBuild.Proofs.Manifest.Reports

/-! # Payloads without variables

Where a payload asks for no variable, all that is done to it is that its placeholders, which stand for
themselves, lose a dollar sign. If there are none in its texts nothing is done to it at all.
-/

namespace ShaderBuild.Manifest

mutual

/-- A value with all placeholders standing for themselves. -/
def unescaped : Value → Value
  | .map entries => .map (unescapedEntries entries)
  | .list items => .list (unescapedItems items)
  | .str text => .str (Piece.unescape text)
  | value => value

def unescapedEntries : List (Value × Value) → List (Value × Value)
  | [] => []
  | (key, value) :: entries => (key, unescaped value) :: unescapedEntries entries

def unescapedItems : List Value → List Value
  | [] => []
  | item :: items => unescaped item :: unescapedItems items

end

section

variable {m : Type → Type} [Monad m] [LawfulMonad m] [MonadExceptOf ExpansionFault m]

/-- A demand for a key that can be written. -/
def Demand.Writes (demand : Demand) : Prop := ∃ key, demand = .written key ∧ key.isUnwritable = false

theorem not_variable_of_ofText {path : KeyPath} {text : String}
    (writes : ∀ demand ∈ Demand.ofText path text, demand.Writes) (name : String) :
    .variable name ∉ Piece.ofString text := by
  intro member
  by_cases whole : ∃ name, Piece.ofString text = [.variable name]
  · obtain ⟨other, single⟩ := whole
    rw [Demand.ofText_of_single path single] at writes
    obtain ⟨key, same, -⟩ := writes _ List.mem_cons_self
    cases same
  · rw [Demand.ofText_of_long path fun name single => whole ⟨name, single⟩] at writes
    obtain ⟨key, same, -⟩ := writes (.spliced name path) (List.mem_filterMap.mpr ⟨_, member, rfl⟩)
    cases same

mutual

/-- A value that asks for nothing but its keys comes to itself with its placeholders standing for
    themselves, however variables are looked up. -/
theorem expand_literal (lookup : Lookup m) (path : KeyPath) (value : Value) :
    (∀ demand ∈ Demand.ofValue path value, demand.Writes) →
      expand lookup none path value = pure (unescaped value) := by
  cases value with
  | map entries =>
      intro writes
      rw [expand, expandEntries_literal lookup path entries writes, pure_bind, unescaped]
  | list items =>
      intro writes
      rw [expand, expandItems_literal lookup path 0 items writes, pure_bind, unescaped]
  | str text => exact fun writes => expandText_literal lookup none path (not_variable_of_ofText writes)
  | again =>
      intro writes
      obtain ⟨key, same, -⟩ := writes .endless List.mem_cons_self
      cases same
  | null | bool | int | float | bytes | date | moment | set | tuple => exact fun _ => rfl
termination_by sizeOf value

theorem expandEntries_literal (lookup : Lookup m) (path : KeyPath) (entries : List (Value × Value)) :
    (∀ demand ∈ Demand.ofEntries path entries, demand.Writes) →
      expandEntries lookup none path entries = pure (unescapedEntries entries) := by
  cases entries with
  | nil => exact fun _ => rfl
  | cons entry entries =>
      obtain ⟨key, value⟩ := entry
      intro writes
      rw [Demand.ofEntries, List.forall_mem_cons, List.forall_mem_append] at writes
      obtain ⟨⟨other, same, short⟩, inside, later⟩ := writes
      rw [← Demand.written.inj same] at short
      have first := expand_literal lookup (path ++ [.name key.plain]) value inside
      have others := expandEntries_literal lookup path entries later
      rw [expandEntries, if_neg (by simp [short]), deeper, pure_bind, first, pure_bind, others, pure_bind,
        unescapedEntries]
termination_by sizeOf entries

theorem expandItems_literal (lookup : Lookup m) (path : KeyPath) (position : Nat) (items : List Value) :
    (∀ demand ∈ Demand.ofItems path position items, demand.Writes) →
      expandItems lookup none path position items = pure (unescapedItems items) := by
  cases items with
  | nil => exact fun _ => rfl
  | cons item items =>
      intro writes
      rw [Demand.ofItems, List.forall_mem_append] at writes
      obtain ⟨inside, later⟩ := writes
      have first := expand_literal lookup (path ++ [.index position]) item inside
      have others := expandItems_literal lookup path (position + 1) items later
      rw [expandItems, deeper, pure_bind, first, pure_bind, others, pure_bind, unescapedItems]
termination_by sizeOf items

end

end

theorem unescapedEntries_eq (entries : List (Value × Value)) :
    unescapedEntries entries = entries.map fun entry => (entry.1, unescaped entry.2) := by
  induction entries with
  | nil => rfl
  | cons entry entries ih =>
      obtain ⟨key, value⟩ := entry
      rw [unescapedEntries, ih, List.map_cons]

theorem unescapedItems_eq (items : List Value) : unescapedItems items = items.map unescaped := by
  induction items with
  | nil => rfl
  | cons item items ih => rw [unescapedItems, ih, List.map_cons]

theorem Piece.unescape_of_bare {text : String} (bare : Bare text.toList) : unescape text = text := by
  have same := unescape_escape text
  rw [escape_of_bare bare] at same
  exact same

theorem unescaped_of_bare {value : Value}
    (bare : ∀ text place, TextAt text place value → Piece.Bare text.toList) : unescaped value = value := by
  cases value with
  | str text => rw [unescaped, Piece.unescape_of_bare (bare text [] .here)]
  | map entries =>
      rw [unescaped, unescapedEntries_eq]
      refine congrArg _ ((List.map_congr_left ?_).trans (List.map_id entries))
      rintro ⟨key, value⟩ member
      have smaller : sizeOf value < sizeOf (Value.map entries) := by
        have inEntries := List.sizeOf_lt_of_mem member
        simp only [Prod.mk.sizeOf_spec] at inEntries
        simp only [Value.map.sizeOf_spec]
        omega
      have inside := unescaped_of_bare fun text place stands => bare text _ (.entry member stands)
      rw [inside, id]
  | list items =>
      rw [unescaped, unescapedItems_eq]
      refine congrArg _ ((List.map_congr_left ?_).trans (List.map_id items))
      intro item member
      obtain ⟨position, found⟩ := List.getElem?_of_mem member
      have smaller : sizeOf item < sizeOf (Value.list items) := by
        have inItems := List.sizeOf_lt_of_mem member
        simp only [Value.list.sizeOf_spec]
        omega
      have inside := unescaped_of_bare fun text place stands => bare text _ (.item found stands)
      rw [inside, id]
  | null | bool | int | float | bytes | date | moment | set | tuple | again => rfl
termination_by sizeOf value
decreasing_by
  all_goals subst_vars
  all_goals exact smaller

end ShaderBuild.Manifest
