import ShaderBuild.Proofs.Manifest.Splicing

/-! # Lists in a text

A list in a longer text is its items with commas between them. Each item is spelled as it would be if it was
the value of a variable of its own, but for truth values: those begin with a capital letter in a list.
-/

namespace ShaderBuild.Manifest

variable {name front back : String} {path : KeyPath} {value : Value} {items : List Value}

/-- A truth value as it is spelled where a variable holds nothing else. -/
def flagText (b : Bool) : String := if b then "true" else "false"

/-- The spelling of a value that a variable holds alone. -/
def alone : Value → String
  | .bool b => flagText b
  | value => value.plain

/-- A value in some spelling, if it can be written. -/
def written (spelling : Value → String) (value : Value) : Except ExpansionFault String :=
  if value.isUnwritable then .error .unwritable else .ok (spelling value)

/-- Values in some spelling with commas between them. -/
def listed (spelling : Value → String) (items : List Value) : Except ExpansionFault String := do
  let texts ← items.mapM (written spelling)
  return ", ".intercalate texts

theorem mapM_written (spelling : Value → String) (items : List Value) :
    items.mapM (written spelling) =
      if Value.anyUnwritable items then .error .unwritable else .ok (items.map spelling) := by
  induction items with
  | nil => simp [Value.anyUnwritable]
  | cons item items ih =>
      rw [List.mapM_cons, ih, written, Value.anyUnwritable]
      by_cases first : item.isUnwritable
      · simp [first]
      · by_cases others : Value.anyUnwritable items
        · simp [first, others]
        · simp [first, others]

theorem listed_eq (spelling : Value → String) (items : List Value) :
    listed spelling items = if Value.anyUnwritable items then .error .unwritable
      else .ok (", ".intercalate (items.map spelling)) := by
  rw [listed, mapM_written]
  split
  · rfl
  · rfl

theorem splice_scalar (scalar : isScalar value = true) : splice name path value = written alone value := by
  cases value with
  | bool | str => rfl
  | int | float => simp [splice, splice?, isScalar, written, alone]
  | null | bytes | list | map | date | moment | set | tuple | again => cases scalar

theorem splice_list (scalars : ∀ item ∈ items, isScalar item = true) :
    splice name path (.list items) = listed Value.plain items := by
  have all : items.all isScalar = true := List.all_eq_true.mpr scalars
  rw [listed_eq, splice, splice?, if_pos all, Value.isUnwritable]

theorem alone_eq_plain (scalar : isScalar value = true) :
    alone value = value.plain ↔ ∀ b, value ≠ .bool b := by
  cases value with
  | bool b => cases b <;> simp [alone, flagText, Value.plain, Value.shown, Value.boolText]
  | str | int | float => simp [alone]
  | null | bytes | list | map | date | moment | set | tuple | again => cases scalar

theorem length_alone (value : Value) : (alone value).length = value.plain.length := by
  cases value with
  | bool b => cases b <;> rfl
  | null | str | int | float | bytes | list | map | date | moment | set | tuple | again => rfl

/-- Where both spellings of every item are equally long, lists in these spellings are equal only if all items
    are. -/
theorem eq_of_intercalate {α : Type} {spelling other : α → String} {items : List α} {separator : String}
    (lengths : ∀ item, (spelling item).length = (other item).length)
    (same : separator.intercalate (items.map spelling) = separator.intercalate (items.map other)) :
    ∀ item ∈ items, spelling item = other item := by
  induction items with
  | nil => simp
  | cons item items ih =>
      cases items with
      | nil => simpa using same
      | cons next items =>
          simp only [List.map_cons, String.intercalate_cons_cons] at same ih
          rw [← String.toList_inj] at same
          simp only [String.toList_append, List.append_assoc] at same
          have long : (spelling item).toList.length = (other item).toList.length := by
            rw [String.length_toList, String.length_toList, lengths item]
          obtain ⟨first, behind⟩ := List.append_inj same long
          have others := List.append_cancel_left behind
          rw [String.toList_inj] at first others
          exact List.forall_mem_cons.mpr ⟨first, ih others⟩

namespace Variables

variable {vars : Variables} {inside : Except ExpansionFault String} {made : Value}

theorem between_eq_ok :
    vars.between path front back inside = .ok made ↔ ∃ before text after,
      vars.textOf path front = .ok before ∧ inside = .ok text ∧ vars.textOf path back = .ok after ∧
        made = .str (before ++ text ++ after) := by
  simp only [between, Outcome.bind_eq_ok, Outcome.pure_eq, Except.ok.injEq, eq_comm (b := made)]
  grind

/-- What stands around a text may have no result; then it does not matter which text it is. -/
theorem between_error {text : String} {fault : ExpansionFault}
    (failed : vars.between path front back (.ok text) = .error fault) (other : String) :
    vars.between path front back (.ok other) = .error fault := by
  cases first : vars.textOf path front with
  | error => simpa [between, first] using failed
  | ok before =>
      cases last : vars.textOf path back with
      | error => simpa [between, first, last] using failed
      | ok after => simp [between, first, last] at failed

/-- Both spellings of a list come to the same between two texts, unless that is a text and one of the items is
    a truth value. -/
theorem between_listed_eq_iff (scalars : ∀ item ∈ items, isScalar item = true) :
    vars.between path front back (listed Value.plain items) =
        vars.between path front back (listed alone items) ↔
      ∀ made, vars.between path front back (listed alone items) = .ok made →
        ∀ item ∈ items, ∀ b, item ≠ .bool b := by
  constructor
  · intro same made ended item member
    obtain ⟨before, text, after, first, spelled, last, rfl⟩ := between_eq_ok.mp ended
    rw [ended] at same
    obtain ⟨_, other, _, first', plain, last', split⟩ := between_eq_ok.mp same
    rw [listed_eq] at spelled plain
    split at spelled
    · cases spelled
    · next short =>
        rw [if_neg short] at plain
        rw [first] at first'
        rw [last] at last'
        cases first'
        cases last'
        cases spelled
        cases plain
        have equal : ", ".intercalate (items.map alone) = ", ".intercalate (items.map (·.plain)) := by
          simpa [String.append_left_inj, String.append_right_inj] using split
        have own := eq_of_intercalate length_alone equal item member
        exact (alone_eq_plain (scalars item member)).mp own
  · intro none
    cases ended : vars.between path front back (listed alone items) with
    | ok made =>
        have plain : items.map (·.plain) = items.map alone := by
          apply List.map_congr_left
          intro item member
          exact ((alone_eq_plain (scalars item member)).mpr (none made ended item member)).symm
        rw [← ended, listed_eq, listed_eq, plain]
    | error fault =>
        rw [listed_eq] at ended ⊢
        by_cases long : Value.anyUnwritable items
        · rw [if_pos long] at ended ⊢
          exact ended
        · rw [if_neg long] at ended ⊢
          exact between_error ended _

/-- A list in a longer text is its items with commas between them, and every item is spelled as it would be as
    the value of a variable there, unless one is a truth value. -/
theorem list_spliced_item_by_item (vars : Variables) (name front back : String) (items : List Value)
    (named : isName name.toList = true) (scalars : ∀ item ∈ items, isScalar item = true)
    (apart : front.toList.getLast? ≠ some '$') (long : front ++ back ≠ "") (earlier : List (Room × Value)) :
    (∀ item, isScalar item = true → vars.expanded? name = some item →
      vars.outcomeAfter earlier none (.str (front ++ Piece.bracedText name ++ back)) =
        vars.between [] front back (written alone item)) ∧
    (vars.expanded? name = some (.list items) →
      vars.outcomeAfter earlier none (.str (front ++ Piece.bracedText name ++ back)) =
        vars.between [] front back (listed Value.plain items) ∧
      (vars.outcomeAfter earlier none (.str (front ++ Piece.bracedText name ++ back)) =
          vars.between [] front back (listed alone items) ↔
        ∀ made, vars.between [] front back (listed alone items) = .ok made →
          ∀ item ∈ items, ∀ b, item ≠ .bool b)) := by
  simp only [outcomeAfter_unbounded, fresh]
  constructor
  · intro item scalar expanded
    rw [expand_embedded named apart long expanded, splice_scalar scalar]
  · intro expanded
    rw [expand_embedded named apart long expanded, splice_list scalars]
    exact ⟨rfl, between_listed_eq_iff scalars⟩

/-- A list with a truth value in it, and a truth value. -/
def flags : Variables := ⟨[(.str "all", .list [.str "frag", .bool true]), (.str "on", .bool true)]⟩

theorem flags_expanded : flags.expanded? "on" = some (.bool true) ∧
    flags.expanded? "all" = some (.list [.str "frag", .bool true]) := by
  have all : flags.named.lookup "all" = some (.list [.str "frag", .bool true]) := rfl
  have on : flags.named.lookup "on" = some (.bool true) := rfl
  rw [expanded?, expanded?, freshValue_of_found List.not_mem_nil on,
    freshValue_of_found List.not_mem_nil all]
  exact ⟨rfl, rfl⟩

theorem flag_alone_and_listed :
    isName "on".toList = true ∧ isName "all".toList = true ∧
      (∀ item ∈ [Value.str "frag", .bool true], isScalar item = true) ∧
      flags.expanded? "on" = some (.bool true) ∧
      flags.expanded? "all" = some (.list [.str "frag", .bool true]) ∧
      flags.outcomeAfter [] none (.str "vert, ${on}") = .ok (.str "vert, true") ∧
      flags.outcomeAfter [] none (.str "vert, ${all}") = .ok (.str "vert, frag, True") := by
  have scalars : ∀ item ∈ [Value.str "frag", .bool true], isScalar item = true := by decide
  obtain ⟨on, all⟩ := flags_expanded
  have single := (list_spliced_item_by_item flags "on" "vert, " "" [] rfl (by simp) (by decide) (by decide)
    []).1 (.bool true) rfl on
  have several := (list_spliced_item_by_item flags "all" "vert, " "" _ rfl scalars (by decide) (by decide)
    []).2 all
  rw [between, textOf_of_plain (by decide), textOf_of_plain (by decide)] at single
  rw [between, textOf_of_plain (by decide), textOf_of_plain (by decide)] at several
  exact ⟨rfl, rfl, scalars, on, all, single, several.1⟩

/-- A truth value in a list is not spelled as it is alone. -/
theorem flag_capitalised_in_list :
    flags.outcomeAfter [] none (.str "vert, ${all}") = .ok (.str "vert, frag, True") ∧
      ¬ ∀ (vars : Variables) (name front back : String) (items : List Value), isName name.toList = true →
        (∀ item ∈ items, isScalar item = true) → front.toList.getLast? ≠ some '$' → front ++ back ≠ "" →
        vars.expanded? name = some (.list items) →
        vars.outcomeAfter [] none (.str (front ++ Piece.bracedText name ++ back)) =
          vars.between [] front back (listed alone items) := by
  have scalars : ∀ item ∈ [Value.str "frag", .bool true], isScalar item = true := by decide
  have spliced : flags.outcomeAfter [] none (.str ("vert, " ++ Piece.bracedText "all" ++ "")) =
      .ok (.str "vert, frag, True") := by
    rw [outcomeAfter_unbounded, fresh, expand_embedded rfl (by decide) (by decide) flags_expanded.2,
      splice_list scalars, between, textOf_of_plain (by decide), textOf_of_plain (by decide)]
    rfl
  have due : flags.between [] "vert, " "" (listed alone [.str "frag", .bool true]) =
      .ok (.str "vert, frag, true") := by
    rw [between, textOf_of_plain (by decide), textOf_of_plain (by decide)]
    rfl
  refine ⟨spliced, fun spelled => ?_⟩
  have same := spelled flags "all" "vert, " "" _ rfl scalars (by decide) (by decide) flags_expanded.2
  rw [spliced, due] at same
  simp at same

end Variables

end ShaderBuild.Manifest
