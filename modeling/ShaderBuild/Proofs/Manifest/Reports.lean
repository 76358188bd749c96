import ShaderBuild.Proofs.Manifest.Resolvable

/-! # What is reported of variables

A payload that cannot be expanded because of its variables is reported with the place of the text that has
the placeholder, and what the report says is so. There is one more way for a report to end: a variable that
does not exist is reported with the names of those that do, and these cannot be listed if one of them is no
text.
-/

namespace ShaderBuild.Manifest

/-! ## The places of texts -/

/-- A text stands in a value, and these steps lead to it. -/
inductive TextAt (text : String) : KeyPath → Value → Prop where
  | here : TextAt text [] (.str text)
  | entry {entries key value path} (member : (key, value) ∈ entries) (inside : TextAt text path value) :
      TextAt text (.name key.plain :: path) (.map entries)
  | item {items : List Value} {position : Nat} {item path} (found : items[position]? = some item)
      (inside : TextAt text path item) : TextAt text (.index position :: path) (.list items)

namespace Demand

variable {demand : Demand} {name : String} {path place : KeyPath}

theorem mem_ofText {text : String} (member : demand ∈ ofText path text)
    (shape : demand = .whole name place ∨ demand = .spliced name place) :
    place = path ∧ .variable name ∈ Piece.ofString text := by
  by_cases whole : ∃ name, Piece.ofString text = [.variable name]
  · obtain ⟨other, single⟩ := whole
    rw [ofText_of_single path single, List.mem_singleton] at member
    subst member
    rcases shape with same | same <;> cases same
    exact ⟨rfl, by simp [single]⟩
  · rw [ofText_of_long path fun name single => whole ⟨name, single⟩] at member
    obtain ⟨piece, inText, asks⟩ := List.mem_filterMap.mp member
    match piece with
    | .char _ | .escaped _ => cases asks
    | .variable other =>
        cases asks
        rcases shape with same | same <;> cases same
        exact ⟨rfl, inText⟩

theorem mem_ofEntries {entries : List (Value × Value)} (member : demand ∈ ofEntries path entries) :
    ∃ key value, (key, value) ∈ entries ∧
      (demand = .written key ∨ demand ∈ ofValue (path ++ [.name key.plain]) value) := by
  induction entries with
  | nil => cases member
  | cons entry entries ih =>
      obtain ⟨key, value⟩ := entry
      rw [ofEntries, List.mem_cons, List.mem_append] at member
      rcases member with written | inside | later
      · exact ⟨key, value, List.mem_cons_self, .inl written⟩
      · exact ⟨key, value, List.mem_cons_self, .inr inside⟩
      · obtain ⟨key, value, there, asks⟩ := ih later
        exact ⟨key, value, List.mem_cons_of_mem _ there, asks⟩

theorem mem_ofItems {items : List Value} {position : Nat} (member : demand ∈ ofItems path position items) :
    ∃ further item, items[further]? = some item ∧
      demand ∈ ofValue (path ++ [.index (position + further : Nat)]) item := by
  induction items generalizing position with
  | nil => cases member
  | cons item items ih =>
      rw [ofItems, List.mem_append] at member
      rcases member with inside | later
      · exact ⟨0, item, rfl, inside⟩
      · obtain ⟨further, item, there, asks⟩ := ih later
        have same : position + 1 + further = position + (further + 1) := by omega
        exact ⟨further + 1, item, there, same ▸ asks⟩

/-- A demand for a variable comes from a text that has a placeholder for it, and says where that stands. -/
theorem textAt_of_mem {path : KeyPath} {value : Value} (member : demand ∈ ofValue path value)
    (shape : demand = .whole name place ∨ demand = .spliced name place) :
    ∃ text below, place = path ++ below ∧ TextAt text below value ∧
      .variable name ∈ Piece.ofString text := by
  cases value with
  | str text =>
      obtain ⟨rfl, inText⟩ := mem_ofText member shape
      exact ⟨text, [], (List.append_nil _).symm, .here, inText⟩
  | map entries =>
      obtain ⟨key, value, there, written | inside⟩ := mem_ofEntries member
      · subst written
        rcases shape with same | same <;> cases same
      · have smaller : sizeOf value < sizeOf (Value.map entries) := by
          have inEntries := List.sizeOf_lt_of_mem there
          simp only [Prod.mk.sizeOf_spec] at inEntries
          simp only [Value.map.sizeOf_spec]
          omega
        obtain ⟨text, below, rfl, stands, inText⟩ := textAt_of_mem inside shape
        exact ⟨text, _, List.append_assoc _ _ _, .entry there stands, inText⟩
  | list items =>
      obtain ⟨position, item, there, inside⟩ := mem_ofItems member
      have smaller : sizeOf item < sizeOf (Value.list items) := by
        have inItems := List.sizeOf_lt_of_mem (List.mem_of_getElem? there)
        simp only [Value.list.sizeOf_spec]
        omega
      rw [Nat.zero_add] at inside
      obtain ⟨text, below, rfl, stands, inText⟩ := textAt_of_mem inside shape
      exact ⟨text, _, List.append_assoc _ _ _, .item there stands, inText⟩
  | again =>
      rw [List.mem_singleton.mp member] at shape
      rcases shape with same | same <;> cases same
  | null | bool | int | float | bytes | date | moment | set | tuple => cases member
termination_by sizeOf value
decreasing_by
  all_goals subst_vars
  all_goals exact smaller

end Demand

namespace Variables

variable {vars : Variables} {payload value : Value} {stack : List String}

/-- A text stands in a manifest: in the payload, or in the value of a variable, which has its place in the
    manifest too. -/
inductive StandsAt (vars : Variables) (payload : Value) (text : String) : KeyPath → Prop where
  | payload {path} (inside : TextAt text path payload) : StandsAt vars payload text path
  | variable {name value path} (found : vars.named.lookup name = some value)
      (inside : TextAt text path value) :
      StandsAt vars payload text (.name "vars" :: .name name :: path)

theorem standsAt_of_asked {demand : Demand} {name : String} {path : KeyPath}
    (asked : vars.Asked payload demand) (shape : demand = .whole name path ∨ demand = .spliced name path) :
    ∃ text, vars.StandsAt payload text path ∧ .variable name ∈ Piece.ofString text := by
  cases asked with
  | here member =>
      obtain ⟨text, below, rfl, inside, inText⟩ := Demand.textAt_of_mem member shape
      exact ⟨text, .payload inside, inText⟩
  | @through _ _ other _ _ member =>
      cases found : vars.named.lookup other with
      | none => simp [demandsOf, found] at member
      | some value =>
          rw [demandsOf_of_found found] at member
          obtain ⟨text, below, rfl, inside, inText⟩ := Demand.textAt_of_mem member shape
          exact ⟨text, .variable found inside, inText⟩

/-- A right report of a placeholder: it starts with the place of a text that has one for the variable, and
    what it says of the variable is so. -/
structure Reported (vars : Variables) (payload : Value) (e : VariableError) : Prop where
  offending : ∃ text name, vars.StandsAt payload text e.path ∧ .variable name ∈ Piece.ofString text ∧
    e.problem.name? = some name
  holds : vars.Holds e.problem
  starts : ∃ problem, e.message = pathText e.path ++ ": " ++ problem

/-- How the expansion of a payload may end. -/
inductive Ending (vars : Variables) (room : Room) (payload : Value) :
    Except ExpansionFault Value → Prop where
  | expanded (value : Value) : Ending vars room payload (.ok value)
  | reported {e : VariableError} (report : vars.Reported payload e) :
      Ending vars room payload (.error (.variable e))
  /-- A variable that does not exist is asked for, and not all of those that do have texts for names. -/
  | unlisted {demand name} (asked : vars.Asked payload demand) (names : demand.name? = some name)
      (missing : vars.named.lookup name = none) (mixed : vars.listed? = none) :
      Ending vars room payload (.error .unlisted)
  | unwritable (long : ¬ vars.Writable payload) : Ending vars room payload (.error .unwritable)
  | tooDeep (deep : room ≠ none ∨ vars.Asked payload .endless) :
      Ending vars room payload (.error .tooDeep)

theorem ending_fresh (vars : Variables) (room : Room) (payload : Value) :
    vars.Ending room payload (vars.fresh payload) := by
  cases ended : vars.fresh payload with
  | ok value => exact .expanded value
  | error fault =>
      cases failure_of_error ended with
      | placeholder asked place named holds =>
          obtain ⟨text, stands, inText⟩ := standsAt_of_asked asked place
          exact .reported ⟨⟨text, _, stands, inText, named⟩, holds, ⟨_, rfl⟩⟩
      | unlisted asked names missing mixed => exact .unlisted asked names missing mixed
      | unwritable long => exact .unwritable long
      | endless asked => exact .tooDeep (.inr asked)

/-! ## Names that are no texts -/

/-- The variables whose names are texts. -/
def textNamed (vars : Variables) : Variables := ⟨vars.named.map fun (name, value) => (.str name, value)⟩

theorem named_textNamed (vars : Variables) : vars.textNamed.named = vars.named := by
  rw [named, textNamed, List.filterMap_map]
  exact List.filterMap_some

theorem listed?_textNamed (vars : Variables) : vars.textNamed.listed?.isSome := by
  have same : vars.textNamed.named.length = vars.textNamed.entries.length := by
    rw [named_textNamed, textNamed, List.length_map]
  rw [listed?, if_pos same]
  rfl

/-- A fault with nothing said of which variable is unknown and which are not. -/
def unlist : ExpansionFault → ExpansionFault
  | .variable ⟨_, .unknown _ _⟩ => .unlisted
  | fault => fault

theorem unlist_unknown (vars : Variables) (name : String) (path : KeyPath) :
    unlist (vars.unknown name path) = .unlisted := by
  rw [unknown]
  cases vars.listed? <;> rfl

/-- Both come to the same but for what is said of unknown variables. -/
def unlisting : Simulation (Except ExpansionFault) (Except ExpansionFault) where
  rel x y := x.mapError unlist = y.mapError unlist
  rooms := Eq
  pure _ := rfl
  throw _ := rfl
  bind := by
    intro _ _ x y f g same rest
    cases x with
    | error fault =>
        cases y with
        | error other => exact congrArg Except.error (Except.error.inj same)
        | ok b => cases same
    | ok a =>
        cases y with
        | error other => cases same
        | ok b =>
            cases same
            exact rest a
  deeper := by
    rintro _ steps room _ f g rfl rest
    cases room with
    | none => exact rest none none rfl
    | some room =>
        by_cases enough : steps ≤ room
        · simpa [Manifest.deeper, enough] using rest _ _ rfl
        · simp [Manifest.deeper, enough]

theorem lookups_textNamed (vars : Variables) (stack : List String) :
    unlisting.Lookups (vars.freshValue stack) (vars.textNamed.freshValue stack) := by
  rintro steps room _ name path rfl
  have same := named_textNamed vars
  by_cases member : name ∈ stack
  · rw [freshValue_of_mem member, freshValue_of_mem member]
    rfl
  · cases found : vars.named.lookup name with
    | none =>
        rw [freshValue_of_unknown member found, freshValue_of_unknown member (same ▸ found)]
        exact congrArg Except.error ((unlist_unknown _ _ _).trans (unlist_unknown _ _ _).symm)
    | some value =>
        have less := unused_append_lt found member
        rw [freshValue_of_found member found, freshValue_of_found member (same ▸ found)]
        refine unlisting.deeper steps rfl fun left right rooms => ?_
        exact Simulation.expand (lookups_textNamed vars (stack ++ [name])) rooms _ value
termination_by (vars.unused stack).length

theorem fresh_textNamed (vars : Variables) (payload : Value) :
    (vars.fresh payload).mapError unlist = (vars.textNamed.fresh payload).mapError unlist :=
  Simulation.expand (lookups_textNamed vars []) rfl [] payload

/-- An expansion fails for names that cannot be listed if and only if there are some, and without them it
    would be reported that a variable is unknown. -/
theorem fresh_eq_unlisted_iff : vars.fresh payload = .error .unlisted ↔
    vars.listed? = none ∧ ∃ path name known,
      vars.textNamed.fresh payload = .error (.variable ⟨path, .unknown name known⟩) := by
  have same := fresh_textNamed vars payload
  constructor
  · intro ended
    have mixed : vars.listed? = none := by
      cases failure_of_error ended with
      | unlisted _ _ _ mixed => exact mixed
    rw [ended] at same
    refine ⟨mixed, ?_⟩
    cases other : vars.textNamed.fresh payload with
    | ok value => simp [other, Except.mapError] at same
    | error fault =>
        have forgotten : unlist fault = .unlisted := by
          rw [other] at same
          exact (Except.error.inj same).symm
        cases failure_of_error other with
        | @placeholder _ _ path problem _ _ _ _ =>
            cases problem with
            | unknown name known => exact ⟨path, name, known, rfl⟩
            | cycle | unspliceable => cases forgotten
        | unlisted _ _ _ mixed => simpa [mixed] using listed?_textNamed vars
        | unwritable | endless => cases forgotten
  · rintro ⟨mixed, path, name, known, other⟩
    rw [other] at same
    cases ended : vars.fresh payload with
    | ok value => simp [ended, Except.mapError] at same
    | error fault =>
        have forgotten : unlist fault = .unlisted := by
          rw [ended] at same
          exact Except.error.inj same
        cases failure_of_error ended with
        | @placeholder _ _ _ problem _ _ _ holds =>
            cases problem with
            | unknown name known =>
                have listed : vars.listed? = some known := holds.2
                rw [mixed] at listed
                cases listed
            | cycle | unspliceable => cases forgotten
        | unlisted => rfl
        | unwritable | endless => cases forgotten

/-- Whatever was expanded before, a payload is expanded or the report is a right one that starts with the
    place of the text with the placeholder, unless values are nested too deeply, an integer is too long to
    be written, or the names that a report is to list are not all texts. The last is so exactly if without
    the other names an unknown variable would be reported. -/
theorem outcomeAfter_ends (vars : Variables) (earlier : List (Room × Value)) (payload : Value) :
    (∀ room, vars.Ending room payload (vars.outcomeAfter earlier room payload)) ∧
      (vars.outcomeAfter earlier none payload = .error .unlisted ↔
        vars.listed? = none ∧ ∃ path name known,
          vars.textNamed.fresh payload = .error (.variable ⟨path, .unknown name known⟩)) := by
  refine ⟨fun room => ?_, outcomeAfter_unbounded vars earlier payload ▸ fresh_eq_unlisted_iff⟩
  rcases outcomeAfter_bounded vars earlier room payload with same | ⟨bounded, deep⟩
  · exact same ▸ ending_fresh vars room payload
  · exact deep ▸ .tooDeep (.inl bounded)

/-- One variable, which is named by a number. -/
def numbered : Variables := ⟨[(.int 1, .str "a")]⟩

/-- The name of the only variable is a number, and so an unknown one is not reported. -/
theorem unlisted_of_number :
    numbered.outcomeAfter [] usualRoom (.str "${nope}") = .error .unlisted ∧
      ¬ ∀ (vars : Variables) (payload : Value),
        (∃ value, vars.outcomeAfter [] usualRoom payload = .ok value) ∨
          ∃ e, vars.outcomeAfter [] usualRoom payload = .error (.variable e) := by
  have ended : numbered.outcomeAfter [] usualRoom (.str "${nope}") = .error .unlisted := by
    have single : Piece.ofString "${nope}" = [.variable "nope"] := rfl
    rw [outcomeAfter, substitute, expand, expandText, single]
    exact congrArg Prod.fst (valueOf_of_unknown rfl List.not_mem_nil rfl)
  refine ⟨ended, fun reported => ?_⟩
  rcases reported numbered (.str "${nope}") with ⟨_, same⟩ | ⟨_, same⟩
  all_goals
    rw [ended] at same
    cases same

end Variables

end ShaderBuild.Manifest
