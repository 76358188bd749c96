import ShaderBuild.Manifest.Load
import ShaderBuild.Proofs.Manifest.Levels
import ShaderBuild.Proofs.Manifest.Literal

/-! # Manifests without variables

A manifest that defines no variables is taken as it is, and nothing is looked for in its texts. Once it
defines some, if only by an empty mapping, placeholders are looked for in all of them. Where there are none
this makes no difference.
-/

namespace ShaderBuild

namespace Value

variable {key value : Value}

theorem getKey?_setKey (self : key.sameKey key) (entries : List (Value × Value)) :
    getKey? key (setKey key value entries) = some value := by
  induction entries with
  | nil => simp [setKey, getKey?, self]
  | cons entry entries ih => by_cases same : entry.1.sameKey key <;> simp [setKey, getKey?, same, ih]

theorem filter_setKey (self : key.sameKey key) (entries : List (Value × Value)) :
    (setKey key value entries).filter (fun entry => !entry.1.sameKey key) =
      entries.filter fun entry => !entry.1.sameKey key := by
  induction entries with
  | nil => simp [setKey, self]
  | cons entry entries ih => by_cases same : entry.1.sameKey key <;> simp [setKey, same, ih]

end Value

namespace Manifest

/-! ## Payloads of files -/

/-- A file has a payload: its text is that of the value, in the format that its name says. -/
inductive PayloadAt (tree : FileTree) (path : Path) (value : Value) : Prop where
  | json {text} (there : readText tree path = .ok text) (suffix : lowerSuffix path = ".json")
      (read : Json.read text = .ok value) : PayloadAt tree path value
  | yaml {text document} (there : readText tree path = .ok text)
      (suffix : lowerSuffix path = ".yml" ∨ lowerSuffix path = ".yaml")
      (read : Yaml.read text = .ok document) (is : document.value? = some value) : PayloadAt tree path value

/-- The payload that a file has defines no variables, or null for them. The payload may hold itself; then it
    is no plain value. -/
inductive Undefining (tree : FileTree) (path : Path) : Prop where
  | plain {entries} (written : PayloadAt tree path (.map entries))
      (absent : Value.getKey? variablesKey entries = none ∨
        Value.getKey? variablesKey entries = some .null) : Undefining tree path
  | circular {text document id entries} (there : readText tree path = .ok text)
      (suffix : lowerSuffix path = ".yml" ∨ lowerSuffix path = ".yaml")
      (read : Yaml.read text = .ok document) (endless : document.value? = none)
      (root : document.root = .object id) (mapping : document.object id = .map entries)
      (absent : ∀ entry, entries.find? (fun entry => isVariables entry.1) = some entry →
        entry.2 = .leaf .null) : Undefining tree path

theorem load_yaml {tree : FileTree} {path : Path} {text : List Char} {document : Yaml.Document}
    (there : readText tree path = .ok text) (suffix : lowerSuffix path = ".yml" ∨ lowerSuffix path = ".yaml")
    (read : Yaml.read text = .ok document) : load tree path = ofDocument document := by
  have other : lowerSuffix path ≠ ".json" := by rcases suffix with same | same <;> simp [same]
  rw [load, loadWith, there, Outcome.ok_bind, ofText, if_neg other, if_pos suffix, read, Outcome.mapError_ok,
    Outcome.ok_bind]

theorem load_of_payloadAt {tree : FileTree} {path : Path} {value : Value}
    (payload : PayloadAt tree path value) : load tree path = ofValue value := by
  cases payload with
  | json there suffix read =>
      rw [load, loadWith, there, Outcome.ok_bind, ofText, if_pos suffix, read]
      rfl
  | yaml there suffix read is => rw [load_yaml there suffix read, ofDocument, is]

/-- What a payload has besides its variables. -/
def others (entries : List (Value × Value)) : Value :=
  .map (entries.filter fun entry => !isVariables entry.1)

/-- A payload with a mapping of variables added, in the place of null if that stands for them. -/
def defining (vars : Variables) (entries : List (Value × Value)) : Value :=
  .map (Value.setKey variablesKey (.map vars.entries) entries)

variable {vars : Variables} {entries : List (Value × Value)} {payload : Value}

theorem ofValue_without (absent : Value.getKey? variablesKey entries = none ∨
      Value.getKey? variablesKey entries = some .null) :
    ofValue (.map entries) = validate (others entries) := by
  rw [ofValue, expandVariables]
  rcases absent with none | null
  · rw [none]
    rfl
  · rw [null]
    rfl

theorem validate_ne_expansion {value : Value} {fault : ExpansionFault} :
    validate value ≠ .error (.expansion fault) := by
  intro fails
  obtain ⟨problems, -, same⟩ := Outcome.mapError_eq_error.mp fails
  cases same

theorem validateDocument_ne_expansion {document : Yaml.Document} {fault : ExpansionFault} :
    validateDocument document ≠ .error (.expansion fault) := by
  intro fails
  obtain ⟨problems, -, same⟩ := Outcome.mapError_eq_error.mp fails
  cases same

/-- Nothing is replaced in a payload that defines no variables. -/
theorem load_ne_expansion {tree : FileTree} {path : Path} (undefining : Undefining tree path)
    (fault : ExpansionFault) : load tree path ≠ .error (.expansion fault) := by
  cases undefining with
  | plain written absent =>
      rw [load_of_payloadAt written, ofValue_without absent]
      exact validate_ne_expansion
  | @circular text document id entries there suffix read endless root mapping absent =>
      rw [load_yaml there suffix read, ofDocument, endless, root]
      simp only [mapping, ofEntries]
      cases found : entries.find? fun entry => isVariables entry.1 with
      | none => exact validateDocument_ne_expansion
      | some entry =>
          rw [Option.map_some, absent entry found]
          exact validateDocument_ne_expansion

theorem ofValue_defining : ofValue (defining vars entries) =
    (vars.outcomeAfter [] usualRoom (others entries)).mapError .expansion >>= validate := by
  have self : variablesKey.sameKey variablesKey := rfl
  have same : entries.filter (fun entry => !isVariables entry.1) =
      (Value.setKey variablesKey (.map vars.entries) entries).filter fun entry => !isVariables entry.1 :=
    (Value.filter_setKey self entries).symm
  rw [defining, ofValue, expandVariables, Value.getKey?_setKey self, others, same]
  rfl

/-! ## Texts once they are expanded -/

section

variable {lookup : Lookup (Except ExpansionFault)} {path below : KeyPath} {text : String}

theorem exists_mem_of_expandEntries {made : List (Value × Value)} {key value : Value}
    (ended : expandEntries lookup none path entries = .ok made) (member : (key, value) ∈ entries) :
    ∃ own, expand lookup none (path ++ [.name key.plain]) value = .ok own ∧ (key, own) ∈ made := by
  induction entries generalizing made with
  | nil => cases member
  | cons entry entries ih =>
      obtain ⟨-, own, others, first, later, rfl⟩ := expandEntries_cons_eq_ok.mp ended
      rcases List.mem_cons.mp member with same | member
      · cases same
        exact ⟨own, first, List.mem_cons_self⟩
      · obtain ⟨own, found, member⟩ := ih later member
        exact ⟨own, found, List.mem_cons_of_mem _ member⟩

theorem exists_getElem?_of_expandItems {items made : List Value} {item : Value} {start further : Nat}
    (ended : expandItems lookup none path start items = .ok made) (found : items[further]? = some item) :
    ∃ own, expand lookup none (path ++ [.index (start + further : Nat)]) item = .ok own ∧
      made[further]? = some own := by
  induction items generalizing made start further with
  | nil => cases found
  | cons front items ih =>
      obtain ⟨own, others, first, later, rfl⟩ := expandItems_cons_eq_ok.mp ended
      cases further with
      | zero =>
          cases found
          exact ⟨own, first, rfl⟩
      | succ further =>
          have same : start + 1 + further = start + (further + 1) := by omega
          obtain ⟨own, expanded, member⟩ := ih later found
          exact ⟨own, same ▸ expanded, member⟩

/-- What a text comes to stands where the text stood. -/
theorem textAt_of_expanded {value made : Value} (stands : TextAt text below value)
    (ended : expand lookup none path value = .ok made) :
    ∃ own, expand lookup none (path ++ below) (.str text) = .ok own ∧
      ∀ result, own = .str result → TextAt result below made := by
  induction stands generalizing path made with
  | here =>
      rw [List.append_nil]
      refine ⟨made, ended, ?_⟩
      rintro result rfl
      exact .here
  | @entry entries key value place member inside ih =>
      obtain ⟨made, all, same⟩ := Outcome.bind_eq_ok.mp ended
      cases same
      obtain ⟨own, expanded, stays⟩ := exists_mem_of_expandEntries all member
      obtain ⟨own, expanded, there⟩ := ih expanded
      rw [List.append_assoc] at expanded
      exact ⟨own, expanded, fun result is => .entry stays (there result is)⟩
  | @item items position item place found inside ih =>
      obtain ⟨made, all, same⟩ := Outcome.bind_eq_ok.mp ended
      cases same
      obtain ⟨own, expanded, stays⟩ := exists_getElem?_of_expandItems all found
      rw [Nat.zero_add] at expanded
      obtain ⟨own, expanded, there⟩ := ih expanded
      rw [List.append_assoc] at expanded
      exact ⟨own, expanded, fun result is => .item stays (there result is)⟩

/-- A text with a placeholder asks for its variable. -/
theorem Demand.exists_mem_ofText {name : String} (inText : .variable name ∈ Piece.ofString text) :
    ∃ demand ∈ ofText path text, demand.name? = some name := by
  by_cases whole : ∃ other, Piece.ofString text = [.variable other]
  · obtain ⟨other, single⟩ := whole
    rw [ofText_of_single path single]
    rw [single, List.mem_singleton] at inText
    cases inText
    exact ⟨_, List.mem_cons_self, rfl⟩
  · rw [ofText_of_long path fun other single => whole ⟨other, single⟩]
    exact ⟨_, List.mem_filterMap.mpr ⟨_, inText, rfl⟩, rfl⟩

end

namespace Variables

variable {text name : String} {place : KeyPath} {made : Value}

/-- Once a payload is expanded all variables that its texts name have come to values. -/
theorem expanded?_isSome_of_fresh (ended : vars.fresh payload = .ok made)
    (stands : TextAt text place payload) (inText : .variable name ∈ Piece.ofString text) :
    (vars.expanded? name).isSome := by
  obtain ⟨own, expanded, -⟩ := textAt_of_expanded stands ended
  obtain ⟨demand, member, names⟩ := Demand.exists_mem_ofText inText
  have met := expand_ok_iff.mp ⟨own, expanded⟩ demand member
  obtain ⟨value, yields⟩ := yields_of_check met names
  rw [yields.expanded?]
  rfl

theorem fresh_of_outcomeAfter {earlier : List (Room × Value)} {room : Room}
    (ended : vars.outcomeAfter earlier room payload = .ok made) : vars.fresh payload = .ok made := by
  rcases outcomeAfter_bounded vars earlier room payload with same | ⟨-, deep⟩
  · rw [← same, ended]
  · rw [deep] at ended
    cases ended

/-- A payload that nothing but its variables can keep from being expanded: it is not nested too deeply, does
    not hold itself, and its keys can be written. -/
structure Workable (payload : Value) : Prop where
  shallow : ∀ room, usualRoom = some room → memberSteps * levels payload ≤ room
  finite : .endless ∉ Demand.ofValue [] payload
  keys : ∀ key, .written key ∈ Demand.ofValue [] payload → key.isUnwritable = false

theorem Workable.outcomeAfter_eq (workable : Workable payload)
    (flat : Flat (vars.valueOf vars.entries.length []) (Demand.ofValue [] payload)) :
    vars.outcomeAfter [] usualRoom payload = vars.fresh payload := by
  rw [← outcomeAfter_unbounded vars [], outcomeAfter, outcomeAfter, substitute, substitute]
  cases bound : usualRoom with
  | none => rfl
  | some room => rw [expand_shallow _ room [] payload (workable.shallow room bound) flat]

/-- A payload that asks for no variable comes to itself with its placeholders standing for themselves,
    whatever variables there are. -/
theorem Workable.outcomeAfter_literal (workable : Workable payload)
    (none : ∀ text place name, TextAt text place payload → .variable name ∉ Piece.ofString text) :
    vars.outcomeAfter [] usualRoom payload = .ok (unescaped payload) := by
  have writes : ∀ demand ∈ Demand.ofValue [] payload, demand.Writes := by
    intro demand member
    have unasked : ∀ name path, ¬ (demand = .whole name path ∨ demand = .spliced name path) := by
      intro name path shape
      obtain ⟨text, place, -, stands, inText⟩ := Demand.textAt_of_mem member shape
      exact none text place name stands inText
    cases demand with
    | written key => exact ⟨key, rfl, workable.keys key member⟩
    | endless => exact absurd member workable.finite
    | whole name path => exact absurd (.inl rfl) (unasked name path)
    | spliced name path => exact absurd (.inr rfl) (unasked name path)
  rw [workable.outcomeAfter_eq, fresh, expand_literal _ _ _ writes]
  · rfl
  · intro demand member name names
    obtain ⟨key, rfl, -⟩ := writes demand member
    cases names

/-- No variables at all. -/
def empty : Variables := ⟨[]⟩

theorem empty_freshValue {steps : Nat} {room : Room} {path : KeyPath} :
    empty.freshValue [] steps room name path = .error (.variable ⟨path, .unknown name []⟩) := by
  rw [freshValue_of_unknown List.not_mem_nil rfl]
  simp [Variables.unknown, listed?, Variables.named, empty]

theorem empty_flat (demands : List Demand) : Flat (empty.valueOf empty.entries.length []) demands := by
  intro _ _ name _ steps room path
  -- a name that no variable has is refused before there is any going down
  have missing : empty.named.lookup name = none := rfl
  simp only [valueOf, missing]

/-- Where there are no variables the first one that is asked for is reported. -/
theorem Workable.outcomeAfter_unknown (workable : Workable payload) (stands : TextAt text place payload)
    (inText : .variable name ∈ Piece.ofString text) :
    ∃ text place name, TextAt text place payload ∧ .variable name ∈ Piece.ofString text ∧
      empty.outcomeAfter [] usualRoom payload = .error (.variable ⟨place, .unknown name []⟩) := by
  rw [workable.outcomeAfter_eq (empty_flat _)]
  cases ended : empty.fresh payload with
  | ok made =>
      have found := expanded?_isSome_of_fresh ended stands inText
      rw [expanded?, empty_freshValue] at found
      cases found
  | error fault =>
      obtain ⟨demand, member, stopped⟩ := expand_error ended
      have asked : ∃ name place, (demand = .whole name place ∨ demand = .spliced name place) ∧
          fault = .variable ⟨place, .unknown name []⟩ := by
        cases Demand.refused_of_check stopped with
        | unwritable long => simp [workable.keys _ member] at long
        | endless => exact absurd member workable.finite
        | whole failed =>
            rw [empty_freshValue] at failed
            exact ⟨_, _, .inl rfl, (Except.error.inj failed).symm⟩
        | spliced failed =>
            rw [empty_freshValue] at failed
            exact ⟨_, _, .inr rfl, (Except.error.inj failed).symm⟩
        | formless found =>
            rw [empty_freshValue] at found
            cases found
      obtain ⟨name, place, shape, rfl⟩ := asked
      obtain ⟨text, below, rfl, stands, inText⟩ := Demand.textAt_of_mem member shape
      exact ⟨text, _, name, stands, inText, rfl⟩

theorem exists_error_of_unresolved {room : Room} (stands : TextAt text place payload)
    (inText : .variable name ∈ Piece.ofString text) (unresolved : vars.expanded? name = none) :
    ∃ fault, vars.outcomeAfter [] room payload = .error fault ∧ vars.Ending room payload (.error fault) := by
  cases ended : vars.outcomeAfter [] room payload with
  | ok made =>
      have found := expanded?_isSome_of_fresh (fresh_of_outcomeAfter ended) stands inText
      rw [unresolved] at found
      cases found
  | error fault => exact ⟨fault, rfl, ended ▸ (outcomeAfter_ends vars [] payload).1 room⟩

theorem textAt_of_escaped {room : Room} {front back : String} (named : isName name.toList = true)
    (stands : TextAt (front ++ "$" ++ Piece.bracedText name ++ back) place payload)
    (ended : vars.outcomeAfter [] room payload = .ok made) :
    ∃ before after, vars.textOf place front = .ok before ∧ vars.textOf place back = .ok after ∧
      TextAt (before ++ Piece.bracedText name ++ after) place made := by
  obtain ⟨own, expanded, there⟩ := textAt_of_expanded stands (fresh_of_outcomeAfter ended)
  rw [expand_escaped named, List.nil_append] at expanded
  obtain ⟨before, first, more⟩ := Outcome.bind_eq_ok.mp expanded
  rw [Outcome.ok_bind] at more
  obtain ⟨after, last, all⟩ := Outcome.bind_eq_ok.mp more
  cases all
  exact ⟨before, after, first, last, there _ rfl⟩

/-- What becomes of a payload once a mapping of variables is added to it. The first outcome is that of the
    payload as it is, the other one that of both together. -/
structure Added (vars : Variables) (payload : Value) (alone together : Except LoadFault Manifest) : Prop where
  /-- Without placeholders nothing changes. -/
  same : Workable payload → (∀ text place, TextAt text place payload → Piece.Bare text.toList) →
    together = alone
  /-- Placeholders that stand for themselves lose a dollar sign. -/
  literal : Workable payload →
    (∀ text place name, TextAt text place payload → .variable name ∉ Piece.ofString text) →
    together = validate (unescaped payload)
  /-- The first of the others is reported if the mapping is empty. -/
  unknown : vars = empty → Workable payload →
    ∀ text place name, TextAt text place payload → .variable name ∈ Piece.ofString text →
      ∃ text place name, TextAt text place payload ∧ .variable name ∈ Piece.ofString text ∧
        together = .error (.expansion (.variable ⟨place, .unknown name []⟩))
  unresolved : ∀ text place name, TextAt text place payload → .variable name ∈ Piece.ofString text →
    vars.expanded? name = none →
      ∃ fault, together = .error (.expansion fault) ∧ vars.Ending usualRoom payload (.error fault)
  escaped : ∀ made, vars.outcomeAfter [] usualRoom payload = .ok made → together = validate made ∧
    ∀ front name back place, isName name.toList = true →
      TextAt (front ++ "$" ++ Piece.bracedText name ++ back) place payload →
        ∃ before after, vars.textOf place front = .ok before ∧ vars.textOf place back = .ok after ∧
          TextAt (before ++ Piece.bracedText name ++ after) place made

theorem added (vars : Variables) (payload : Value) : vars.Added payload (validate payload)
    ((vars.outcomeAfter [] usualRoom payload).mapError .expansion >>= validate) where
  same workable bare := by
    have none : ∀ text place name, TextAt text place payload → .variable name ∉ Piece.ofString text := by
      intro text place name stands
      rw [← Piece.escape_of_bare (bare text place stands)]
      exact Piece.not_variable_of_escape text name
    rw [workable.outcomeAfter_literal none, unescaped_of_bare bare]
    rfl
  literal workable none := by
    rw [workable.outcomeAfter_literal none]
    rfl
  unknown none workable text place name stands inText := by
    obtain ⟨text, place, name, stands, inText, ended⟩ := workable.outcomeAfter_unknown stands inText
    rw [none, ended]
    exact ⟨text, place, name, stands, inText, rfl⟩
  unresolved text place name stands inText unresolved := by
    obtain ⟨fault, ended, ending⟩ := exists_error_of_unresolved stands inText unresolved
    rw [ended]
    exact ⟨fault, rfl, ending⟩
  escaped made ended := by
    rw [ended]
    exact ⟨rfl, fun front name back place named stands => textAt_of_escaped named stands ended⟩

end Variables

/-- In a manifest that defines no variables, or null for them, nothing is replaced: it is what its payload is
    as it stands. With a mapping of variables added it is the same if there are no placeholders in it.
    Otherwise those that stand for themselves are replaced by what they stand for, and what cannot be resolved
    is reported. -/
theorem load_without_variables :
    (∀ tree path fault, Undefining tree path → load tree path ≠ .error (.expansion fault)) ∧
      ∀ tree path entries, PayloadAt tree path (.map entries) →
        (Value.getKey? variablesKey entries = none ∨ Value.getKey? variablesKey entries = some .null) →
        load tree path = validate (others entries) ∧
          ∀ (vars : Variables) tree' path', PayloadAt tree' path' (defining vars entries) →
            vars.Added (others entries) (load tree path) (load tree' path') := by
  refine ⟨fun tree path fault undefining => load_ne_expansion undefining fault, ?_⟩
  intro tree path entries written absent
  have alone : load tree path = validate (others entries) := by
    rw [load_of_payloadAt written, ofValue_without absent]
  refine ⟨alone, fun vars tree' path' extended => ?_⟩
  rw [alone, load_of_payloadAt extended, ofValue_defining]
  exact Variables.added vars (others entries)

/-- A manifest without shaders whose artifacts would go to a directory with a placeholder for its name. -/
def escapedOut : List (Value × Value) :=
  [(.str "version", .str "1"), (.str "defaults", .map [(.str "out_dir", .str "$${x}")]),
    (.str "shaders", .list [])]

/-- The text of the manifest. -/
def escapedOutText : String :=
  "\x7b\"version\":\"1\", \"defaults\":\x7b\"out_dir\":\"$${x}\"\x7d, \"shaders\":[]\x7d"

/-- The text of the manifest with an empty mapping of variables. -/
def extendedOutText : String :=
  "\x7b\"version\":\"1\", \"defaults\":\x7b\"out_dir\":\"$${x}\"\x7d, \"shaders\":[], \"vars\":\x7b\x7d\x7d"

def jsonPath : Path := Path.ofString "m.json"

/-- A working directory with one file, a manifest. -/
def jsonFile (text : String) : FileTree := ⟨[(⟨.above 0, ["m.json"]⟩, .file (Text.Utf8.encode text) false)]⟩

theorem payloadAt_escapedOut : PayloadAt (jsonFile escapedOutText) jsonPath (.map escapedOut) := by
  have there : readText (jsonFile escapedOutText) jsonPath = .ok escapedOutText.toList :=
    Outcome.toOption_eq_some.mp (by decide +kernel)
  exact .json there (by rfl) (by cbv)

theorem payloadAt_extendedOut :
    PayloadAt (jsonFile extendedOutText) jsonPath (defining .empty escapedOut) := by
  have there : readText (jsonFile extendedOutText) jsonPath = .ok extendedOutText.toList :=
    Outcome.toOption_eq_some.mp (by decide +kernel)
  exact .json there (by rfl) (by cbv)

theorem others_escapedOut : others escapedOut = .map escapedOut := by rfl

theorem workable_escapedOut : Variables.Workable (others escapedOut) := by
  have demands : Demand.ofValue [] (others escapedOut) =
      [.written (.str "version"), .written (.str "defaults"), .written (.str "out_dir"),
        .written (.str "shaders")] := by rfl
  refine ⟨?_, ?_, ?_⟩
  · intro room usual
    cases usual
    decide
  · simp [demands]
  · intro key member
    simp only [demands, List.mem_cons, Demand.written.injEq, List.not_mem_nil, or_false] at member
    rcases member with rfl | rfl | rfl | rfl <;> rfl

theorem text_of_escapedOut {text : String} {place : KeyPath}
    (stands : TextAt text place (others escapedOut)) : text = "1" ∨ text = "$${x}" := by
  rw [others_escapedOut, escapedOut] at stands
  cases stands with
  | entry member inside =>
      simp only [List.mem_cons, Prod.mk.injEq, List.not_mem_nil, or_false] at member
      rcases member with ⟨-, rfl⟩ | ⟨-, rfl⟩ | ⟨-, rfl⟩
      · cases inside
        exact .inl rfl
      · cases inside with
        | entry member inside =>
            obtain ⟨-, rfl⟩ := Prod.mk.inj (List.mem_singleton.mp member)
            cases inside
            exact .inr rfl
      · cases inside with
        | item found => cases found

theorem not_variable_of_escapedOut (text : String) (place : KeyPath) (name : String)
    (stands : TextAt text place (others escapedOut)) : .variable name ∉ Piece.ofString text := by
  rcases text_of_escapedOut stands with rfl | rfl
  · have pieces : Piece.ofString "1" = [.char '1'] := rfl
    simp [pieces]
  · have pieces : Piece.ofString "$${x}" = [.escaped "x"] := rfl
    simp [pieces]

/-- Once there are variables, if none at all, the placeholder stands for itself. -/
theorem escaped_out_with_variables :
    PayloadAt (jsonFile escapedOutText) jsonPath (.map escapedOut) ∧
      Value.getKey? variablesKey escapedOut = none ∧
      PayloadAt (jsonFile extendedOutText) jsonPath (defining .empty escapedOut) ∧
      load (jsonFile extendedOutText) jsonPath = validate (unescaped (others escapedOut)) ∧
      TextAt "${x}" [.name "defaults", .name "out_dir"] (unescaped (others escapedOut)) := by
  have absent : Value.getKey? variablesKey escapedOut = none := rfl
  have compared := load_without_variables.2 _ _ _ payloadAt_escapedOut (.inl absent)
  have added := compared.2 .empty _ _ payloadAt_extendedOut
  have literal := added.literal workable_escapedOut not_variable_of_escapedOut
  refine ⟨payloadAt_escapedOut, absent, payloadAt_extendedOut, literal, ?_⟩
  have stands : TextAt "$${x}" [.name "defaults", .name "out_dir"] (others escapedOut) := by
    have inside : TextAt "$${x}" [.name "out_dir"] (.map [(.str "out_dir", .str "$${x}")]) :=
      @TextAt.entry _ _ (.str "out_dir") _ _ List.mem_cons_self .here
    rw [others_escapedOut]
    exact @TextAt.entry _ _ (.str "defaults") _ _ (by simp [escapedOut]) inside
  have ended : Variables.empty.outcomeAfter [] usualRoom (others escapedOut) = .ok _ :=
    workable_escapedOut.outcomeAfter_literal not_variable_of_escapedOut
  obtain ⟨before, after, first, last, there⟩ := (added.escaped _ ended).2 "" "x" "" _ rfl stands
  rw [Variables.textOf_of_plain (by simp)] at first last
  cases first
  cases last
  exact there

/-- Without variables the placeholder stays as it is written, and so the directory has another name. -/
theorem escape_left_without_variables :
    load (jsonFile escapedOutText) jsonPath = .ok ⟨1, ⟨.python, "$${x}", .text ""⟩, []⟩ ∧
      load (jsonFile extendedOutText) jsonPath = .ok ⟨1, ⟨.python, "${x}", .text ""⟩, []⟩ ∧
      ¬ ∀ tree path entries tree' path', PayloadAt tree path (.map entries) →
        (Value.getKey? variablesKey entries = none ∨ Value.getKey? variablesKey entries = some .null) →
        PayloadAt tree' path' (defining .empty entries) → load tree' path' = load tree path := by
  have alone : load (jsonFile escapedOutText) jsonPath = .ok ⟨1, ⟨.python, "$${x}", .text ""⟩, []⟩ :=
    Outcome.toOption_eq_some.mp (by decide +kernel)
  have together : load (jsonFile extendedOutText) jsonPath =
      .ok ⟨1, ⟨.python, "${x}", .text ""⟩, []⟩ := Outcome.toOption_eq_some.mp (by decide +kernel)
  refine ⟨alone, together, fun always => ?_⟩
  have same := always _ _ _ _ _ payloadAt_escapedOut (.inl rfl) payloadAt_extendedOut
  rw [alone, together] at same
  simp at same

end Manifest

end ShaderBuild
