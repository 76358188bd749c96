import ShaderBuild.Manifest.Schema
import ShaderBuild.Proofs.Directive.Items
import ShaderBuild.Proofs.Directive.Lossless
import ShaderBuild.Proofs.Manifest.Splicing
import ShaderBuild.Proofs.Text.Replacing

/-! # Lists of directives, whole and spliced

A variable that holds a list of directives can stand for the directives of a shader in two ways. As a single
placeholder it gives the list, which is joined when it is read. With blanks behind the placeholder the list
is joined at once, and the shader has one text. Both come to the same directives.
-/

namespace ShaderBuild

/-- A text that holds nothing but blanks. -/
def Text.Blank (text : String) : Prop := ∀ c ∈ text.toList, isBlank c = true

instance (text : String) : Decidable (Text.Blank text) :=
  decidable_of_iff (text.toList.all Text.isBlank = true) List.all_eq_true

/-! ## Directives with blanks behind them -/

namespace Directive

theorem parseDirectives_append_gap_iff {text gap : String} (blank : Text.Blank gap)
    {directives : List Directive} :
    parseDirectives (.text (text ++ gap)) = .ok directives ↔
      parseDirectives (.text text) = .ok directives := by
  rw [parseDirectives_text_eq_ok_iff, parseDirectives_text_eq_ok_iff]
  exact exists_congr fun tokens => and_congr_left fun _ => tokenize_append_gap_iff blank

end Directive

namespace DirectiveSetting

variable {items : List String} {gap : String}

/-- The setting that a list is spliced into, with a gap behind it. -/
def spliced (items : List String) (gap : String) : DirectiveSetting :=
  .text (", ".intercalate items ++ gap)

theorem toList_text_of_blank {single : String} (blank : Text.Blank single) :
    (DirectiveSetting.text single).toList = [] := by
  simp [toList, Text.trim_of_blank blank]

theorem toList_text_of_visible {single : String} (visible : ¬ Text.Blank single) :
    (DirectiveSetting.text single).toList = [single] := by
  have some : (Text.trim single.toList).isEmpty = false :=
    Bool.eq_false_iff.mpr fun none => visible (Directive.isBlank_of_trim none)
  simp [toList, some]

theorem not_blank_of_spliced {first : String} {others : List String} (visible : ¬ Text.Blank first) :
    ¬ Text.Blank (", ".intercalate (first :: others) ++ gap) := by
  refine fun blank => visible fun c member => blank c ?_
  rw [String.toList_append]
  refine List.mem_append_left _ ?_
  cases others with
  | nil => simpa using member
  | cons => simp [member]

/-- A list that is spliced makes the text that it would be joined to, with the gap behind it. -/
theorem joined_spliced (front : List String) (visible : ∀ item ∈ items, ¬ Text.Blank item)
    (some : items ≠ []) :
    ", ".intercalate (front ++ (spliced items gap).toList) = ", ".intercalate (front ++ items) ++ gap := by
  obtain ⟨first, others, rfl⟩ := List.exists_cons_of_ne_nil some
  have own : (spliced (first :: others) gap).toList = [", ".intercalate (first :: others) ++ gap] :=
    toList_text_of_visible (not_blank_of_spliced (visible first List.mem_cons_self))
  rw [own]
  by_cases bare : front = []
  · simp [bare]
  · rw [String.intercalate_append_of_ne_nil bare (List.cons_ne_nil _ _),
      String.intercalate_append_of_ne_nil bare some, String.intercalate_singleton, String.append_assoc,
      String.append_assoc, String.append_assoc]

end DirectiveSetting

namespace Directive

/-- Behind any directives that shaders share, a list comes to the same as its items spliced into a text. -/
theorem parseConfig_spliced {items : List String} {gap : String}
    (visible : ∀ item ∈ items, ¬ Text.Blank item) (blank : Text.Blank gap) (defaults : Config)
    (shared : Defaults) (shader : Shader) :
    (parseConfig defaults (.items
        ({ shader with directives := .spliced items gap }.directiveList shared))).toOption =
      (parseConfig defaults (.items
        ({ shader with directives := .items items }.directiveList shared))).toOption := by
  by_cases none : items = []
  · subst none
    have own : (DirectiveSetting.spliced [] gap).toList = [] :=
      DirectiveSetting.toList_text_of_blank (by simpa using blank)
    rw [Shader.directiveList, own]
    rfl
  · have same := @DirectiveSetting.joined_spliced items gap shared.directives.toList visible none
    refine Option.ext fun config => ?_
    rw [Outcome.toOption_eq_some, Outcome.toOption_eq_some, parseConfig, parseConfig, Outcome.map_eq_ok,
      Outcome.map_eq_ok, parseDirectives_items, parseDirectives_items, Shader.directiveList, same]
    exact exists_congr fun directives => and_congr_left fun _ => parseDirectives_append_gap_iff blank

end Directive

/-! ## What the placeholders come to -/

namespace Manifest

theorem isUnwritable_texts (items : List String) : (Value.list (items.map .str)).isUnwritable = false := by
  have none : Value.anyUnwritable (items.map .str) = false := by
    induction items with
    | nil => rfl
    | cons item items ih => exact ih
  exact none

theorem splice_texts (name : String) (path : KeyPath) (items : List String) :
    splice name path (.list (items.map .str)) = .ok (", ".intercalate items) := by
  have plain : (items.map Value.str).map (·.plain) = items := by
    rw [List.map_map]
    exact List.map_id' items
  have scalar : (items.map Value.str).all isScalar = true := by simp [isScalar]
  rw [splice, splice?, if_pos scalar, plain]
  simp [isUnwritable_texts]

namespace Variables

theorem comesTo_spliced {vars : Variables} {name gap : String} {items : List String}
    (named : isName name.toList = true) (expanded : vars.expanded? name = some (.list (items.map .str)))
    (some : gap ≠ "") (blank : Text.Blank gap) :
    vars.ComesTo (.str (Piece.bracedText name ++ gap)) (.str (", ".intercalate items ++ gap)) := by
  intro path
  have plain : '$' ∉ gap.toList := fun member => by cases blank '$' member
  have made : expand (vars.freshValue []) none path (.str ("" ++ Piece.bracedText name ++ gap)) =
      vars.between path "" gap (splice name path (.list (items.map .str))) :=
    expand_embedded named (by simp) (by simpa using some) expanded
  rw [String.empty_append, splice_texts, between, textOf_of_plain (by simp), textOf_of_plain plain] at made
  simpa using made

end Variables

/-! ## Entries of shaders -/

section

variable {key other value : Value} {front back : List (Value × Value)}

theorem getKey?_beside (differ : other.sameKey key = false) :
    Value.getKey? key (front ++ (other, value) :: back) = Value.getKey? key (front ++ back) := by
  induction front with
  | nil => simp [Value.getKey?, differ]
  | cons entry front ih =>
      obtain ⟨first, held⟩ := entry
      rw [List.cons_append, List.cons_append, Value.getKey?, Value.getKey?, ih]

theorem getKey?_at (same : key.sameKey key = true) (new : Value.getKey? key front = none) :
    Value.getKey? key (front ++ (key, value) :: back) = some value := by
  induction front with
  | nil => simp [Value.getKey?, same]
  | cons entry front ih =>
      obtain ⟨first, held⟩ := entry
      rw [Value.getKey?] at new
      split at new
      · cases new
      · next differ => rw [List.cons_append, Value.getKey?, if_neg differ, ih new]

/-- Expanding the values of a mapping leaves its keys. -/
theorem getKey?_expandEntries {lookup : Lookup (Except ExpansionFault)} {path : KeyPath}
    {entries : List (Value × Value)} (ended : expandEntries lookup none path entries = .ok front)
    (new : Value.getKey? key entries = none) : Value.getKey? key front = none := by
  induction entries generalizing front with
  | nil =>
      cases ended
      rfl
  | cons entry entries ih =>
      obtain ⟨first, held⟩ := entry
      rw [Value.getKey?] at new
      split at new
      · cases new
      · next differ =>
          obtain ⟨-, own, others, -, later, rfl⟩ := expandEntries_cons_eq_ok.mp ended
          rw [Value.getKey?, if_neg differ, ih later new]

theorem expandEntries_append {lookup : Lookup (Except ExpansionFault)} {path : KeyPath}
    (before after : List (Value × Value)) :
    expandEntries lookup none path (before ++ after) = (do
      let front ← expandEntries lookup none path before
      let back ← expandEntries lookup none path after
      return front ++ back) := by
  induction before with
  | nil =>
      simp only [List.nil_append, expandEntries, pure_bind, bind_pure]
  | cons entry before ih =>
      obtain ⟨key, value⟩ := entry
      rw [List.cons_append, expandEntries, expandEntries, ih]
      split
      · rfl
      · simp only [bind_assoc, pure_bind, List.cons_append]

/-- The key under which a shader has its directives. -/
def directivesKey : Value := .str "directives"

theorem checkDirectives_text (place : KeyPath) (text : String) :
    checkDirectives place (.str text) = .ok (.text text) := rfl

theorem checkDirectives_texts (place : KeyPath) (items : List String) :
    checkDirectives place (.list (items.map .str)) = .ok (.items items) := by
  have each (position : Nat) : Checked.items checkString (place ++ [.asTexts]) position
      (items.map .str) = .ok items := by
    induction items generalizing position with
    | nil => rfl
    | cons item items ih =>
        rw [List.map_cons, Checked.items, ih]
        rfl
  have listed : checkStrings (place ++ [.asTexts]) (.list (items.map .str)) = .ok items := each 0
  have noText : checkString (place ++ [.asText]) (.list (items.map .str)) =
      .error [⟨place ++ [.asText], .notString⟩] := rfl
  rw [checkDirectives, noText, listed]

theorem required_beside {α : Type} {check : KeyPath → Value → Checked α} {name : String}
    (differ : directivesKey.sameKey (.str name) = false) (place : KeyPath) (value : Value) :
    required check place name (front ++ (directivesKey, value) :: back) =
      required check place name (front ++ back) := by
  rw [required, required, getKey?_beside differ]

theorem defaulted_beside {α : Type} {check : KeyPath → Value → Checked α} {fallback : α} {name : String}
    (differ : directivesKey.sameKey (.str name) = false) (place : KeyPath) (value : Value) :
    defaulted check fallback place name (front ++ (directivesKey, value) :: back) =
      defaulted check fallback place name (front ++ back) := by
  rw [defaulted, defaulted, getKey?_beside differ]

theorem defaulted_directives {setting fallback : DirectiveSetting}
    (made : ∀ place, checkDirectives place value = .ok setting)
    (new : Value.getKey? directivesKey front = none) (place : KeyPath) :
    defaulted checkDirectives fallback place "directives" (front ++ (directivesKey, value) :: back) =
      .ok setting := by
  have found : Value.getKey? (.str "directives") (front ++ (directivesKey, value) :: back) = some value :=
    getKey?_at rfl new
  rw [defaulted, found]
  exact made _

/-- What is read of a shader's entry besides its directives does not depend on these. -/
theorem checkShader_directives {whole spliced : Value} {setting other : DirectiveSetting}
    (one : ∀ place, checkDirectives place whole = .ok setting)
    (another : ∀ place, checkDirectives place spliced = .ok other)
    (new : Value.getKey? directivesKey front = none) (place : KeyPath) :
    checkShader place (.map (front ++ (directivesKey, spliced) :: back)) =
        (checkShader place (.map (front ++ (directivesKey, whole) :: back))).map
          (fun shader => { shader with directives := other }) ∧
      ∀ shader, checkShader place (.map (front ++ (directivesKey, whole) :: back)) = .ok shader →
        shader.directives = setting := by
  have name : directivesKey.sameKey (.str "name") = false := by decide
  have source : directivesKey.sameKey (.str "source") = false := by decide
  have inline : directivesKey.sameKey (.str "inline") = false := by decide
  have format : directivesKey.sameKey (.str "format") = false := by decide
  simp only [checkShader, required_beside name, defaulted_beside source, defaulted_beside inline,
    defaulted_beside format, defaulted_directives one new, defaulted_directives another new]
  generalize required checkName place "name" (front ++ back) = named
  generalize defaulted (checkOptional checkString) none place "source" (front ++ back) = sourced
  generalize defaulted (checkOptional checkString) none place "inline" (front ++ back) = inlined
  generalize defaulted (checkOptional checkFormat) none place "format" (front ++ back) = formatted
  cases named <;> cases sourced <;> cases inlined <;> cases formatted
  case ok.ok.ok.ok name source inline format =>
    simp only [Checked.both, Outcome.ok_bind, checkSources]
    split
    · exact ⟨rfl, nofun⟩
    · exact ⟨rfl, fun shader made => by cases made; rfl⟩
  -- the problems of the other entries are those of both
  all_goals exact ⟨rfl, nofun⟩

/-- The two ways to come to the directives of an entry leave everything else in it alone. -/
theorem expandEntries_directives {vars : Variables} {source made : Value} {path : KeyPath}
    (comes : vars.ComesTo source made) (before after : List (Value × Value)) :
    expandEntries (vars.freshValue []) none path (before ++ (directivesKey, source) :: after) = (do
      let front ← expandEntries (vars.freshValue []) none path before
      let back ← expandEntries (vars.freshValue []) none path after
      return front ++ (directivesKey, made) :: back) := by
  have short : directivesKey.isUnwritable = false := rfl
  rw [expandEntries_append, expandEntries, short]
  simp [deeper, comes (path ++ [.name directivesKey.plain])]

end

namespace Variables

/-- A shader's entry as it is read: its placeholders are replaced, and then it is checked. -/
def readEntry (vars : Variables) (earlier : List (Room × Value)) (place : KeyPath)
    (entries : List (Value × Value)) : Except ExpansionFault (Checked Shader) :=
  (vars.outcomeAfter earlier none (.map entries)).map (checkShader place)

/-- A list variable stands for the same directives whole and spliced. Two entries of a shader differ in that
    one has blanks behind the placeholder. Whatever else is in them, and whatever was expanded before, both
    are read or both are refused for the same reasons. If they are read, the one has the list and the other
    the text that it is spliced into, and behind any directives that shaders share the two make the same
    config, or neither makes one. -/
theorem list_whole_or_spliced (vars : Variables) (name gap : String) (items : List String)
    (named : isName name.toList = true)
    (expanded : vars.expanded? name = some (.list (items.map .str)))
    (visible : ∀ item ∈ items, ¬ Text.Blank item) (wide : gap ≠ "") (blank : Text.Blank gap)
    (earlier : List (Room × Value)) (place : KeyPath) (before after : List (Value × Value))
    (new : Value.getKey? directivesKey before = none) :
    vars.readEntry earlier place
        (before ++ (directivesKey, .str (Piece.bracedText name ++ gap)) :: after) =
      (vars.readEntry earlier place
          (before ++ (directivesKey, .str (Piece.bracedText name)) :: after)).map
        (Except.map fun shader => { shader with directives := .spliced items gap }) ∧
    ∀ shader, vars.readEntry earlier place
        (before ++ (directivesKey, .str (Piece.bracedText name)) :: after) = .ok (.ok shader) →
      shader.directives = .items items ∧
      ∀ (defaults : Config) (shared : Defaults),
        (Directive.parseConfig defaults (.items (shader.directiveList shared))).toOption =
          (Directive.parseConfig defaults (.items
            ({ shader with directives := .spliced items gap }.directiveList shared))).toOption := by
  have read (source made : Value) (comes : vars.ComesTo source made) :
      vars.readEntry earlier place (before ++ (directivesKey, source) :: after) = (do
        let front ← expandEntries (vars.freshValue []) none [] before
        let back ← expandEntries (vars.freshValue []) none [] after
        return checkShader place (.map (front ++ (directivesKey, made) :: back))) := by
    rw [readEntry, outcomeAfter_unbounded, fresh, expand, expandEntries_directives comes]
    cases expandEntries (vars.freshValue []) none [] before with
    | error fault => rfl
    | ok front => cases expandEntries (vars.freshValue []) none [] after <;> rfl
  rw [read _ _ (comesTo_whole named expanded), read _ _ (comesTo_spliced named expanded wide blank)]
  cases inFront : expandEntries (vars.freshValue []) none [] before with
  | error fault => exact ⟨rfl, fun _ made => by cases made⟩
  | ok front =>
      cases expandEntries (vars.freshValue []) none [] after with
      | error fault => exact ⟨rfl, fun _ made => by cases made⟩
      | ok back =>
          have stillNew := getKey?_expandEntries inFront new
          obtain ⟨same, directives⟩ := @checkShader_directives front back _ _ _ _
            (fun place => checkDirectives_texts place items) (fun place => checkDirectives_text place _)
            stillNew place
          refine ⟨congrArg Except.ok same, fun shader made => ?_⟩
          have own := directives shader (Except.ok.inj made)
          refine ⟨own, fun defaults shared => ?_⟩
          have listed : { shader with directives := .items items } = shader := by rw [← own]
          rw [Directive.parseConfig_spliced visible blank, listed]

/-- One variable, which holds a list. -/
def oneList : Variables := ⟨[(.str "common", .list [.str "frag", .str "I \"a, b\""])]⟩

/-- An entry but for its directives. -/
def blitEntry : List (Value × Value) := [(.str "name", .str "blit"), (.str "inline", .str "x")]

/-- A list of which one item holds a comma, whole and with a line end behind it. -/
theorem blit_whole_and_spliced :
    oneList.expanded? "common" = some (.list (["frag", "I \"a, b\""].map .str)) ∧
      (∀ item ∈ ["frag", "I \"a, b\""], ¬ Text.Blank item) ∧ Text.Blank "\n" ∧
      ∃ shader : Shader,
        oneList.readEntry [] [] (blitEntry ++ [(directivesKey, .str (Piece.bracedText "common"))]) =
          .ok (.ok shader) ∧
        oneList.readEntry [] [] (blitEntry ++ [(directivesKey, .str (Piece.bracedText "common" ++ "\n"))]) =
          .ok (.ok { shader with directives := .text "frag, I \"a, b\"\n" }) ∧
        ∀ (defaults : Config) (shared : Defaults),
          (Directive.parseConfig defaults (.items (shader.directiveList shared))).toOption =
            (Directive.parseConfig defaults (.items ({ shader with
              directives := .text "frag, I \"a, b\"\n" }.directiveList shared))).toOption := by
  have expanded : oneList.expanded? "common" = some (.list (["frag", "I \"a, b\""].map .str)) := by cbv
  have visible : ∀ item ∈ ["frag", "I \"a, b\""], ¬ Text.Blank item := by decide
  have blank : Text.Blank "\n" := by decide
  have read : oneList.readEntry [] []
      (blitEntry ++ [(directivesKey, .str (Piece.bracedText "common"))]) =
        .ok (.ok ⟨"blit", none, some "x", .items ["frag", "I \"a, b\""], none⟩) := by cbv
  obtain ⟨same, agree⟩ := list_whole_or_spliced oneList "common" "\n" _ (by decide) expanded visible
    (by decide) blank [] [] blitEntry [] rfl
  rw [read] at same
  exact ⟨expanded, visible, blank, _, read, same, (agree _ read).2⟩

end Variables

end Manifest

end ShaderBuild
