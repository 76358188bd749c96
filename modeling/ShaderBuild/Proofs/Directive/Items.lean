import Mathlib
import ShaderBuild.Manifest.Manifest
import ShaderBuild.Proofs.Directive.Lexing
import ShaderBuild.Proofs.Directive.Separation

/-! # Directive lists in several texts

The texts of a list are joined by separators and read as one. This comes to reading them in turn, as
long as they fit together: no separator of their own meets one that joins them, and no string reaches
from one text into the next.
-/

namespace ShaderBuild

namespace Directive

open Outcome

/-! ## Places do not matter -/

theorem Derives.moved {tokens directive} (h : Derives tokens directive) (distance : Int) :
    Derives (tokens.map (·.moved distance)) directive := by
  cases h with
  | flag word known => exact .flag word known
  | includeDir word spelled string => exact .includeDir word spelled string
  | define word spelled ident => exact .define word spelled ident
  | defineAs word spelled ident sign valued => exact .defineAs word spelled ident sign valued
  | entryPoint word spelled sign valued => exact .entryPoint word spelled sign valued

theorem Listed.moved {tokens directives} (h : Listed tokens directives) (distance : Int) :
    Listed (tokens.map (·.moved distance)) directives := by
  induction h with
  | nil => exact .nil
  | last one => exact .last (one.moved distance)
  | @more _ _ separator _ _ one kind _ ih =>
      have same : (separator.moved distance).kind = .separator := kind
      simpa using Listed.more (one.moved distance) same ih

theorem Reads.moved {tokens directives} (h : Reads tokens directives) (distance : Int) :
    Reads (tokens.map (·.moved distance)) directives := by
  cases h with
  | plain listed => exact .plain (listed.moved distance)
  | led kind listed => exact .led kind (listed.moved distance)

theorem reads_moved_iff {tokens : List Token} {directives : List Directive} (distance : Int) :
    Reads (tokens.map (·.moved distance)) directives ↔ Reads tokens directives := by
  refine ⟨fun h => ?_, fun h => h.moved distance⟩
  simpa [Function.comp_def, Token.moved, Int.add_neg_cancel_right] using h.moved (-distance)

theorem startsApart_moved_iff {tokens : List Token} (distance : Int) :
    StartsApart (tokens.map (·.moved distance)) ↔ StartsApart tokens := by
  cases tokens <;> simp [StartsApart, Token.moved]

/-! ## Two texts -/

theorem parseDirectives_text_eq_ok_iff {text : String} {directives : List Directive} :
    parseDirectives (.text text) = .ok directives ↔
      ∃ tokens, tokenize text = .ok tokens ∧ Reads tokens directives := by
  simp only [parseDirectives, tokensOf, bind_eq_ok, map_eq_ok, ← parseTokens_eq_ok_iff]
  constructor
  · rintro ⟨_, ⟨tokens, lexed, rfl⟩, parsed⟩
    refine ⟨tokens, lexed, ?_⟩
    simp only at parsed
    split at parsed
    · next read =>
        cases parsed
        exact read
    · cases parsed
  · rintro ⟨tokens, lexed, parsed⟩
    exact ⟨_, ⟨tokens, lexed, rfl⟩, by simp [parsed]⟩

/-- A text that does not start with a separator. -/
def StartsFree (text : String) : Prop := ∀ tokens, tokenize text = .ok tokens → StartsApart tokens

/-- A text that does not end with a separator. -/
def EndsFree (text : String) : Prop := ∀ tokens, tokenize text = .ok tokens → EndsApart tokens

theorem startsFree_iff {text : String} {tokens : List Token} (h : tokenize text = .ok tokens) :
    StartsFree text ↔ StartsApart tokens := by
  simp [StartsFree, h]

theorem endsFree_iff {text : String} {tokens : List Token} (h : tokenize text = .ok tokens) :
    EndsFree text ↔ EndsApart tokens := by
  simp [EndsFree, h]

theorem not_leavesOpen {text : String} {directives : List Directive}
    (h : parseDirectives (.text text) = .ok directives) : ¬ LeavesOpen text := by
  rintro ⟨_, failed, -⟩
  obtain ⟨_, lexed, -⟩ := parseDirectives_text_eq_ok_iff.mp h
  rw [lexed] at failed
  cases failed

/-- Two joined texts are read one after the other if no separators meet, and only then, unless a string
    of the first is left open. -/
theorem parseDirectives_joined_iff {left right : String} {directives : List Directive} :
    (parseDirectives (.text (left ++ ", " ++ right)) = .ok directives ∧ ¬ LeavesOpen left) ↔
      ∃ front back, directives = front ++ back ∧ parseDirectives (.text left) = .ok front ∧
        parseDirectives (.text right) = .ok back ∧ EndsFree left ∧ StartsFree right := by
  constructor
  · rintro ⟨h, closed⟩
    obtain ⟨tokens, lexed, reads⟩ := parseDirectives_text_eq_ok_iff.mp h
    cases lexedLeft : tokenize left with
    | error error =>
        have stuck : ∀ tokens, tokenize left ≠ .ok tokens := by simp [lexedLeft]
        exact (tokenize_joined_of_stuck closed stuck right tokens lexed).elim
    | ok first =>
        obtain ⟨second, lexedRight, rfl⟩ := (tokenize_joined lexedLeft).mp lexed
        obtain ⟨front, back, rfl, one, other, ends, starts⟩ := (reads_append_iff rfl).mp reads
        rw [reads_moved_iff] at other
        rw [startsApart_moved_iff] at starts
        exact ⟨front, back, rfl, parseDirectives_text_eq_ok_iff.mpr ⟨first, lexedLeft, one⟩,
          parseDirectives_text_eq_ok_iff.mpr ⟨second, lexedRight, other⟩,
          (endsFree_iff lexedLeft).mpr ends, (startsFree_iff lexedRight).mpr starts⟩
  · rintro ⟨front, back, rfl, left, right, ends, starts⟩
    refine ⟨?_, not_leavesOpen left⟩
    obtain ⟨first, lexedLeft, one⟩ := parseDirectives_text_eq_ok_iff.mp left
    obtain ⟨second, lexedRight, other⟩ := parseDirectives_text_eq_ok_iff.mp right
    rw [endsFree_iff lexedLeft] at ends
    rw [startsFree_iff lexedRight] at starts
    refine parseDirectives_text_eq_ok_iff.mpr
      ⟨_, (tokenize_joined lexedLeft).mpr ⟨second, lexedRight, rfl⟩, ?_⟩
    exact (reads_append_iff rfl).mpr ⟨front, back, rfl, one, (reads_moved_iff _).mpr other, ends,
      (startsApart_moved_iff _).mpr starts⟩

/-! ## Any number of texts -/

/-- Texts that fit together: only the last one may end with a separator, only the first one may start
    with one, and only these two may be blank. -/
structure Fit (items : List String) : Prop where
  ends : ∀ item ∈ items.dropLast, EndsFree item
  starts : ∀ item ∈ items.tail, StartsFree item
  inner : ∀ item ∈ items.tail.dropLast, tokenize item ≠ .ok []

theorem fit_nil : Fit [] := ⟨by simp, by simp, by simp⟩

theorem fit_singleton (item : String) : Fit [item] := ⟨by simp, by simp, by simp⟩

theorem fit_cons_cons_iff {first next : String} {others : List String} :
    Fit (first :: next :: others) ↔
      EndsFree first ∧ StartsFree next ∧ (others ≠ [] → tokenize next ≠ .ok []) ∧
        Fit (next :: others) := by
  cases others with
  | nil =>
      constructor
      · intro h
        exact ⟨h.ends first (by simp), h.starts next (by simp), by simp, fit_singleton next⟩
      · rintro ⟨ends, starts, -, -⟩
        exact ⟨by simpa using ends, by simpa using starts, by simp⟩
  | cons other others =>
      constructor
      · intro h
        refine ⟨h.ends first (by simp), h.starts next (by simp), fun _ => h.inner next (by simp), ?_⟩
        exact ⟨fun item member => h.ends item (List.mem_cons_of_mem _ member),
          fun item member => h.starts item (List.mem_cons_of_mem _ member),
          fun item member => h.inner item (List.mem_cons_of_mem _ member)⟩
      · rintro ⟨ends, starts, inner, fit⟩
        refine ⟨?_, ?_, ?_⟩
        · simpa using ⟨ends, by simpa using fit.ends⟩
        · simpa using ⟨starts, by simpa using fit.starts⟩
        · simpa using ⟨inner (by simp), by simpa using fit.inner⟩

/-- Joined texts start with a separator if the first one does, or if it is blank. -/
theorem startsFree_join_iff {next : String} {others : List String} {directives : List Directive}
    (read : parseDirectives (.text (", ".intercalate (next :: others))) = .ok directives)
    {piece : List Directive} (first : parseDirectives (.text next) = .ok piece) :
    StartsFree (", ".intercalate (next :: others)) ↔
      StartsFree next ∧ (others ≠ [] → tokenize next ≠ .ok []) := by
  cases others with
  | nil => simp
  | cons other others =>
      obtain ⟨tokens, lexed, -⟩ := parseDirectives_text_eq_ok_iff.mp read
      obtain ⟨front, lexedNext, -⟩ := parseDirectives_text_eq_ok_iff.mp first
      rw [startsFree_iff lexed, startsFree_iff lexedNext, lexedNext]
      rw [String.intercalate_cons_cons] at lexed
      obtain ⟨_, -, rfl⟩ := (tokenize_joined lexedNext).mp lexed
      cases front <;> simp [StartsApart]

theorem parseDirectives_join_iff {first : String} {others : List String} {directives : List Directive} :
    (parseDirectives (.text (", ".intercalate (first :: others))) = .ok directives ∧
        ∀ item ∈ first :: others, ¬ LeavesOpen item) ↔
      ∃ pieces, (first :: others).mapM (fun item => parseDirectives (.text item)) = .ok pieces ∧
        directives = pieces.flatten ∧ Fit (first :: others) := by
  induction others generalizing first directives with
  | nil =>
      simp only [String.intercalate_singleton, List.mem_singleton, forall_eq, mapM_cons_eq_ok]
      constructor
      · rintro ⟨read, -⟩
        exact ⟨[directives], ⟨directives, [], read, rfl, rfl⟩, by simp, fit_singleton first⟩
      · rintro ⟨_, ⟨piece, _, read, none, rfl⟩, rfl, -⟩
        cases none
        simpa using ⟨read, not_leavesOpen read⟩
  | cons next others ih =>
      -- the others are one text again, which may start with a separator although `next` does not
      rw [String.intercalate_cons_cons, List.forall_mem_cons, ← and_assoc, parseDirectives_joined_iff]
      constructor
      · rintro ⟨⟨front, back, rfl, one, behind, ends, starts⟩, closed⟩
        obtain ⟨pieces, read, rfl, fit⟩ := ih.mp ⟨behind, closed⟩
        obtain ⟨piece, _, second, -, -⟩ := mapM_cons_eq_ok.mp read
        obtain ⟨starts, inner⟩ := (startsFree_join_iff behind second).mp starts
        exact ⟨front :: pieces, mapM_cons_eq_ok.mpr ⟨_, _, one, read, rfl⟩, rfl,
          fit_cons_cons_iff.mpr ⟨ends, starts, inner, fit⟩⟩
      · rintro ⟨_, each, rfl, fit⟩
        obtain ⟨front, pieces, one, read, rfl⟩ := mapM_cons_eq_ok.mp each
        obtain ⟨ends, starts, inner, fit⟩ := fit_cons_cons_iff.mp fit
        obtain ⟨behind, closed⟩ := ih.mpr ⟨pieces, read, rfl, fit⟩
        obtain ⟨piece, _, second, -, -⟩ := mapM_cons_eq_ok.mp read
        exact ⟨⟨front, pieces.flatten, rfl, one, behind, ends,
          (startsFree_join_iff behind second).mpr ⟨starts, inner⟩⟩, closed⟩

/-- Read texts in turn, each on top of what those before have made. -/
def parseEach (defaults : Config) (items : List String) : Except SyntaxError Config :=
  items.foldlM (fun config item => parseConfig config (.text item)) defaults

theorem parseEach_eq_ok_iff {defaults config : Config} {items : List String} :
    parseEach defaults items = .ok config ↔
      ∃ pieces, items.mapM (fun item => parseDirectives (.text item)) = .ok pieces ∧
        applyAll defaults pieces.flatten = config := by
  induction items generalizing defaults with
  | nil => simp [parseEach, applyAll]
  | cons item items ih =>
      rw [parseEach, List.foldlM_cons, bind_eq_ok]
      constructor
      · rintro ⟨between, first, others⟩
        obtain ⟨piece, read, rfl⟩ := map_eq_ok.mp first
        obtain ⟨pieces, each, rfl⟩ := ih.mp others
        refine ⟨piece :: pieces, mapM_cons_eq_ok.mpr ⟨_, _, read, each, rfl⟩, ?_⟩
        exact List.foldl_append
      · rintro ⟨_, each, rfl⟩
        obtain ⟨piece, pieces, read, others, rfl⟩ := mapM_cons_eq_ok.mp each
        have first : parseConfig defaults (.text item) = .ok (applyAll defaults piece) :=
          map_eq_ok.mpr ⟨piece, read, rfl⟩
        exact ⟨_, first, ih.mpr ⟨pieces, others, List.foldl_append.symm⟩⟩

/-- A list of texts means what its texts mean in turn if they fit together and no string is left
    open. -/
theorem parseConfig_items_eq_ok_iff {defaults config : Config} {items : List String} :
    (parseConfig defaults (.items items) = .ok config ∧ ∀ item ∈ items, ¬ LeavesOpen item) ↔
      parseEach defaults items = .ok config ∧ Fit items := by
  cases items with
  | nil =>
      have same : parseConfig defaults (.items []) = parseEach defaults [] := rfl
      simp [same, fit_nil]
  | cons first others =>
      rw [parseEach_eq_ok_iff, parseConfig, map_eq_ok]
      constructor
      · rintro ⟨⟨directives, read, rfl⟩, closed⟩
        obtain ⟨pieces, each, rfl, fit⟩ := parseDirectives_join_iff.mp ⟨read, closed⟩
        exact ⟨⟨pieces, each, rfl⟩, fit⟩
      · rintro ⟨⟨pieces, each, rfl⟩, fit⟩
        obtain ⟨read, closed⟩ := parseDirectives_join_iff.mpr ⟨pieces, each, rfl, fit⟩
        exact ⟨⟨pieces.flatten, read, rfl⟩, closed⟩

/-! ## Shared directives and a shader's own -/

theorem isBlank_of_trim {text : List Char} (h : (Text.trim text).isEmpty = true) :
    ∀ c ∈ text, Text.isBlank c = true := by
  simp only [Text.trim, Text.trimRight, Text.dropWhileEnd, Text.trimLeft, List.isEmpty_iff,
    List.reverse_eq_nil_iff, List.dropWhile_eq_nil_iff, List.mem_reverse] at h
  by_contra visible
  rw [← List.dropWhile_eq_nil_iff] at visible
  have first := List.head_dropWhile_not Text.isBlank visible
  rw [h _ (List.head_mem visible)] at first
  cases first

theorem tokenize_of_blank {text : String} (blank : ∀ c ∈ text.toList, Text.isBlank c = true) :
    tokenize text = .ok [] := by
  rw [tokenize_eq_ok_iff]
  generalize text.toList = chars at blank
  cases chars with
  | nil => exact .done
  | cons first rest =>
      have inside : ∀ c ∈ rest, Text.isBlank c = true := fun c member => blank c (by simp [member])
      have read : Lexeme.read first rest = .blank (first :: rest) [] := by
        simp [Lexeme.read, Lexeme.run, blank first (by simp), List.takeWhile_eq_self_iff.mpr inside,
          List.dropWhile_eq_nil_iff.mpr inside]
      exact .blank read .done

theorem parseDirectives_items (items : List String) :
    parseDirectives (.items items) = parseDirectives (.text (", ".intercalate items)) := by
  cases items with
  | nil => cbv
  | cons => rfl

end Directive

namespace DirectiveSetting

open Directive

/-- Directives by themselves, apart from those of others. -/
def source : DirectiveSetting → DirectiveSource
  | .text single => .text single
  | .items several => .items several

/-- The text that directives come to. -/
def joined (setting : DirectiveSetting) : String := ", ".intercalate setting.toList

theorem parseDirectives_joined (setting : DirectiveSetting) :
    parseDirectives (.text setting.joined) = parseDirectives setting.source := by
  cases setting with
  | text single =>
      simp only [joined, toList, source]
      split
      · next blank =>
          have none := tokenize_of_blank (isBlank_of_trim blank)
          have read : parseDirectives (.text single) = .ok [] :=
            parseDirectives_text_eq_ok_iff.mpr ⟨[], none, .plain .nil⟩
          rw [read]
          cbv
      · rw [String.intercalate_singleton]
  | items several => exact (parseDirectives_items several).symm

/-- Shared directives and a shader's own go together unless two of their separators meet. -/
def Compatible (shared own : DirectiveSetting) : Prop :=
  shared.toList ≠ [] → own.toList ≠ [] → EndsFree shared.joined ∧ StartsFree own.joined

end DirectiveSetting

namespace Directive

open Outcome

theorem parseDirectives_directiveList_iff {shared : Defaults} {shader : Shader}
    {front back directives : List Directive}
    (one : parseDirectives shared.directives.source = .ok front)
    (other : parseDirectives shader.directives.source = .ok back) :
    parseDirectives (.items (shader.directiveList shared)) = .ok directives ↔
      shared.directives.Compatible shader.directives ∧ directives = front ++ back := by
  rw [← DirectiveSetting.parseDirectives_joined, DirectiveSetting.joined] at one other
  rw [parseDirectives_items, Shader.directiveList, DirectiveSetting.Compatible,
    DirectiveSetting.joined, DirectiveSetting.joined]
  have none : parseDirectives (.text (", ".intercalate [])) = .ok [] := by cbv
  by_cases left : shared.directives.toList = []
  · rw [left, none] at one
    cases one
    simp only [left, List.nil_append, other]
    simpa using eq_comm
  · by_cases right : shader.directives.toList = []
    · rw [right, none] at other
      cases other
      simp only [right, List.append_nil, one]
      simpa using eq_comm
    · rw [String.intercalate_append_of_ne_nil left right]
      constructor
      · intro read
        obtain ⟨first, second, rfl, same, equal, ends, starts⟩ :=
          parseDirectives_joined_iff.mp ⟨read, not_leavesOpen one⟩
        cases one.symm.trans same
        cases other.symm.trans equal
        exact ⟨fun _ _ => ⟨ends, starts⟩, rfl⟩
      · rintro ⟨apart, rfl⟩
        obtain ⟨ends, starts⟩ := apart left right
        exact (parseDirectives_joined_iff.mpr ⟨front, back, rfl, one, other, ends, starts⟩).1

/-- A list of texts means what the texts mean in turn, if and only if they fit together; a string that
    is left open in one of them is another matter. If the directives that shaders share and those of
    a shader are each in order, they make a list together if and only if none of their separators
    meet, and then the shader's own directives are read on top of the shared ones. -/
theorem items_mean_each_in_turn (defaults : Config) :
    (∀ (config : Config) (items : List String),
      (parseConfig defaults (.items items) = .ok config ∧ ∀ item ∈ items, ¬ LeavesOpen item) ↔
        parseEach defaults items = .ok config ∧ Fit items) ∧
    (∀ (common own : Config) (shared : Defaults) (shader : Shader),
      parseConfig defaults shared.directives.source = .ok common →
      parseConfig defaults shader.directives.source = .ok own →
      ((∃ config, parseConfig defaults (.items (shader.directiveList shared)) = .ok config) ↔
        shared.directives.Compatible shader.directives) ∧
      ∀ config, parseConfig defaults (.items (shader.directiveList shared)) = .ok config →
        parseConfig common shader.directives.source = .ok config) := by
  refine ⟨fun _ _ => parseConfig_items_eq_ok_iff, ?_⟩
  intro common own shared shader first second
  obtain ⟨front, one, rfl⟩ := map_eq_ok.mp first
  obtain ⟨back, other, rfl⟩ := map_eq_ok.mp second
  constructor
  · constructor
    · rintro ⟨_, accepted⟩
      obtain ⟨_, read, -⟩ := map_eq_ok.mp accepted
      exact ((parseDirectives_directiveList_iff one other).mp read).1
    · intro apart
      have read := (parseDirectives_directiveList_iff one other).mpr ⟨apart, rfl⟩
      exact ⟨_, map_eq_ok.mpr ⟨_, read, rfl⟩⟩
  · intro config accepted
    obtain ⟨_, read, rfl⟩ := map_eq_ok.mp accepted
    obtain ⟨-, rfl⟩ := (parseDirectives_directiveList_iff one other).mp read
    exact map_eq_ok.mpr ⟨back, other, List.foldl_append.symm⟩

theorem own_directives_prevail :
    DirectiveSetting.Compatible (.text ", vert") (.items ["frag,"]) ∧
      parseConfig { stage := .vertex } (.items ["frag,"]) = .ok { stage := .fragment } := by
  let shared : Defaults := { directives := .text ", vert" }
  let shader : Shader :=
    { name := "a", source? := none, inline? := none, directives := .items ["frag,"] }
  have first : parseConfig {} (.text ", vert") = .ok { stage := .vertex } := by cbv
  have second : parseConfig {} (.items ["frag,"]) = .ok { stage := .fragment } := by cbv
  have merged : parseConfig {} (.items [", vert", "frag,"]) = .ok { stage := .fragment } := by cbv
  have listed : shader.directiveList shared = [", vert", "frag,"] := rfl
  rw [← listed] at merged
  obtain ⟨accepted, prevails⟩ := (items_mean_each_in_turn {}).2 _ _ shared shader first second
  exact ⟨accepted.mp ⟨_, merged⟩, prevails _ merged⟩

/-- Texts that are in order one by one and not as a list, and the other way round. -/
theorem separators_meet :
    parseEach {} ["vert,", "frag"] = .ok { stage := .fragment } ∧
    parseConfig {} (.items ["vert,", "frag"]) = .error ⟨.missingKeyword, ",", 2, 5⟩ ∧
    parseEach {} ["I \"a", "b\""] = .error ⟨.unterminatedString, "\"a", 1, 2⟩ ∧
    parseConfig {} (.items ["I \"a", "b\""]) = .ok { includeDirs := ["a, b"] } ∧
    ∃ (shared : Defaults) (shader : Shader),
      parseConfig {} shared.directives.source = .ok { stage := .vertex } ∧
      parseConfig {} shader.directives.source = .ok { stage := .fragment } ∧
      parseConfig {} (.items (shader.directiveList shared)) =
        .error ⟨.missingKeyword, ",", 2, 5⟩ := by
  have joined : parseConfig {} (.items ["vert,", "frag"]) = .error ⟨.missingKeyword, ",", 2, 5⟩ := by
    cbv
  let shared : Defaults := { directives := .text "vert," }
  let shader : Shader :=
    { name := "a", source? := none, inline? := none, directives := .text "frag" }
  have listed : shader.directiveList shared = ["vert,", "frag"] := rfl
  refine ⟨?_, joined, ?_, ?_, shared, shader, ?_, ?_, listed ▸ joined⟩ <;> cbv

end Directive

end ShaderBuild
