import ShaderBuild.Proofs.Directive.Separation

/-! # What the parser accepts

The grammar of directive lists rule by rule, without the settings that directives make. The rules
derive a token list if and only if the parser accepts it, and the defaults have no say in it.
-/

namespace ShaderBuild.Directive

open Outcome

/-- The keywords that are directives by themselves: languages, stages, targets and options. -/
def flagWords : List String :=
  ["glsl", "hlsl", "wgsl", "spvasm"] ++
    ["vert", "tesc", "tese", "geom", "frag", "comp", "mesh", "task", "rgen", "rint", "rahit",
      "rchit", "rmiss", "rcall"] ++
    ["vulkan", "vulkan1_0", "vulkan1_1", "vulkan1_2", "opengl", "opengl4_5", "webgpu"] ++
    ["min_size", "max_perf", "no_debug", "auto_bind", "no_y_flip"]

/-- A flag, `I` with a string, `D` with an identifier and perhaps `=` and a value, or `entry`, `=` and
    a name. -/
inductive IsDirective : List Token → Prop where
  | flag {word : Token} (ident : word.kind = .ident) (known : word.text ∈ flagWords) :
      IsDirective [word]
  | includeDir {keyword dir : Token} (ident : keyword.kind = .ident) (spelled : keyword.text = "I")
      (string : dir.kind = .string) : IsDirective [keyword, dir]
  | define {keyword name : Token} (ident : keyword.kind = .ident) (spelled : keyword.text = "D")
      (named : name.kind = .ident) : IsDirective [keyword, name]
  | defineAs {keyword name equals value : Token} (ident : keyword.kind = .ident)
      (spelled : keyword.text = "D") (named : name.kind = .ident) (sign : equals.kind = .equals)
      (valued : value.kind = .string ∨ value.kind = .ident ∨ value.kind = .number) :
      IsDirective [keyword, name, equals, value]
  | entryPoint {keyword equals name : Token} (ident : keyword.kind = .ident)
      (spelled : keyword.text = "entry") (sign : equals.kind = .equals)
      (named : name.kind = .string ∨ name.kind = .ident) : IsDirective [keyword, equals, name]

/-- One or more directives with a separator between neighbours. -/
inductive IsSequence : List Token → Prop where
  | one {tokens : List Token} (directive : IsDirective tokens) : IsSequence tokens
  | more {tokens rest : List Token} {separator : Token} (directive : IsDirective tokens)
      (kind : separator.kind = .separator) (others : IsSequence rest) :
      IsSequence (tokens ++ separator :: rest)

/-- At most one separator. -/
inductive IsOptionalSeparator : List Token → Prop where
  | absent : IsOptionalSeparator []
  | present {separator : Token} (kind : separator.kind = .separator) :
      IsOptionalSeparator [separator]

/-- Directives with a separator between neighbours, if any, and at most one separator before and after
    them. Without directives there is only the one before. -/
inductive IsDirectiveList : List Token → Prop where
  | empty {lead : List Token} (leading : IsOptionalSeparator lead) : IsDirectiveList lead
  | full {lead body trail : List Token} (leading : IsOptionalSeparator lead)
      (directives : IsSequence body) (trailing : IsOptionalSeparator trail) :
      IsDirectiveList (lead ++ body ++ trail)

theorem ofWord?_isSome_iff {word : String} :
    (∃ flag, Flag.ofWord? word = some flag) ↔ word ∈ flagWords := by
  have spelled : Flag.words.map (·.1) = flagWords := by decide
  rw [← Option.isSome_iff_exists, Flag.ofWord?, List.lookup_isSome_iff, ← spelled, List.mem_map]
  constructor
  · rintro ⟨entry, member, same⟩
    exact ⟨entry, member, (beq_iff_eq.mp same).symm⟩
  · rintro ⟨entry, member, rfl⟩
    exact ⟨entry, member, beq_self_eq_true _⟩

/-- The rules for one directive say which tokens mean some directive. -/
theorem isDirective_iff {tokens : List Token} :
    IsDirective tokens ↔ ∃ directive, Derives tokens directive := by
  constructor
  · intro h
    cases h with
    | flag ident known =>
        obtain ⟨flag, known⟩ := ofWord?_isSome_iff.mpr known
        exact ⟨_, .flag ident known⟩
    | includeDir ident spelled string => exact ⟨_, .includeDir ident spelled string⟩
    | define ident spelled named => exact ⟨_, .define ident spelled named⟩
    | defineAs ident spelled named sign valued =>
        exact ⟨_, .defineAs ident spelled named sign (by simpa using valued)⟩
    | entryPoint ident spelled sign named =>
        exact ⟨_, .entryPoint ident spelled sign (by simpa using named)⟩
  · rintro ⟨directive, h⟩
    cases h with
    | flag ident known => exact .flag ident (ofWord?_isSome_iff.mp ⟨_, known⟩)
    | includeDir ident spelled string => exact .includeDir ident spelled string
    | define ident spelled named => exact .define ident spelled named
    | defineAs ident spelled named sign valued =>
        exact .defineAs ident spelled named sign (by simpa using valued)
    | entryPoint ident spelled sign named =>
        exact .entryPoint ident spelled sign (by simpa using named)

/-- Directives and the separator that may follow them can be read. -/
theorem IsSequence.listed {body trail : List Token} (h : IsSequence body)
    (trailing : IsOptionalSeparator trail) : ∃ directives, Listed (body ++ trail) directives := by
  induction h with
  | one directive =>
      obtain ⟨_, derived⟩ := isDirective_iff.mp directive
      cases trailing with
      | absent => exact ⟨_, by simpa using Listed.last derived⟩
      | present kind => exact ⟨_, .more derived kind .nil⟩
  | more directive kind _ ih =>
      obtain ⟨_, derived⟩ := isDirective_iff.mp directive
      obtain ⟨_, listed⟩ := ih
      exact ⟨_, by simpa using Listed.more derived kind listed⟩

/-- What can be read is empty or consists of directives and a separator that may follow them. -/
theorem Listed.isSequence {tokens directives} (h : Listed tokens directives) :
    tokens = [] ∨ ∃ body trail, tokens = body ++ trail ∧ IsSequence body ∧
      IsOptionalSeparator trail := by
  induction h with
  | nil => exact .inl rfl
  | @last tokens _ one =>
      exact .inr ⟨tokens, [], by simp, .one (isDirective_iff.mpr ⟨_, one⟩), .absent⟩
  | @more tokens rest separator _ _ one kind _ ih =>
      have directive : IsDirective tokens := isDirective_iff.mpr ⟨_, one⟩
      rcases ih with rfl | ⟨body, trail, rfl, others, trailing⟩
      · exact .inr ⟨tokens, [separator], rfl, .one directive, .present kind⟩
      · exact .inr ⟨tokens ++ separator :: body, trail, by simp, .more directive kind others, trailing⟩

/-- The rules derive the token lists that have a reading. -/
theorem isDirectiveList_iff {tokens : List Token} :
    IsDirectiveList tokens ↔ ∃ directives, Reads tokens directives := by
  constructor
  · intro h
    cases h with
    | empty leading =>
        cases leading with
        | absent => exact ⟨_, .plain .nil⟩
        | present kind => exact ⟨_, .led kind .nil⟩
    | full leading directives trailing =>
        obtain ⟨_, listed⟩ := directives.listed trailing
        cases leading with
        | absent => exact ⟨_, .plain (by simpa using listed)⟩
        | present kind => exact ⟨_, .led kind listed⟩
  · -- the separator in front is the only one that may stand there without directives
    rintro ⟨directives, h⟩
    cases h with
    | plain listed =>
        rcases listed.isSequence with rfl | ⟨body, trail, rfl, sequence, trailing⟩
        · exact .empty .absent
        · exact .full .absent sequence trailing
    | @led _ separator _ kind listed =>
        rcases listed.isSequence with rfl | ⟨body, trail, rfl, sequence, trailing⟩
        · exact .empty (.present kind)
        · rw [← List.singleton_append, ← List.append_assoc]
          exact .full (.present kind) sequence trailing

theorem parseConfig_tokens_eq_ok_iff {defaults config : Config} {tokens : List Token} :
    parseConfig defaults (.tokens tokens) = .ok config ↔
      ∃ directives, Reads tokens directives ∧ applyAll defaults directives = config := by
  rw [parseConfig, map_eq_ok]
  simp only [parseDirectives, tokensOf, ok_bind, ← parseTokens_eq_ok_iff]
  cases parseTokens tokens <;> simp

theorem not_isDirectiveList_of_adjacent {before after : List Token} {first second : Token}
    (kindFirst : first.kind = .separator) (kindSecond : second.kind = .separator) :
    ¬ IsDirectiveList (before ++ first :: second :: after) := by
  intro grammatical
  obtain ⟨_, reads⟩ := isDirectiveList_iff.mp grammatical
  obtain ⟨_, _, _, _, _, _, starts⟩ := (reads_append_iff kindFirst).mp reads
  exact starts second rfl kindSecond

/-- The parser accepts a token list if and only if the grammar derives it, and refuses every other one
    with a syntax error. So two separators never stand side by side, also not in front, and a word that
    is a keyword elsewhere can name a macro or an entry point. -/
theorem accepted_iff_isDirectiveList (defaults : Config) (tokens : List Token) :
    ((∃ config, parseConfig defaults (.tokens tokens) = .ok config) ↔ IsDirectiveList tokens) ∧
    ((∃ error, parseConfig defaults (.tokens tokens) = .error error) ↔ ¬ IsDirectiveList tokens) ∧
    (∀ before after first second, tokens = before ++ first :: second :: after →
      first.kind = .separator → second.kind = .separator →
      ∃ error, parseConfig defaults (.tokens tokens) = .error error) ∧
    (∀ keyword name, tokens = [keyword, name] → keyword.kind = .ident → keyword.text = "D" →
      name.kind = .ident →
      parseConfig defaults (.tokens tokens) =
        .ok { defaults with defines := defaults.defines ++ [(name.text, none)] }) ∧
    (∀ keyword equals name, tokens = [keyword, equals, name] → keyword.kind = .ident →
      keyword.text = "entry" → equals.kind = .equals → name.kind = .ident →
      parseConfig defaults (.tokens tokens) = .ok { defaults with entryPoint := name.text }) := by
  have accepted : (∃ config, parseConfig defaults (.tokens tokens) = .ok config) ↔
      IsDirectiveList tokens := by
    simp only [parseConfig_tokens_eq_ok_iff, isDirectiveList_iff]
    rw [exists_comm]
    simp
  have refused : (∃ error, parseConfig defaults (.tokens tokens) = .error error) ↔
      ¬ IsDirectiveList tokens := by
    rw [← accepted]
    cases parseConfig defaults (.tokens tokens) <;> simp
  refine ⟨accepted, refused, ?_, ?_, ?_⟩
  · rintro before after first second rfl kindFirst kindSecond
    exact refused.mpr (not_isDirectiveList_of_adjacent kindFirst kindSecond)
  · rintro keyword name rfl ident spelled named
    exact parseConfig_tokens_eq_ok_iff.mpr ⟨_, .plain (.last (.define ident spelled named)), rfl⟩
  · rintro keyword equals name rfl ident spelled sign named
    have value : name.value = name.text := by simp [Token.value, named]
    refine parseConfig_tokens_eq_ok_iff.mpr
      ⟨_, .plain (.last (.entryPoint ident spelled sign (by simp [named]))), ?_⟩
    rw [value]
    rfl

theorem keywords_as_names :
    (∃ error, parseConfig {} (.tokens [⟨.separator, ",", 0⟩, ⟨.separator, ",", 1⟩,
      ⟨.ident, "vert", 3⟩]) = .error error) ∧
    parseConfig {} (.tokens [⟨.ident, "D", 0⟩, ⟨.ident, "vert", 2⟩]) =
      .ok { defines := [("vert", none)] } ∧
    parseConfig {} (.tokens [⟨.ident, "entry", 0⟩, ⟨.equals, "=", 5⟩, ⟨.ident, "hlsl", 6⟩]) =
      .ok { entryPoint := "hlsl" } :=
  ⟨(accepted_iff_isDirectiveList {} _).2.2.1 [] _ _ _ rfl rfl rfl,
    (accepted_iff_isDirectiveList {} _).2.2.2.1 _ _ rfl rfl rfl rfl,
    (accepted_iff_isDirectiveList {} _).2.2.2.2 _ _ _ rfl rfl rfl rfl rfl⟩

end ShaderBuild.Directive
