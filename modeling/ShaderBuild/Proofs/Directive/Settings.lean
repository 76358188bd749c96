import Mathlib.Data.List.Forall2
import Mathlib.Tactic.FinCases
import ShaderBuild.Proofs.Directive.Acceptance

/-! # The settings of a directive list

Each field of a config can be told from the directives alone, without going through the list in order:
the fields that collect take one entry from each directive of their sort, and every other field is what
the last directive of its group sets.
-/

namespace ShaderBuild.Directive

/-- Directives, each by its tokens, with a separator between neighbours; one more may follow the
    last. -/
inductive InTurn : List (List Token) → List Token → Prop where
  | nil : InTurn [] []
  | last {tokens : List Token} (directive : IsDirective tokens) : InTurn [tokens] tokens
  | more {tokens rest : List Token} {separator : Token} {others : List (List Token)}
      (directive : IsDirective tokens) (kind : separator.kind = .separator)
      (inTurn : InTurn others rest) : InTurn (tokens :: others) (tokens ++ separator :: rest)

/-- A directive list of the given directives, before which a separator may stand. -/
inductive MadeOf : List (List Token) → List Token → Prop where
  | plain {parts : List (List Token)} {tokens : List Token} (inTurn : InTurn parts tokens) :
      MadeOf parts tokens
  | led {parts : List (List Token)} {tokens : List Token} {separator : Token}
      (kind : separator.kind = .separator) (inTurn : InTurn parts tokens) :
      MadeOf parts (separator :: tokens)

theorem InTurn.listed {parts tokens} (h : InTurn parts tokens) :
    ∃ directives, List.Forall₂ Derives parts directives ∧ Listed tokens directives := by
  induction h with
  | nil => exact ⟨[], .nil, .nil⟩
  | last directive =>
      obtain ⟨_, one⟩ := isDirective_iff.mp directive
      exact ⟨_, .cons one .nil, .last one⟩
  | more directive kind _ ih =>
      obtain ⟨_, one⟩ := isDirective_iff.mp directive
      obtain ⟨_, each, others⟩ := ih
      exact ⟨_, .cons one each, .more one kind others⟩

theorem MadeOf.reads {parts tokens} (h : MadeOf parts tokens) :
    ∃ directives, List.Forall₂ Derives parts directives ∧ Reads tokens directives := by
  cases h with
  | plain inTurn =>
      obtain ⟨_, each, listed⟩ := inTurn.listed
      exact ⟨_, each, .plain listed⟩
  | led kind inTurn =>
      obtain ⟨_, each, listed⟩ := inTurn.listed
      exact ⟨_, each, .led kind listed⟩

theorem Listed.inTurn {tokens directives} (h : Listed tokens directives) :
    ∃ parts, InTurn parts tokens := by
  induction h with
  | nil => exact ⟨_, .nil⟩
  | last one => exact ⟨_, .last (isDirective_iff.mpr ⟨_, one⟩)⟩
  | more one kind _ ih =>
      obtain ⟨_, others⟩ := ih
      exact ⟨_, .more (isDirective_iff.mpr ⟨_, one⟩) kind others⟩

/-- The grammar derives exactly the lists that are made of directives. -/
theorem isDirectiveList_iff_madeOf {tokens : List Token} :
    IsDirectiveList tokens ↔ ∃ parts, MadeOf parts tokens := by
  rw [isDirectiveList_iff]
  constructor
  · rintro ⟨_, plain | ⟨kind, listed⟩⟩
    · obtain ⟨_, inTurn⟩ := plain.inTurn
      exact ⟨_, .plain inTurn⟩
    · obtain ⟨_, inTurn⟩ := listed.inTurn
      exact ⟨_, .led kind inTurn⟩
  · rintro ⟨_, madeOf⟩
    obtain ⟨_, -, reads⟩ := madeOf.reads
    exact ⟨_, reads⟩

/-! ## What one directive says -/

def languageWords : List (String × Language) :=
  [("glsl", .glsl), ("hlsl", .hlsl), ("wgsl", .wgsl), ("spvasm", .assembly)]

def stageWords : List (String × Stage) :=
  [("vert", .vertex), ("tesc", .tessControl), ("tese", .tessEvaluation), ("geom", .geometry),
   ("frag", .fragment), ("comp", .compute), ("mesh", .mesh), ("task", .task),
   ("rgen", .rayGeneration), ("rint", .intersection), ("rahit", .anyHit), ("rchit", .closestHit),
   ("rmiss", .miss), ("rcall", .callable)]

def targetWords : List (String × Environment × SpirvVersion) :=
  [("vulkan", .vulkan, .v1_0), ("vulkan1_0", .vulkan, .v1_0), ("vulkan1_1", .vulkan, .v1_3),
   ("vulkan1_2", .vulkan, .v1_5), ("opengl", .opengl, .v1_0), ("opengl4_5", .opengl, .v1_0),
   ("webgpu", .webgpu, .v1_0)]

/-- The words that set an optimisation. HLSL takes the fullest one with it. -/
def optimizationWords : List (String × Optimization) :=
  [("min_size", .minSize), ("max_perf", .maxPerformance), ("hlsl", .maxPerformance)]

/-- What a directive of a single word says by a table. An argument is no directive by itself. -/
def wordIn? {α : Type} (table : List (String × α)) : List Token → Option α
  | [keyword] => table.lookup keyword.text
  | _ => none

/-- A directive of one particular word. -/
def Says (word : String) (tokens : List Token) : Prop := tokens.map (·.text) = [word]

instance (word : String) (tokens : List Token) : Decidable (Says word tokens) :=
  inferInstanceAs (Decidable (_ = _))

def includeDir? : List Token → Option String
  | [keyword, dir] => if keyword.text = "I" then some dir.value else none
  | _ => none

def define? : List Token → Option Define
  | [keyword, name] => if keyword.text = "D" then some (name.text, none) else none
  | [keyword, name, _, value] =>
    if keyword.text = "D" then some (name.text, some value.value) else none
  | _ => none

def entryPoint? : List Token → Option String
  | [keyword, _, name] => if keyword.text = "entry" then some name.value else none
  | _ => none

/-- What the last directive says that says anything of the kind. -/
def lastOf {α : Type} (read? : List Token → Option α) (parts : List (List Token)) (default : α) : α :=
  (parts.filterMap read?).getLast?.getD default

/-- What directives make of the defaults, field by field. -/
structure Makes (defaults : Config) (parts : List (List Token)) (config : Config) : Prop where
  includeDirs : config.includeDirs = defaults.includeDirs ++ parts.filterMap includeDir?
  defines : config.defines = defaults.defines ++ parts.filterMap define?
  stage : config.stage = lastOf (wordIn? stageWords) parts defaults.stage
  entryPoint : config.entryPoint = lastOf entryPoint? parts defaults.entryPoint
  target : (config.environment, config.version) =
    lastOf (wordIn? targetWords) parts (defaults.environment, defaults.version)
  language : config.language = lastOf (wordIn? languageWords) parts defaults.language
  optimization : config.optimization =
    lastOf (wordIn? optimizationWords) parts defaults.optimization
  debugInfo : config.debugInfo = false ↔
    defaults.debugInfo = false ∨ ∃ part ∈ parts, Says "no_debug" part
  flipVertical : config.flipVertical = false ↔
    defaults.flipVertical = false ∨ ∃ part ∈ parts, Says "no_y_flip" part
  autoBindUniforms : config.autoBindUniforms = true ↔
    defaults.autoBindUniforms = true ∨ ∃ part ∈ parts, Says "auto_bind" part

theorem lastOf_append {α : Type} (read? : List Token → Option α) (front back : List (List Token))
    (default : α) :
    lastOf read? (front ++ back) default = lastOf read? back (lastOf read? front default) := by
  simp only [lastOf, List.filterMap_append, List.getLast?_append]
  cases (back.filterMap read?).getLast? <;> rfl

theorem lastOf_singleton {α : Type} (read? : List Token → Option α) (part : List Token) (default : α) :
    lastOf read? [part] default = (read? part).getD default := by
  cases found : read? part <;> simp [lastOf, found]

theorem Makes.nil (config : Config) : Makes config [] config := by
  constructor <;> simp [lastOf]

/-- Directives that come later go on from what the earlier ones make. -/
theorem Makes.append {first second third : Config} {front back : List (List Token)}
    (h : Makes first front second) (next : Makes second back third) :
    Makes first (front ++ back) third where
  includeDirs := by rw [next.includeDirs, h.includeDirs, List.filterMap_append, List.append_assoc]
  defines := by rw [next.defines, h.defines, List.filterMap_append, List.append_assoc]
  stage := by rw [next.stage, h.stage, lastOf_append]
  entryPoint := by rw [next.entryPoint, h.entryPoint, lastOf_append]
  target := by rw [next.target, h.target, lastOf_append]
  language := by rw [next.language, h.language, lastOf_append]
  optimization := by rw [next.optimization, h.optimization, lastOf_append]
  debugInfo := by
    simp only [next.debugInfo, h.debugInfo, List.mem_append, or_and_right, exists_or, or_assoc]
  flipVertical := by
    simp only [next.flipVertical, h.flipVertical, List.mem_append, or_and_right, exists_or, or_assoc]
  autoBindUniforms := by
    simp only [next.autoBindUniforms, h.autoBindUniforms, List.mem_append, or_and_right, exists_or,
      or_assoc]

/-- A config with what the tables say of a word. -/
def written (word : String) (config : Config) : Config :=
  let pair := (targetWords.lookup word).getD (config.environment, config.version)
  { config with
    language := (languageWords.lookup word).getD config.language
    stage := (stageWords.lookup word).getD config.stage
    environment := pair.1
    version := pair.2
    optimization := (optimizationWords.lookup word).getD config.optimization
    debugInfo := config.debugInfo && word ≠ "no_debug"
    autoBindUniforms := config.autoBindUniforms || word = "auto_bind"
    flipVertical := config.flipVertical && word ≠ "no_y_flip" }

/-- A word sets what the tables say of it, and nothing else. -/
theorem apply_flag_eq_written {word : String} {chosen : Flag}
    (known : Flag.ofWord? word = some chosen) (config : Config) :
    chosen.apply config = written word config := by
  have table : ∀ entry ∈ Flag.words, entry.2.apply config = written entry.1 config := by
    intro entry member
    fin_cases member <;>
      simp [written, Flag.apply, Config.withTarget, Target.environment, Target.version,
        Language.word, Stage.word, languageWords, stageWords, targetWords, optimizationWords,
        List.lookup_cons]
  obtain ⟨before, after, split, -⟩ := List.lookup_eq_some_iff.mp known
  exact table (word, chosen) (by simp [split])

theorem Derives.makes {part : List Token} {directive : Directive} (h : Derives part directive)
    (config : Config) : Makes config [part] (directive.apply config) := by
  cases h with
  | flag word known =>
      rw [Directive.apply, apply_flag_eq_written known]
      constructor <;>
        simp [written, lastOf_singleton, wordIn?, Says, includeDir?, define?, entryPoint?,
          Bool.and_eq_false_iff, -Bool.and_eq_false_imp]
  | includeDir word spelled string =>
      constructor <;>
        simp [Directive.apply, lastOf_singleton, wordIn?, Says, includeDir?, define?, entryPoint?,
          spelled]
  | define word spelled ident =>
      constructor <;>
        simp [Directive.apply, lastOf_singleton, wordIn?, Says, includeDir?, define?, entryPoint?,
          spelled]
  | defineAs word spelled ident sign valued =>
      constructor <;>
        simp [Directive.apply, lastOf_singleton, wordIn?, Says, includeDir?, define?, entryPoint?,
          spelled]
  | entryPoint word spelled sign valued =>
      constructor <;>
        simp [Directive.apply, lastOf_singleton, wordIn?, Says, includeDir?, define?, entryPoint?,
          spelled]

theorem makes_applyAll {parts : List (List Token)} {directives : List Directive}
    (each : List.Forall₂ Derives parts directives) (config : Config) :
    Makes config parts (applyAll config directives) := by
  induction each generalizing config with
  | nil => exact .nil config
  | cons one _ ih => exact (one.makes config).append (ih _)

/-- A list that the grammar makes of directives is accepted whatever the defaults, and every field of
    the config is what the directives say of it. -/
theorem parseConfig_makes (defaults : Config) {parts : List (List Token)} {tokens : List Token}
    (h : MadeOf parts tokens) :
    ∃ config, parseConfig defaults (.tokens tokens) = .ok config ∧ Makes defaults parts config := by
  obtain ⟨directives, each, reads⟩ := h.reads
  exact ⟨applyAll defaults directives, parseConfig_tokens_eq_ok_iff.mpr ⟨directives, reads, rfl⟩,
    makes_applyAll each defaults⟩

/-- The directives of `, hlsl, D vert, I "lib\"s", min_size, frag, D vert=2, entry="a\\b",`. -/
def interleavedParts : List (List Token) :=
  [[⟨.ident, "hlsl", 2⟩], [⟨.ident, "D", 8⟩, ⟨.ident, "vert", 10⟩],
    [⟨.ident, "I", 16⟩, ⟨.string, "\"lib\\\"s\"", 18⟩], [⟨.ident, "min_size", 28⟩], [⟨.ident, "frag", 38⟩],
    [⟨.ident, "D", 44⟩, ⟨.ident, "vert", 46⟩, ⟨.equals, "=", 50⟩, ⟨.number, "2", 51⟩],
    [⟨.ident, "entry", 54⟩, ⟨.equals, "=", 59⟩, ⟨.string, "\"a\\\\b\"", 60⟩]]

/-- The same with the separators, one of them in front. -/
def interleaved : List Token :=
  [⟨.separator, ",", 0⟩, ⟨.ident, "hlsl", 2⟩, ⟨.separator, ",", 6⟩, ⟨.ident, "D", 8⟩,
    ⟨.ident, "vert", 10⟩, ⟨.separator, ",", 14⟩, ⟨.ident, "I", 16⟩, ⟨.string, "\"lib\\\"s\"", 18⟩,
    ⟨.separator, ",", 26⟩, ⟨.ident, "min_size", 28⟩, ⟨.separator, ",", 36⟩, ⟨.ident, "frag", 38⟩,
    ⟨.separator, ",", 42⟩, ⟨.ident, "D", 44⟩, ⟨.ident, "vert", 46⟩, ⟨.equals, "=", 50⟩,
    ⟨.number, "2", 51⟩, ⟨.separator, ",", 52⟩, ⟨.ident, "entry", 54⟩, ⟨.equals, "=", 59⟩,
    ⟨.string, "\"a\\\\b\"", 60⟩, ⟨.separator, ",", 66⟩]

/-- The word of a stage also names a macro here, twice, the optimisation that HLSL takes with it gives way
    to a later one, and strings go in without their quotes and escapes. -/
theorem parseConfig_interleaved :
    MadeOf interleavedParts interleaved ∧
    ∃ config, parseConfig {} (.tokens interleaved) = .ok config ∧
      config.language = .hlsl ∧ config.stage = .fragment ∧ config.optimization = .minSize ∧
      config.defines = [("vert", none), ("vert", some "2")] ∧
      config.includeDirs = ["lib\"s"] ∧ config.entryPoint = "a\\b" := by
  have flag : ∀ word offset, word ∈ flagWords → IsDirective [⟨.ident, word, offset⟩] :=
    fun _ _ known => .flag rfl known
  have madeOf : MadeOf interleavedParts interleaved :=
    .led rfl <| .more (flag "hlsl" 2 (by decide)) rfl <| .more (.define rfl rfl rfl) rfl <|
      .more (.includeDir rfl rfl rfl) rfl <| .more (flag "min_size" 28 (by decide)) rfl <|
      .more (flag "frag" 38 (by decide)) rfl <| .more (.defineAs rfl rfl rfl rfl (by decide)) rfl <|
      .more (.entryPoint rfl rfl rfl (by decide)) rfl .nil
  obtain ⟨config, parsed, makes⟩ := parseConfig_makes {} madeOf
  exact ⟨madeOf, config, parsed, makes.language.trans (by decide), makes.stage.trans (by decide),
    makes.optimization.trans (by decide), makes.defines.trans (by decide),
    makes.includeDirs.trans (by decide), makes.entryPoint.trans (by decide)⟩

end ShaderBuild.Directive
