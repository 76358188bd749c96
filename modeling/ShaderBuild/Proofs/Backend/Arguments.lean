import ShaderBuild.Backend.Shaderc
import ShaderBuild.Proofs.Directive.Expressible
import ShaderBuild.Proofs.Directive.Items

/-! # What arguments tell

The arguments for a compilation say all that the tool is to know of a config. The optional ones come in a
fixed order of kinds, and each tells its kind by how it begins, so it is known where the macros end and
where the directories begin. A macro tells its name from its value by the first equals sign, and this is
why names must not hold one.
-/

namespace ShaderBuild

/-- Lists that are equal are so part by part if the first parts are all of one kind and the others do not
    begin with it. -/
theorem append_inj_of_kind {α : Type} {kind : α → Prop} {one other behind after : List α}
    (isKind : ∀ a ∈ one, kind a) (isKindToo : ∀ a ∈ other, kind a) (ends : ∀ a ∈ behind.head?, ¬kind a)
    (endsToo : ∀ a ∈ after.head?, ¬kind a) (same : one ++ behind = other ++ after) :
    one = other ∧ behind = after := by
  induction one generalizing other with
  | nil =>
      cases other with
      | nil => exact ⟨rfl, same⟩
      | cons a other =>
          rw [List.nil_append] at same
          exact absurd (isKindToo a List.mem_cons_self) (ends a (by rw [same]; rfl))
  | cons a one ih =>
      cases other with
      | nil =>
          rw [List.nil_append] at same
          exact absurd (isKind a List.mem_cons_self) (endsToo a (by rw [← same]; rfl))
      | cons b other =>
          obtain ⟨rfl, rest⟩ := List.cons.inj same
          have inner := ih (List.forall_mem_cons.mp isKind).2 (List.forall_mem_cons.mp isKindToo).2 rest
          exact ⟨congrArg (a :: ·) inner.1, inner.2⟩

theorem map_inj_of_kind {α β : Type} {kind : α → Prop} {f : α → β}
    (injective : ∀ a b, kind a → kind b → f a = f b → a = b) {one other : List α}
    (isKind : ∀ a ∈ one, kind a) (isKindToo : ∀ a ∈ other, kind a) (same : one.map f = other.map f) :
    one = other := by
  induction one generalizing other with
  | nil => exact (List.map_eq_nil_iff.mp same.symm).symm
  | cons a one ih =>
      obtain ⟨b, other, rfl, equal, rest⟩ := List.map_eq_cons_iff.mp same.symm
      obtain ⟨first, others⟩ := List.forall_mem_cons.mp isKind
      obtain ⟨firstToo, othersToo⟩ := List.forall_mem_cons.mp isKindToo
      rw [injective a b first firstToo equal.symm, ih others othersToo rest.symm]

theorem Stage.find?_word (stage : Stage) :
    (Stage.all.find? fun other => other.word = stage.word) = some stage := by
  cases stage <;> rfl

theorem Stage.word_injective : Function.Injective Stage.word := by
  intro one other same
  have found := one.find?_word
  rw [same, other.find?_word] at found
  exact (Option.some.inj found).symm

theorem Config.pair_of_target {config : Config} {target : Target} (valid : config.target = .ok target) :
    config.environment = target.environment ∧ config.version = target.version := by
  unfold Config.target pairTarget Target.ofPair? at valid
  split at valid
  · next found =>
      cases valid
      have pair := List.find?_some found
      simp only [decide_eq_true_eq] at pair
      exact ⟨pair.1.symm, pair.2.symm⟩
  · cases valid

/-- No macro has an equals sign in its name. -/
def Config.PlainNames (config : Config) : Prop := ∀ define ∈ config.defines, '=' ∉ define.1.toList

/-- The macros that a text defines have plain names. -/
theorem Config.plainNames_of_parse {source : DirectiveSource} {config : Config}
    (written : ∀ tokens, source ≠ .tokens tokens)
    (parses : Directive.parseConfig {} source = .ok config) : config.PlainNames := by
  have text : ∃ text, Directive.parseConfig {} (.text text) = .ok config := by
    cases source with
    | text text => exact ⟨text, parses⟩
    | items items =>
        rw [Directive.parseConfig, Directive.parseDirectives_items] at parses
        exact ⟨_, parses⟩
    | tokens tokens => exact absurd rfl (written tokens)
  intro define member equals
  have named := ((Directive.parseConfig_text_iff config).1.mp text).names define member
  cases isNamePart_of_mem named '=' equals

namespace Shaderc

/-! ## Single arguments -/

theorem defineFlag_toList (define : Define) : (defineFlag define).toList =
    "-D".toList ++ (define.1.toList ++ define.2.elim [] fun value => '=' :: value.toList) := by
  obtain ⟨name, _ | value⟩ := define
  · show ("-D" ++ name).toList = _
    rw [String.toList_append, Option.elim, List.append_nil]
  · show ("-D" ++ name ++ "=" ++ value).toList = _
    rw [String.toList_append, String.toList_append, String.toList_append, List.append_assoc,
      List.append_assoc]
    rfl

/-- The first equals sign is where the value starts. -/
theorem defineFlag_inj {one other : Define} (plain : '=' ∉ one.1.toList) (plainToo : '=' ∉ other.1.toList)
    (same : defineFlag one = defineFlag other) : one = other := by
  have starts (define : Define) :
      ∀ c ∈ (define.2.elim [] fun value => '=' :: value.toList).head?, ¬c ≠ '=' := by
    rcases define with ⟨_, _ | value⟩
    · exact nofun
    · rintro _ ⟨⟩
      exact not_not_intro rfl
  have texts := congrArg String.toList same
  rw [defineFlag_toList, defineFlag_toList] at texts
  obtain ⟨names, values⟩ := append_inj_of_kind (fun c member => ne_of_mem_of_not_mem member plain)
    (fun c member => ne_of_mem_of_not_mem member plainToo) (starts one) (starts other)
    (List.append_cancel_left texts)
  have sameName : one.1 = other.1 := String.toList_inj.mp names
  obtain ⟨name, _ | value⟩ := one <;> obtain ⟨name', _ | value'⟩ := other
  · exact Prod.ext sameName rfl
  · cases values
  · cases values
  · have sameValue : value = value' := String.toList_inj.mp (List.cons.inj values).2
    exact Prod.ext sameName (congrArg some sameValue)

theorem stageFlags_injective : Function.Injective stageFlags := by
  intro one other same
  unfold stageFlags at same
  by_cases none : one = .unknown
  · by_cases noneToo : other = .unknown
    · rw [none, noneToo]
    · rw [if_pos none, if_neg noneToo] at same
      cases same
  · by_cases noneToo : other = .unknown
    · rw [if_neg none, if_pos noneToo] at same
      cases same
    · rw [if_neg none, if_neg noneToo] at same
      have words : "-fshader-stage=" ++ one.word = "-fshader-stage=" ++ other.word := (List.cons.inj same).1
      exact Stage.word_injective ((String.append_right_inj _).mp words)

theorem optimizationFlag_injective : Function.Injective optimizationFlag := by
  intro one other
  cases one <;> cases other <;> decide

theorem targetWord?_inj {one other : Target} {word : String} (known : targetWord? one = some word)
    (knownToo : targetWord? other = some word) : one = other := by
  rw [← knownToo] at known
  clear knownToo
  revert known
  cases one <;> cases other <;> decide

/-! ## The order of arguments -/

/-- The place of an optional argument in the order of kinds: stage, macros, debug information, bindings and
    directories. -/
def rank (word : String) : Nat :=
  if "-fs".toList <+: word.toList then 0
  else if "-D".toList <+: word.toList then 1
  else if word = "-g" then 2
  else if word = "-fauto-bind-uniforms" then 3
  else 4

theorem rank_of_stageFlags {stage : Stage} : ∀ word ∈ stageFlags stage, rank word = 0 := by
  intro word member
  unfold stageFlags at member
  split at member
  · cases member
  · obtain rfl := List.mem_singleton.mp member
    refine if_pos ?_
    show "-fs".toList <+: ("-fshader-stage=" ++ stage.word).toList
    rw [String.toList_append]
    exact ⟨"hader-stage=".toList ++ stage.word.toList, rfl⟩

theorem rank_of_defineFlag {defines : List Define} : ∀ word ∈ defines.map defineFlag, rank word = 1 := by
  refine List.forall_mem_map.mpr fun define _ => ?_
  rw [rank, defineFlag_toList, if_neg, if_pos (List.prefix_append _ _)]
  show ¬['-', 'f', 's'] <+: '-' :: 'D' :: _
  simp

/-- Arguments of which the first, if there is one, has at least some rank. -/
def StartsAt (least : Nat) (words : List String) : Prop := ∀ word ∈ words.head?, least ≤ rank word

theorem StartsAt.append {least : Nat} {front words : List String} (isRank : ∀ word ∈ front, rank word = least)
    (starts : StartsAt (least + 1) words) : StartsAt least (front ++ words) := by
  cases front with
  | nil => exact fun word first => Nat.le_of_succ_le (starts word first)
  | cons first front =>
      rintro _ ⟨⟩
      exact (isRank first List.mem_cons_self).ge

theorem append_inj_of_rank {least : Nat} {one other behind after : List String}
    (isRank : ∀ word ∈ one, rank word = least) (isRankToo : ∀ word ∈ other, rank word = least)
    (starts : StartsAt (least + 1) behind) (startsToo : StartsAt (least + 1) after)
    (same : one ++ behind = other ++ after) : one = other ∧ behind = after :=
  append_inj_of_kind isRank isRankToo (fun word first => Nat.ne_of_gt (starts word first))
    (fun word first => Nat.ne_of_gt (startsToo word first)) same

theorem rank_of_ite {set : Bool} {flag : String} {least : Nat} (isRank : rank flag = least) :
    ∀ word ∈ (if set then [flag] else []), rank word = least := by
  cases set with
  | false => exact nofun
  | true => exact List.forall_mem_singleton.mpr isRank

theorem ite_flag_inj {flag : String} {one other : Bool}
    (same : (if one then [flag] else []) = if other then [flag] else []) : one = other := by
  cases one <;> cases other <;> first | rfl | cases same

def fromDirectories (path : List Path) : List String := path.flatMap fun dir => ["-I", dir.toString]

def fromBindings (config : Config) (path : List Path) : List String :=
  (if config.autoBindUniforms then ["-fauto-bind-uniforms"] else []) ++ fromDirectories path

def fromDebug (config : Config) (path : List Path) : List String :=
  (if config.debugInfo then ["-g"] else []) ++ fromBindings config path

def fromDefines (config : Config) (path : List Path) : List String :=
  config.defines.map defineFlag ++ fromDebug config path

theorem startsAt_directories (path : List Path) : StartsAt 4 (fromDirectories path) := by
  cases path with
  | nil => exact nofun
  | cons dir path =>
      rintro _ ⟨⟩
      decide

theorem startsAt_bindings (config : Config) (path : List Path) : StartsAt 3 (fromBindings config path) :=
  .append (rank_of_ite (by decide)) (startsAt_directories path)

theorem startsAt_debug (config : Config) (path : List Path) : StartsAt 2 (fromDebug config path) :=
  .append (rank_of_ite (by decide)) (startsAt_bindings config path)

theorem startsAt_defines (config : Config) (path : List Path) : StartsAt 1 (fromDefines config path) :=
  .append rank_of_defineFlag (startsAt_debug config path)

theorem fromDirectories_inj {path others : List Path} (same : fromDirectories path = fromDirectories others) :
    path.map Path.toString = others.map Path.toString := by
  unfold fromDirectories at same
  induction path generalizing others with
  | nil =>
      cases others with
      | nil => rfl
      | cons => cases same
  | cons dir path ih =>
      cases others with
      | nil => cases same
      | cons other others =>
          obtain ⟨-, rest⟩ := List.cons.inj same
          obtain ⟨first, rest⟩ := List.cons.inj rest
          rw [List.map_cons, List.map_cons, first, ih rest]

/-! ## All arguments -/

/-- The arguments for a config, kind after kind. -/
theorem arguments_eq_ok {config : Config} {path : List Path} {words : List String}
    (accepts : arguments config none path = .ok words) :
    ∃ target word, config.target = .ok target ∧ targetWord? target = some word ∧
      words = ["-x", languageWord config, "--target-env=" ++ word, optimizationFlag config.optimization,
          "-fentry-point=" ++ config.entryPoint, "-Werror"] ++
        (stageFlags config.stage ++ fromDefines config path) := by
  obtain ⟨flag, named, rest⟩ := Outcome.bind_eq_ok.mp accepts
  unfold targetFlag at named
  split at named
  · cases named
  · next target valid =>
      split at named
      · next word known =>
          cases named
          cases rest
          refine ⟨target, word, valid, known, ?_⟩
          have stage : stageOf config none = config.stage := by
            unfold stageOf
            split <;> simp_all
          rw [stage, fromDefines, fromDebug, fromBindings, fromDirectories]
          simp only [List.append_assoc]
          rfl
      · cases named

theorem languageWord_inj {one other : Config} (takes : one.language = .glsl ∨ one.language = .hlsl)
    (takesToo : other.language = .glsl ∨ other.language = .hlsl)
    (same : languageWord one = languageWord other) : one.language = other.language := by
  unfold languageWord at same
  rcases takes with is | is <;> rcases takesToo with isToo | isToo <;> rw [is, isToo] at same ⊢
  · exact absurd same (by decide)
  · exact absurd same (by decide)

/-- Nothing that the tool is to know of a config is lost in its arguments if no macro has an equals sign in
    its name, and the macros of a text have none. Two such configs with the same arguments differ in what
    the tool does not read of them at most, and their directories are written alike. -/
theorem arguments_keep_settings :
    (∀ source config, (∀ tokens, source ≠ .tokens tokens) →
      Directive.parseConfig {} source = .ok config → config.PlainNames) ∧
    ∀ (one other : Config) (path others : List Path) (words : List String),
      one.PlainNames → other.PlainNames →
      one.language = .glsl ∨ one.language = .hlsl → other.language = .glsl ∨ other.language = .hlsl →
      arguments one none path = .ok words → arguments other none others = .ok words →
      other = { one with includeDirs := other.includeDirs, flipVertical := other.flipVertical } ∧
        others.map Path.toString = path.map Path.toString := by
  refine ⟨fun _ _ => Config.plainNames_of_parse, ?_⟩
  intro one other path others words plain plainToo takes takesToo accepts acceptsToo
  obtain ⟨target, word, valid, known, rfl⟩ := arguments_eq_ok accepts
  obtain ⟨target', word', validToo, knownToo, same⟩ := arguments_eq_ok acceptsToo
  obtain ⟨fixed, optional⟩ := List.append_inj same rfl
  simp only [List.cons.injEq, true_and, and_true, String.append_right_inj] at fixed
  obtain ⟨language, rfl, optimization, entryPoint⟩ := fixed
  -- The optional ones end where the next kind begins.
  obtain ⟨stage, rest⟩ := append_inj_of_rank rank_of_stageFlags rank_of_stageFlags
    (startsAt_defines one path) (startsAt_defines other others) optional
  obtain ⟨defines, rest⟩ := append_inj_of_rank rank_of_defineFlag rank_of_defineFlag
    (startsAt_debug one path) (startsAt_debug other others) rest
  obtain ⟨debug, rest⟩ := append_inj_of_rank (rank_of_ite (by decide)) (rank_of_ite (by decide))
    (startsAt_bindings one path) (startsAt_bindings other others) rest
  obtain ⟨bindings, directories⟩ := append_inj_of_rank (rank_of_ite (by decide)) (rank_of_ite (by decide))
    (startsAt_directories path) (startsAt_directories others) rest
  refine ⟨?_, (fromDirectories_inj directories).symm⟩
  cases targetWord?_inj known knownToo
  obtain ⟨environment, version⟩ := Config.pair_of_target valid
  obtain ⟨environmentToo, versionToo⟩ := Config.pair_of_target validToo
  have sameLanguage := languageWord_inj takes takesToo language
  have sameStage := stageFlags_injective stage
  have sameDefines := map_inj_of_kind (fun _ _ => defineFlag_inj) plain plainToo defines
  have sameOptimization := optimizationFlag_injective optimization
  rw [sameLanguage, sameStage, sameDefines, environment, ← environmentToo, version, ← versionToo, entryPoint,
    sameOptimization, ite_flag_inj debug, ite_flag_inj bindings]

theorem flip_and_directories_only :
    ∃ one other : Config, Directive.parseConfig {} (.text "glsl, D A, frag") = .ok one ∧
      Directive.parseConfig {} (.items ["no_y_flip, frag", "glsl", "I \"inc\"", "D A"]) = .ok other ∧
      other = { one with includeDirs := other.includeDirs, flipVertical := other.flipVertical } ∧
      [Path.ofString "./inc"].map Path.toString = [Path.ofString "inc"].map Path.toString := by
  let one : Config := { language := .glsl, stage := .fragment, defines := [("A", none)] }
  let other : Config := { one with includeDirs := ["inc"], flipVertical := false }
  have parses : Directive.parseConfig {} (.text "glsl, D A, frag") = .ok one := by cbv
  have parsesToo : Directive.parseConfig {} (.items ["no_y_flip, frag", "glsl", "I \"inc\"", "D A"]) =
      .ok other := by cbv
  have plain := arguments_keep_settings.1 (.text _) one (by rintro _ ⟨⟩) parses
  have plainToo := arguments_keep_settings.1 (.items _) other (by rintro _ ⟨⟩) parsesToo
  have words : arguments one none [Path.ofString "inc"] = .ok ["-x", "glsl", "--target-env=vulkan1.0", "-O0",
      "-fentry-point=main", "-Werror", "-fshader-stage=frag", "-DA", "-g", "-I", "inc"] := by decide
  refine ⟨one, other, parses, parsesToo, ?_⟩
  exact arguments_keep_settings.2 one other [Path.ofString "inc"] [Path.ofString "./inc"] _ plain plainToo
    (.inl rfl) (.inl rfl) words (by decide)

/-- Tokens that come from no text may name a macro in such a way that it reads like another one with a
    value. -/
theorem equals_in_name_lost :
    ∃ one other : Config, Directive.parseConfig {} (.tokens [⟨.ident, "glsl", 0⟩, ⟨.separator, ",", 4⟩,
        ⟨.ident, "D", 6⟩, ⟨.ident, "N=1", 8⟩]) = .ok one ∧
      Directive.parseConfig {} (.text "glsl, D N=1") = .ok other ∧
      one.language = .glsl ∧ other.language = .glsl ∧
      (∃ words, arguments one none [] = .ok words ∧ arguments other none [] = .ok words) ∧
      one.defines = [("N=1", none)] ∧ other.defines = [("N", some "1")] := by
  let one : Config := { language := .glsl, defines := [("N=1", none)] }
  let other : Config := { language := .glsl, defines := [("N", some "1")] }
  have parses : Directive.parseConfig {} (.text "glsl, D N=1") = .ok other := by cbv
  refine ⟨one, other, rfl, parses, rfl, rfl, ⟨["-x", "glsl", "--target-env=vulkan1.0", "-O0",
    "-fentry-point=main", "-Werror", "-DN=1", "-g"], ?_, ?_⟩, rfl, rfl⟩
  · decide
  · decide

end Shaderc

end ShaderBuild
