import Mathlib.Data.List.Nodup
import ShaderBuild.Proofs.Artifact.HeaderReader
import ShaderBuild.Proofs.Artifact.Symbols
import ShaderBuild.Proofs.Manifest.Validated

/-! # Names in generated headers

A header is guarded by a macro made of the shader's name in upper case, and declares the shader's words
and their number. The names of the shaders of a build differ; what is made of them need not.
-/

namespace ShaderBuild.Artifact

open Header

/-! ## Generated headers -/

/-- What a header says outside its comments, up to its last line. -/
def codeLines (symbol : List Char) (words : List Int) : List (List Char) :=
  ["#ifndef ".toList ++ guardName symbol, "#define ".toList ++ guardName symbol, [],
    "#include <stddef.h>".toList, "#include <stdint.h>".toList, [],
    "static const uint32_t ".toList ++ symbol ++ "[] = \x7b".toList] ++
  wordRows words ++
  ["\x7d;".toList,
    "static const size_t ".toList ++ symbol ++ "_len = ".toList ++ Nat.toDigits 10 words.length ++ [';'],
    []]

theorem plain_of_symbol {symbol : List Char} (parts : ∀ c ∈ symbol, isSymbolPart c = true) :
    Plain symbol := by
  intro c member
  have part := parts c member
  constructor <;> (rintro rfl; cases part)

theorem plain_guardName {symbol : List Char} (parts : ∀ c ∈ symbol, isSymbolPart c = true) :
    Plain (guardName symbol) := by
  have upper : Plain (symbol.map Char.toUpper) := by
    refine plain_of_symbol fun c member => ?_
    obtain ⟨given, inSymbol, rfl⟩ := List.mem_map.mp member
    exact isSymbolPart_toUpper (parts given inSymbol)
  exact (Plain.append (by decide) upper).append (by decide)

theorem plain_codeLines {symbol : List Char} (parts : ∀ c ∈ symbol, isSymbolPart c = true)
    (words : List Int) : ∀ line ∈ codeLines symbol words, Plain line := by
  have name := plain_of_symbol parts
  have guarded := plain_guardName parts
  have rows : ∀ line ∈ wordRows words, Plain line := by
    intro line member
    obtain ⟨row, _, rfl⟩ := List.mem_map.mp member
    exact plain_rowText row
  have asks : Plain ("#ifndef ".toList ++ guardName symbol) := Plain.append (by decide) guarded
  have defines : Plain ("#define ".toList ++ guardName symbol) := Plain.append (by decide) guarded
  have array : Plain ("static const uint32_t ".toList ++ symbol ++ "[] = \x7b".toList) :=
    (Plain.append (by decide) name).append (by decide)
  have length : Plain ("static const size_t ".toList ++ symbol ++ "_len = ".toList ++
      Nat.toDigits 10 words.length ++ [';']) :=
    (((Plain.append (by decide) name).append (by decide)).append (plain_toDigits _)).append (by decide)
  simp only [codeLines, List.forall_mem_append, List.forall_mem_cons]
  refine ⟨⟨⟨asks, defines, by decide, by decide, by decide, by decide, array, ?_⟩, rows⟩,
    by decide, length, by decide, ?_⟩ <;> exact fun _ none => absurd none List.not_mem_nil

theorem continues_guardName {symbol : List Char} (parts : ∀ c ∈ symbol, isSymbolPart c = true) :
    Continues (guardName symbol) := by
  have upper : '*' ∉ symbol.map Char.toUpper := by
    intro member
    obtain ⟨given, inSymbol, star⟩ := List.mem_map.mp member
    exact absurd (star ▸ isSymbolPart_toUpper (parts given inSymbol)) (by decide)
  have start : Continues "SHADERBAKE_".toList := .of_no_star (by decide)
  have finish : Continues "_H".toList := .of_no_star (by decide)
  exact (start.append (.of_no_star upper)).append finish

/-- The lines of the comment at the top of a header, up to the mark that closes it. -/
def commentLines (feedback : Feedback) : List (List Char) :=
  " Generated by shaderbake. Do not edit.".toList :: " *".toList :: " * Dependencies:".toList ::
    feedback.dependencies.map fun path => " *   ".toList ++ commentSafe path.toList

/-- What stands between the marks of the comment at the top of a header. -/
def topComment (feedback : Feedback) : List Char := joinLines (commentLines feedback) ++ [' ']

theorem continues_topComment (feedback : Feedback) : Continues (topComment feedback) := by
  have indent : Continues " *   ".toList := fun _ => rfl
  have paths : ∀ line ∈ feedback.dependencies.map fun path => " *   ".toList ++ commentSafe path.toList,
      Continues (line ++ ['\n']) := by
    refine List.forall_mem_map.mpr fun path _ => ?_
    rw [List.append_assoc]
    exact indent.append (continues_commentSafe path.toList)
  have lines : ∀ line ∈ commentLines feedback, Continues (line ++ ['\n']) :=
    List.forall_mem_cons.mpr ⟨fun _ => rfl, List.forall_mem_cons.mpr ⟨fun _ => rfl,
      List.forall_mem_cons.mpr ⟨fun _ => rfl, paths⟩⟩⟩
  exact (Continues.flatMap lines).append fun _ => rfl

/-- The last line of a header. -/
def lastLine (symbol : List Char) : List Char :=
  "#endif ".toList ++ '/' :: '*' :: ' ' :: ((guardName symbol ++ [' ']) ++ '*' :: '/' :: ['\n'])

theorem renderHeader_eq (name : String) (feedback : Feedback) :
    renderHeader name feedback =
      '/' :: '*' :: (topComment feedback ++ '*' :: '/' :: '\n' ::
        (joinLines (codeLines (symbolChars name.toList) feedback.words) ++
          lastLine (symbolChars name.toList))) := by
  generalize symbolName : symbolChars name.toList = symbol
  simp only [renderHeader, headerLines, headerComment, symbolName, joinLines_append, codeLines]
  unfold topComment commentLines lastLine
  simp [joinLines, List.flatMap_map]

theorem uncomment_renderHeader (name : String) (feedback : Feedback) :
    uncomment false (renderHeader name feedback) =
      joinLines ([' '] :: codeLines (symbolChars name.toList) feedback.words ++
        ["#endif  ".toList]) := by
  have parts := isSymbolPart_of_mem_symbolChars name.toList
  rw [renderHeader_eq]
  generalize symbolChars name.toList = symbol at parts ⊢
  have guard : Continues (guardName symbol ++ [' ']) :=
    (continues_guardName parts).append (.of_no_star (by decide))
  have last : uncomment false (lastLine symbol) = "#endif  \n".toList := by
    unfold lastLine
    rw [uncomment_plain (by decide), uncomment_open, uncomment_inside (by simp), guard, uncomment_close]
    rfl
  rw [uncomment_open, continues_topComment, uncomment_close, uncomment_lineEnd,
    uncomment_joinLines (plain_codeLines parts _), last]
  simp [joinLines]

theorem declared?_constant {type name : List Char} (oneWord : ' ' ∉ type)
    (parts : ∀ c ∈ name, isSymbolPart c = true) {c : Char} (other : isSymbolPart c = false)
    (rest : List Char) :
    declared? ("static const ".toList ++ (type ++ ' ' :: (name ++ c :: rest))) = some name := by
  have typed : (type ++ ' ' :: (name ++ c :: rest)).dropWhile (· ≠ ' ') = ' ' :: (name ++ c :: rest) := by
    have inside : ∀ c ∈ type, c ≠ ' ' := fun c member => ne_of_mem_of_not_mem member oneWord
    exact Text.dropWhile_upTo (by simpa using inside) (by simp) _
  rw [declared?, Text.after?_append, Option.map_some, typed, List.drop_succ_cons, List.drop_zero,
    Text.takeWhile_upTo parts other]

theorem filterMap_declared?_codeLines {symbol : List Char}
    (parts : ∀ c ∈ symbol, isSymbolPart c = true) (words : List Int) :
    (codeLines symbol words).filterMap declared? = [symbol, symbol ++ "_len".toList] := by
  have rows : (wordRows words).filterMap declared? = [] := by
    refine List.filterMap_eq_nil_iff.mpr fun line member => ?_
    obtain ⟨row, _, rfl⟩ := List.mem_map.mp member
    rfl
  have suffix : ∀ c ∈ "_len".toList, isSymbolPart c = true := Text.forall_of_all (by decide)
  have withLen : ∀ c ∈ symbol ++ "_len".toList, isSymbolPart c = true :=
    List.forall_mem_append.mpr ⟨parts, suffix⟩
  have array : declared? ("static const uint32_t ".toList ++ symbol ++ "[] = \x7b".toList) =
      some symbol := by
    have oneWord : ' ' ∉ "uint32_t".toList := by decide
    have found := declared?_constant oneWord parts (c := '[') rfl "] = \x7b".toList
    simpa using found
  have length : declared? ("static const size_t ".toList ++ symbol ++ "_len = ".toList ++
      Nat.toDigits 10 words.length ++ [';']) = some (symbol ++ "_len".toList) := by
    have oneWord : ' ' ∉ "size_t".toList := by decide
    have found := declared?_constant oneWord withLen (c := ' ') rfl
      ("= ".toList ++ Nat.toDigits 10 words.length ++ [';'])
    simpa using found
  have hash (rest : List Char) : declared? ('#' :: rest) = none := rfl
  simp only [codeLines, List.filterMap_append, rows, List.filterMap_cons, array, length]
  rfl

theorem guard?_of_lines (guard : List Char) (middle : List (List Char)) :
    guard? ([' '] :: ("#ifndef ".toList ++ guard) :: ("#define ".toList ++ guard) ::
      (middle ++ ["#endif  ".toList, []])) = some guard := by
  have ends : ((middle ++ ["#endif  ".toList, []]).filter fun line => !isBlankLine line).getLast? =
      some "#endif  ".toList := by
    have last : (["#endif  ".toList, []].filter fun line => !isBlankLine line) = ["#endif  ".toList] :=
      rfl
    rw [List.filter_append, last, List.getLast?_append]
    rfl
  have kept : ([' '] :: ("#ifndef ".toList ++ guard) :: ("#define ".toList ++ guard) ::
      (middle ++ ["#endif  ".toList, []])).filter (fun line => !isBlankLine line) =
      ("#ifndef ".toList ++ guard) :: ("#define ".toList ++ guard) ::
        (middle ++ ["#endif  ".toList, []]).filter fun line => !isBlankLine line := rfl
  have ended : (Text.after? "#endif".toList "#endif  ".toList).isSome := rfl
  obtain ⟨_, ended⟩ := Option.isSome_iff_exists.mp ended
  rw [guard?, kept]
  simp only [Text.after?_append, ends, ended, Option.bind_eq_bind, Option.bind_some, ↓reduceIte]

/-- The lines of a generated header without its comments. -/
theorem lines_renderHeader (name : String) (feedback : Feedback) :
    (uncomment false (renderHeader name feedback)).splitOnP (· == '\n') =
      [' '] :: codeLines (symbolChars name.toList) feedback.words ++ ["#endif  ".toList, []] := by
  have parts := isSymbolPart_of_mem_symbolChars name.toList
  have plain : ∀ line ∈ [' '] :: codeLines (symbolChars name.toList) feedback.words ++
      ["#endif  ".toList], Plain line := by
    rw [List.cons_append, List.forall_mem_cons, List.forall_mem_append]
    exact ⟨by decide, plain_codeLines parts _, by decide⟩
  rw [uncomment_renderHeader, splitOnP_joinLines plain, List.append_assoc]
  rfl

/-- A generated header is read as guarded by the shader's macro and declaring the shader's words and
    their number, whatever its words and its dependencies are. -/
theorem readHeader_renderHeader (name : String) (feedback : Feedback) :
    readHeader (renderHeader name feedback) = some ⟨guardName (symbolChars name.toList),
      [symbolChars name.toList, symbolChars name.toList ++ "_len".toList]⟩ := by
  have parts := isSymbolPart_of_mem_symbolChars name.toList
  have lines := lines_renderHeader name feedback
  generalize symbolChars name.toList = symbol at parts lines ⊢
  have guard : guard? ([' '] :: codeLines symbol feedback.words ++ ["#endif  ".toList, []]) =
      some (guardName symbol) := by
    have found := guard?_of_lines (guardName symbol) ((codeLines symbol feedback.words).drop 2)
    simpa [codeLines] using found
  have declared : ([' '] :: codeLines symbol feedback.words ++ ["#endif  ".toList, []]).filterMap
      declared? = [symbol, symbol ++ "_len".toList] := by
    have blank : declared? [' '] = none := rfl
    have last : ["#endif  ".toList, []].filterMap declared? = [] := rfl
    rw [List.filterMap_append, List.filterMap_cons, blank]
    simp only [filterMap_declared?_codeLines parts, List.cons_append, List.nil_append, last]
  rw [readHeader, lines, readLines, guard, declared]
  rfl

/-! ## Names of a build -/

theorem nodup_guards_iff (symbols : List (List Char)) :
    (symbols.map guardName).Nodup ↔ (symbols.map (·.map Char.toUpper)).Nodup := by
  let wrap (upper : List Char) : List Char := "SHADERBAKE_".toList ++ upper ++ "_H".toList
  have distinct : Function.Injective wrap := fun _ _ same =>
    List.append_cancel_left (List.append_cancel_right same)
  have shown : symbols.map guardName = (symbols.map (·.map Char.toUpper)).map wrap := by
    rw [List.map_map]
    rfl
  rw [shown, List.nodup_map_iff distinct]

theorem declared_perm (symbols : List (List Char)) :
    (symbols.flatMap fun symbol => [symbol, symbol ++ "_len".toList]).Perm
      (symbols ++ symbols.map (· ++ "_len".toList)) := by
  induction symbols with
  | nil => exact .nil
  | cons symbol symbols ih =>
      exact .cons _ ((List.Perm.cons _ ih).trans List.perm_middle.symm)

theorem nodup_declared_iff (symbols : List (List Char)) :
    (symbols.flatMap fun symbol => [symbol, symbol ++ "_len".toList]).Nodup ↔
      symbols.Nodup ∧ ∀ one ∈ symbols, ∀ other ∈ symbols, one ≠ other ++ "_len".toList := by
  have lengths : (symbols.map (· ++ "_len".toList)).Nodup ↔ symbols.Nodup :=
    List.nodup_map_iff (List.append_left_injective _)
  rw [(declared_perm symbols).nodup_iff, List.nodup_append, lengths]
  simp only [List.forall_mem_map]
  tauto

/-- The readings of the headers of all shaders, in their order. -/
def HeadersOf (manifest : Manifest) (feedback : Shader → Feedback) (headers : List Reading) : Prop :=
  (manifest.shaders.map fun shader => readHeader (renderHeader shader.name (feedback shader))) =
    headers.map some

/-- The headers of a checked manifest. Their guards differ exactly if the names differ in more than the
    case of their letters, and what they declare differs exactly if the names differ as they are spelled
    and none of them is another one with `_len` behind it. Where the guards differ, a file that includes
    all headers gets all that they declare, as far as names are neither reserved nor the guard of another
    header, such as `SHADERBAKE_A_H` beside `a`: the reader knows neither reserved words nor the
    replacement of macros. -/
theorem headers_of_build {payload : Value} {manifest : Manifest}
    (passes : Manifest.check payload = .ok manifest) (feedback : Shader → Feedback) :
    ∃ headers, HeadersOf manifest feedback headers ∧
      ((headers.map (·.guard)).Nodup ↔
        (manifest.shaders.map fun shader => (spelled shader.name).map Char.toUpper).Nodup) ∧
      ((headers.flatMap (·.declared)).Nodup ↔
        (manifest.shaders.map fun shader => spelled shader.name).Nodup ∧
          ∀ one ∈ manifest.shaders, ∀ other ∈ manifest.shaders,
            spelled one.name ≠ spelled other.name ++ "_len".toList) ∧
      ((headers.map (·.guard)).Nodup → included [] headers = headers.flatMap (·.declared)) := by
  let symbols := manifest.shaders.map fun shader => spelled shader.name
  let header (symbol : List Char) : Reading := ⟨guardName symbol, [symbol, symbol ++ "_len".toList]⟩
  have named := (Manifest.validated_of_check passes).named
  refine ⟨symbols.map header, ?_, ?_, ?_, fun distinct => included_of_fresh distinct (by simp)⟩
  · rw [HeadersOf, List.map_map, List.map_map]
    refine List.map_congr_left fun shader member => ?_
    rw [readHeader_renderHeader, symbolChars_of_isIdentifier (named shader member)]
    rfl
  · have guards : (symbols.map header).map (·.guard) = symbols.map guardName := List.map_map
    rw [guards, nodup_guards_iff, List.map_map]
    rfl
  · have declared : (symbols.map header).flatMap (·.declared) =
        symbols.flatMap fun symbol => [symbol, symbol ++ "_len".toList] := List.flatMap_map ..
    rw [declared, nodup_declared_iff]
    simp only [symbols, List.forall_mem_map]

def inlineShader (name : String) : Shader := ⟨name, none, some "", .text "", none⟩

def inlinePayload (names : List String) : Value :=
  .map [(.str "version", .int 1), (.str "shaders", .list (names.map fun name =>
    .map [(.str "name", .str name), (.str "inline", .str "")]))]

theorem blit_and_blend_apart :
    ∃ manifest, Manifest.check (inlinePayload ["blit", "blend"]) = .ok manifest ∧
      ∃ headers, HeadersOf manifest (fun _ => ⟨[0x07230203], ["*/.glsl"]⟩) headers ∧
        (headers.flatMap (·.declared)).Nodup ∧ included [] headers = headers.flatMap (·.declared) := by
  have passes : Manifest.check (inlinePayload ["blit", "blend"]) =
      .ok ⟨1, {}, ["blit", "blend"].map inlineShader⟩ := rfl
  obtain ⟨headers, read, guards, declared, all⟩ :=
    headers_of_build passes fun _ => ⟨[0x07230203], ["*/.glsl"]⟩
  exact ⟨_, passes, headers, read, declared.mpr (by decide), all (guards.mpr (by decide))⟩

/-- Two names that differ in case only share a guard, and a name with `_len` behind it is declared by
    the shader that goes without it as well. -/
theorem names_meet :
    (¬∀ payload manifest feedback headers, Manifest.check payload = .ok manifest →
      HeadersOf manifest feedback headers → (headers.map (·.guard)).Nodup) ∧
    (¬∀ payload manifest feedback headers, Manifest.check payload = .ok manifest →
      HeadersOf manifest feedback headers → (headers.flatMap (·.declared)).Nodup) := by
  have headers (one other : String) :
      HeadersOf ⟨1, {}, [one, other].map inlineShader⟩ (fun _ => ⟨[], []⟩) ([one, other].map fun name =>
        ⟨guardName (symbolChars name.toList),
          [symbolChars name.toList, symbolChars name.toList ++ "_len".toList]⟩) := by
    simp [HeadersOf, readHeader_renderHeader, inlineShader]
  constructor
  · intro always
    have passes : Manifest.check (inlinePayload ["a", "A"]) =
        .ok ⟨1, {}, ["a", "A"].map inlineShader⟩ := rfl
    exact absurd (always _ _ _ _ passes (headers "a" "A")) (by decide)
  · intro always
    have passes : Manifest.check (inlinePayload ["x", "x_len"]) =
        .ok ⟨1, {}, ["x", "x_len"].map inlineShader⟩ := rfl
    exact absurd (always _ _ _ _ passes (headers "x" "x_len")) (by decide)

end ShaderBuild.Artifact
