import ShaderBuild.Proofs.Artifact.HeaderNames
import ShaderBuild.Proofs.Spirv.Codec
import ShaderBuild.Proofs.Text.Replacing

/-! # Values in generated headers

What a header says is its comment at the top, its guard and its constants. The comment ends where it was
meant to, whatever the paths in it are, and the constants have the words of the shader and their number
for values. All names are made of one symbol.
-/

namespace ShaderBuild

namespace Header

open Text

/-! ## Reading constants -/

/-- A constant that a header declares, with its value. -/
inductive Constant where
  | array (name : List Char) (members : List Int)
  | number (name : List Char) (value : Int)
  deriving Repr, DecidableEq

def hexLiteral? (text : List Char) : Option Int :=
  (after? ['0', 'x'] text).bind fun digits =>
    if digits.isEmpty then none else (hexNumber? digits).map Int.ofNat

def decimalLiteral? (text : List Char) : Option Int :=
  if text.isEmpty then none else (Decimal.digitsIn? 10 text).map Int.ofNat

/-- What stands between the commas of an initialiser, without the blanks around it. -/
def initialisers (inside : List Char) : List (List Char) := (splitAt ',' inside).map trim

/-- The members of an array. The last one may have a comma too. -/
def members? (inside : List Char) : Option (List Int) :=
  let parts := initialisers inside
  (if parts.getLast? = some [] then parts.dropLast else parts).mapM hexLiteral?

/-- The value of a constant: an initialiser in braces or a number. -/
def value? (name text : List Char) : Option Constant :=
  match after? "[] = \x7b".toList text with
  | some inside =>
    if inside.getLast? = some '\x7d' then (members? inside.dropLast).map (.array name) else none
  | none =>
    (after? " = ".toList text).bind fun digits => (decimalLiteral? digits).map (.number name)

/-- Read a declaration. One word stands for the type of the constant. -/
def constant? (declaration : List Char) : Option Constant :=
  (after? "static const ".toList declaration).bind fun rest =>
    let named := (rest.dropWhile (· ≠ ' ')).drop 1
    let name := named.takeWhile isNamePart
    if isName name then value? name (named.dropWhile isNamePart) else none

def isDirective (line : List Char) : Bool := line.head? == some '#'

/-- The lines that are no directives. -/
def undirected (lines : List (List Char)) : List (List Char) :=
  lines.filter fun line => !isDirective line

/-- Read the constants of a header: what stands between its semicolons once the comments and the
    directives are gone. -/
def constants? (text : List Char) : Option (List Constant) :=
  let code := Artifact.joinLines (undirected ((uncomment false text).splitOnP (· == '\n')))
  (((splitAt ';' code).map trim).filter (· ≠ [])).mapM constant?

/-! ## Initialisers -/

theorem initialisers_blank {c : Char} (blank : isBlank c = true) (other : c ≠ ',')
    (rest : List Char) : initialisers (c :: rest) = initialisers rest := by
  rw [initialisers, initialisers, splitAt]
  split
  · next none => exact absurd none (splitAt_ne_nil _ _)
  · next same =>
      rw [if_neg other, same, List.map_cons, List.map_cons, trim_cons_blank blank]

/-- Text that is read as these initialisers, whatever follows. -/
def Initialises (text : List Char) (found : List (List Char)) : Prop :=
  ∀ rest, initialisers (text ++ rest) = found ++ initialisers rest

theorem Initialises.append {left right : List Char} {found more : List (List Char)}
    (one : Initialises left found) (other : Initialises right more) :
    Initialises (left ++ right) (found ++ more) := by
  intro rest
  rw [List.append_assoc, one, other, List.append_assoc]

theorem initialises_piecewise : Artifact.Piecewise Initialises where
  nil _ := rfl
  append := .append
  blank _ := initialisers_blank rfl (by decide) _
  lineEnd _ := initialisers_blank rfl (by decide) _

/-- The characters of a word stand in no blank, comma or semicolon. -/
theorem apart_of_mem_wordText {word : Int} (isWord : Spirv.isWord word = true) :
    ∀ c ∈ Artifact.wordText word, isBlank c = false ∧ c ≠ ',' ∧ c ≠ ';' := by
  have digits : ∀ digit < 16, isBlank digit.digitChar = false ∧ digit.digitChar ≠ ',' ∧
      digit.digitChar ≠ ';' := by decide
  rw [Artifact.wordText_of_isWord isWord, List.forall_mem_cons, List.forall_mem_cons]
  refine ⟨by decide, by decide, fun c member => ?_⟩
  obtain ⟨digit, small, rfl⟩ := exists_digit_of_mem_hexPadded 8 word.toNat c member
  exact digits digit small

theorem hexLiteral?_wordText {word : Int} (isWord : Spirv.isWord word = true) :
    hexLiteral? (Artifact.wordText word) = some word := by
  obtain ⟨positive, -⟩ := (Spirv.isWord_iff word).mp isWord
  have digits : after? ['0', 'x'] ('0' :: 'x' :: hexPadded 8 word.toNat) =
      some (hexPadded 8 word.toNat) := after?_append ['0', 'x'] _
  rw [Artifact.wordText_of_isWord isWord, hexLiteral?, digits]
  simp [hexPadded_ne_nil, hexNumber?_hexPadded, positive]

theorem initialises_word {word : Int} (isWord : Spirv.isWord word = true) :
    Initialises (Artifact.wordText word ++ [',']) [Artifact.wordText word] := by
  intro rest
  have apart := apart_of_mem_wordText isWord
  have without : ',' ∉ Artifact.wordText word := fun comma => (apart ',' comma).2.1 rfl
  rw [List.append_assoc, List.singleton_append, initialisers, splitAt_piece without, List.map_cons,
    trim_of_visible fun c member => (apart c member).1]
  rfl

/-- The initialiser of the array is read as the words. -/
theorem members?_wordRows {words : List Int} (areWords : ∀ word ∈ words, Spirv.isWord word = true) :
    members? ('\n' :: Artifact.joinLines (Artifact.wordRows words)) = some words := by
  have rows := initialises_piecewise.wordRows fun word member => initialises_word (areWords word member)
  have parts : initialisers ('\n' :: Artifact.joinLines (Artifact.wordRows words)) =
      words.map Artifact.wordText ++ [[]] := by
    have inside := rows []
    rw [List.append_nil, ← List.map_eq_flatMap] at inside
    rw [initialisers_blank rfl (by decide), inside]
    rfl
  have read : (words.map Artifact.wordText).mapM hexLiteral? = some words := by
    clear rows parts
    induction words with
    | nil => rfl
    | cons word words ih =>
        obtain ⟨first, others⟩ := List.forall_mem_cons.mp areWords
        simp [List.mapM_cons, hexLiteral?_wordText first, ih others]
  rw [members?, parts, List.getLast?_concat, if_pos rfl, List.dropLast_concat, read]

/-! ## Constants -/

theorem not_mem_wordRows {words : List Int} (areWords : ∀ word ∈ words, Spirv.isWord word = true) :
    ';' ∉ Artifact.joinLines (Artifact.wordRows words) := by
  have apart : Artifact.Piecewise fun text (_ : List Char) => ';' ∉ text :=
    ⟨List.not_mem_nil, fun one other => by simp [one, other], by decide, by decide⟩
  have each : ∀ word ∈ words, ';' ∉ Artifact.wordText word ++ [','] := by
    intro word member semicolon
    rcases List.mem_append.mp semicolon with inWord | comma
    · exact (apart_of_mem_wordText (areWords word member) ';' inWord).2.2 rfl
    · cases List.mem_singleton.mp comma
  exact @Artifact.Piecewise.wordRows _ _ apart (fun _ => []) words each

theorem constant?_named {type name : List Char} (oneWord : ' ' ∉ type) (named : isName name = true)
    {c : Char} (other : isNamePart c = false) (rest : List Char) :
    constant? ("static const ".toList ++ (type ++ ' ' :: (name ++ c :: rest))) =
      value? name (c :: rest) := by
  have typed : (type ++ ' ' :: (name ++ c :: rest)).dropWhile (· ≠ ' ') = ' ' :: (name ++ c :: rest) := by
    have inside : ∀ c ∈ type, c ≠ ' ' := fun c member => ne_of_mem_of_not_mem member oneWord
    exact dropWhile_upTo (by simpa using inside) (by simp) _
  have parts := isNamePart_of_mem named
  rw [constant?, after?_append, Option.bind_some]
  simp only [typed, List.drop_succ_cons, List.drop_zero, takeWhile_upTo parts other,
    dropWhile_upTo parts other, named, ↓reduceIte]

/-- The declaration of the array, up to its semicolon. -/
def arrayDeclaration (symbol : List Char) (words : List Int) : List Char :=
  "static const uint32_t ".toList ++ (symbol ++ ("[] = \x7b".toList ++
    ('\n' :: Artifact.joinLines (Artifact.wordRows words) ++ ['\x7d'])))

/-- The declaration of the length, up to its semicolon. -/
def lengthDeclaration (symbol : List Char) (words : List Int) : List Char :=
  "static const size_t ".toList ++ (symbol ++ "_len".toList ++
    (" = ".toList ++ Nat.toDigits 10 words.length))

variable {symbol : List Char} {words : List Int}

theorem constant?_arrayDeclaration (named : isName symbol = true)
    (areWords : ∀ word ∈ words, Spirv.isWord word = true) :
    constant? (arrayDeclaration symbol words) = some (.array symbol words) := by
  have oneWord : ' ' ∉ "uint32_t".toList := by decide
  have opened (inside : List Char) : value? symbol ("[] = \x7b".toList ++ (inside ++ ['\x7d'])) =
      (members? inside).map (.array symbol) := by
    rw [value?, after?_append]
    simp
  have value := opened ('\n' :: Artifact.joinLines (Artifact.wordRows words))
  rw [members?_wordRows areWords] at value
  exact (constant?_named oneWord named (c := '[') rfl _).trans value

theorem constant?_lengthDeclaration (named : isName (symbol ++ "_len".toList) = true) :
    constant? (lengthDeclaration symbol words) =
      some (.number (symbol ++ "_len".toList) words.length) := by
  have oneWord : ' ' ∉ "size_t".toList := by decide
  have some : (Nat.toDigits 10 words.length).isEmpty = false := by
    rw [List.isEmpty_eq_false_iff]
    exact List.ne_nil_of_length_pos Nat.length_toDigits_pos
  have digits : decimalLiteral? (Nat.toDigits 10 words.length) = .some words.length := by
    rw [decimalLiteral?, some, digitsIn?_toDigits (by decide) (by decide)]
    rfl
  have value : value? (symbol ++ "_len".toList) (" = ".toList ++ Nat.toDigits 10 words.length) =
      .some (.number (symbol ++ "_len".toList) words.length) := by
    have noArray : after? "[] = \x7b".toList (" = ".toList ++ Nat.toDigits 10 words.length) = none := rfl
    rw [value?, noArray, after?_append]
    simp [digits]
  exact (constant?_named oneWord named (c := ' ') rfl _).trans value

theorem not_mem_arrayDeclaration (named : isName symbol = true)
    (areWords : ∀ word ∈ words, Spirv.isWord word = true) :
    ';' ∉ " \n\n\n".toList ++ arrayDeclaration symbol words := by
  have inName : ';' ∉ symbol := fun member => by cases isNamePart_of_mem named _ member
  unfold arrayDeclaration
  simp [inName, not_mem_wordRows areWords]

theorem not_mem_lengthDeclaration (named : isName symbol = true) :
    ';' ∉ '\n' :: lengthDeclaration symbol words := by
  have inName : ';' ∉ symbol := fun member => by cases isNamePart_of_mem named _ member
  have inNumber : ';' ∉ Nat.toDigits 10 words.length := by
    intro member
    obtain ⟨digit, small, same⟩ := exists_digit_of_mem_toDigits (by decide) _ _ member
    have all : ∀ digit < 10, ';' ≠ digit.digitChar := by decide
    exact all digit small same
  unfold lengthDeclaration
  simp [inName, inNumber]

theorem trim_arrayDeclaration (symbol : List Char) (words : List Int) :
    trim (" \n\n\n".toList ++ arrayDeclaration symbol words) = arrayDeclaration symbol words := by
  have gap : ∀ c ∈ " \n\n\n".toList, isBlank c = true := forall_of_all (by decide)
  have first : ∀ c ∈ (arrayDeclaration symbol words).head?, isBlank c = false := by
    rintro c ⟨⟩
    rfl
  have last : ∀ c ∈ (arrayDeclaration symbol words).getLast?, isBlank c = false := by
    have ends : arrayDeclaration symbol words = "static const uint32_t ".toList ++ (symbol ++
        ("[] = \x7b".toList ++ '\n' :: Artifact.joinLines (Artifact.wordRows words))) ++ ['\x7d'] := by
      unfold arrayDeclaration
      simp
    rw [ends, List.getLast?_concat]
    rintro c ⟨⟩
    rfl
  have trimmed := trim_between gap (fun _ none => absurd none List.not_mem_nil) first last nofun
  rwa [List.append_nil] at trimmed

theorem trim_lengthDeclaration (symbol : List Char) (words : List Int) :
    trim ('\n' :: lengthDeclaration symbol words) = lengthDeclaration symbol words := by
  have first : ∀ c ∈ (lengthDeclaration symbol words).head?, isBlank c = false := by
    rintro c ⟨⟩
    rfl
  have last : ∀ c ∈ (lengthDeclaration symbol words).getLast?, isBlank c = false := by
    have some : Nat.toDigits 10 words.length ≠ [] := List.ne_nil_of_length_pos Nat.length_toDigits_pos
    have ends : lengthDeclaration symbol words = "static const size_t ".toList ++ (symbol ++
        "_len".toList ++ " = ".toList) ++ Nat.toDigits 10 words.length := by
      unfold lengthDeclaration
      simp
    have visible : ∀ digit < 10, isBlank digit.digitChar = false := by decide
    rw [ends, List.getLast?_append_of_ne_nil _ some]
    intro c isLast
    obtain ⟨digit, small, rfl⟩ := exists_digit_of_mem_toDigits (by decide) _ c (List.mem_of_getLast? isLast)
    exact visible digit small
  have none : ∀ c ∈ ([] : List Char), isBlank c = true := fun _ none => absurd none List.not_mem_nil
  have trimmed := trim_between none none first last nofun
  rw [trim_cons_blank rfl]
  simpa using trimmed

/-- What is left of a generated header without comments and directives. -/
theorem undirected_lines (name : String) (feedback : Feedback) :
    Artifact.joinLines (undirected
        ((uncomment false (Artifact.renderHeader name feedback)).splitOnP (· == '\n'))) =
      " \n\n\n".toList ++ arrayDeclaration (Artifact.symbolChars name.toList) feedback.words ++ ';' ::
        ('\n' :: lengthDeclaration (Artifact.symbolChars name.toList) feedback.words ++ ';' ::
          "\n\n\n".toList) := by
  rw [Artifact.lines_renderHeader]
  generalize Artifact.symbolChars name.toList = symbol
  have rows : undirected (Artifact.wordRows feedback.words) = Artifact.wordRows feedback.words := by
    refine List.filter_eq_self.mpr fun line member => ?_
    obtain ⟨row, _, rfl⟩ := List.mem_map.mp member
    rfl
  have kept : undirected ([' '] :: Artifact.codeLines symbol feedback.words ++ ["#endif  ".toList, []]) =
      [[' '], [], [], "static const uint32_t ".toList ++ symbol ++ "[] = \x7b".toList] ++
        Artifact.wordRows feedback.words ++
        ["\x7d;".toList, "static const size_t ".toList ++ symbol ++ "_len = ".toList ++
          Nat.toDigits 10 feedback.words.length ++ [';'], [], []] := by
    rw [undirected] at rows ⊢
    simp only [Artifact.codeLines, List.cons_append, List.filter_append, List.filter_cons, rows]
    simp [isDirective]
  rw [kept, Artifact.joinLines_append, Artifact.joinLines_append]
  unfold arrayDeclaration lengthDeclaration
  simp [Artifact.joinLines]

/-- A generated header defines the words of the shader and their number, and nothing else. -/
theorem constants?_renderHeader (name : String) (feedback : Feedback)
    (areWords : ∀ word ∈ feedback.words, Spirv.isWord word = true) :
    constants? (Artifact.renderHeader name feedback) =
      some [.array (Artifact.symbolChars name.toList) feedback.words,
        .number (Artifact.symbolChars name.toList ++ "_len".toList) feedback.words.length] := by
  have named := Artifact.isName_symbolChars name.toList
  have code := undirected_lines name feedback
  generalize Artifact.symbolChars name.toList = symbol at named code ⊢
  have suffix : ∀ c ∈ "_len".toList, isNamePart c = true := forall_of_all (by decide)
  have array := constant?_arrayDeclaration named areWords
  have length := @constant?_lengthDeclaration symbol feedback.words (isName_append named suffix)
  have last : (splitAt ';' "\n\n\n".toList).map trim = [[]] := rfl
  have declarations : ((splitAt ';' (" \n\n\n".toList ++ arrayDeclaration symbol feedback.words ++ ';' ::
      ('\n' :: lengthDeclaration symbol feedback.words ++ ';' :: "\n\n\n".toList))).map trim).filter
        (· ≠ []) =
      [arrayDeclaration symbol feedback.words, lengthDeclaration symbol feedback.words] := by
    rw [splitAt_piece (not_mem_arrayDeclaration named areWords),
      splitAt_piece (not_mem_lengthDeclaration named), List.map_cons, List.map_cons,
      trim_arrayDeclaration, trim_lengthDeclaration, last]
    rfl
  rw [constants?, code, declarations]
  simp [array, length]

/-! ## The comment -/

theorem uncomment_ne_nil {text : List Char} (closes : ['*', '/'] <:+: text) : uncomment true text ≠ [] := by
  induction text with
  | nil => simp at closes
  | cons c rest ih =>
      by_cases mark : ['*', '/'] <+: c :: rest
      · obtain ⟨after, same⟩ := mark
        rw [← same]
        exact List.cons_ne_nil _ _
      · have later := (List.infix_cons_iff.mp closes).resolve_left mark
        have goes : c = '*' → rest.head? ≠ some '/' := by
          rintro rfl slash
          obtain ⟨after, rfl⟩ := List.head?_eq_some_iff.mp slash
          exact mark ⟨after, rfl⟩
        rw [uncomment_inside goes]
        exact ih later

/-- A comment that goes on through a text is not closed in it, nor by a slash behind a star at its end. -/
theorem Continues.not_closed {text : List Char} (goes : Continues text) :
    ¬['*', '/'] <:+: text ++ ['*'] :=
  fun closes => uncomment_ne_nil closes (goes ['*'])

end Header

namespace Artifact

open Header

/-- The comment ends on a line of its own. -/
theorem lineEnd_topComment (feedback : Feedback) : "\n ".toList <:+ topComment feedback := by
  have some : commentLines feedback ≠ [] := List.cons_ne_nil _ _
  obtain ⟨lines, ends⟩ := lineEnd_joinLines some
  exact ⟨lines, by rw [topComment, ← ends, List.append_assoc]; rfl⟩

/-- A generated header carries the words it was made of. Its comment is not closed before the line in
    front of the guard, whatever the dependencies are; what is read between the braces are the words in
    their order, and the length is their number. The array, the length and the guard are named by one
    symbol, which is a name whatever the shader is called. -/
theorem renderHeader_carries (name : String) (feedback : Feedback)
    (areWords : ∀ word ∈ feedback.words, Spirv.isWord word = true) :
    ∃ symbol comment code, symbol = symbolChars name.toList ∧ isName symbol = true ∧
      renderHeader name feedback = "/*".toList ++ comment ++ "*/".toList ++ code ∧
      ¬"*/".toList <:+: comment ++ ['*'] ∧ "\n ".toList <:+ comment ∧
      "\n#ifndef ".toList ++ guardName symbol ++ ['\n'] <+: code ∧
      readHeader (renderHeader name feedback) =
        some ⟨guardName symbol, [symbol, symbol ++ "_len".toList]⟩ ∧
      constants? (renderHeader name feedback) =
        some [.array symbol feedback.words, .number (symbol ++ "_len".toList) feedback.words.length] := by
  have named := isName_symbolChars name.toList
  have shown := renderHeader_eq name feedback
  have read := readHeader_renderHeader name feedback
  have constants := constants?_renderHeader name feedback areWords
  generalize symbolChars name.toList = symbol at named shown read constants ⊢
  have whole : renderHeader name feedback = "/*".toList ++ topComment feedback ++ "*/".toList ++
      ("\n#ifndef ".toList ++ guardName symbol ++ ['\n'] ++
        (joinLines ((codeLines symbol feedback.words).tail) ++ lastLine symbol)) := by
    rw [shown]
    simp [codeLines, joinLines]
  exact ⟨symbol, topComment feedback, _, rfl, named, whole, (continues_topComment feedback).not_closed,
    lineEnd_topComment feedback, List.prefix_append _ _, read, constants⟩

/-- Paths made of marks, a name that is none, and more words than one row holds. -/
theorem header_of_starred_paths :
    (∀ word ∈ List.replicate 9 (0xFFFFFFFF : Int), Spirv.isWord word = true) ∧
    ∃ comment code, renderHeader "2d*/" ⟨List.replicate 9 0xFFFFFFFF, ["**//", "*/", "/*"]⟩ =
        "/*".toList ++ comment ++ "*/".toList ++ code ∧
      ¬"*/".toList <:+: comment ++ ['*'] ∧ "\n#ifndef SHADERBAKE__2D___H\n".toList <+: code ∧
      constants? (renderHeader "2d*/" ⟨List.replicate 9 0xFFFFFFFF, ["**//", "*/", "/*"]⟩) =
        some [.array "_2d__".toList (List.replicate 9 0xFFFFFFFF), .number "_2d___len".toList 9] := by
  have areWords : ∀ word ∈ List.replicate 9 (0xFFFFFFFF : Int), Spirv.isWord word = true := by decide
  obtain ⟨_, comment, code, rfl, -, shown, opened, -, guarded, -, constants⟩ :=
    renderHeader_carries "2d*/" ⟨_, ["**//", "*/", "/*"]⟩ areWords
  exact ⟨areWords, comment, code, shown, opened, guarded, constants⟩

end Artifact

end ShaderBuild
