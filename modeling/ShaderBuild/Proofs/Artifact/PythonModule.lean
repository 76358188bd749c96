import ShaderBuild.Proofs.Artifact.Docstring
import ShaderBuild.Proofs.Artifact.Lines
import ShaderBuild.Proofs.Artifact.PythonReader
import ShaderBuild.Proofs.Artifact.Symbols

/-! # Generated Python modules

A generated module says what the shader is made of and nothing else. Its words and its dependencies are
the ones it was written from, each for itself and in their order, however many there are and whatever
characters the dependencies hold.
-/

namespace ShaderBuild

namespace Python

open Text

variable {depth : Nat} {fresh : Bool} {text after : List Char} {token : Token}

/-! ## The tokens that count -/

theorem counted_nil (fresh : Bool) : counted 0 fresh [] = some [] := by
  simp [counted, tokens, significant]

theorem counted_of_token (after : List Char) (found : token? text = some (token, after)) :
    counted depth fresh text = (tokens after).bind fun found => significant depth fresh (token :: found) := by
  have some : text.isEmpty = false := by
    cases text with
    | nil => cases found
    | cons => rfl
  rw [counted, tokens, some]
  simp only [Bool.false_eq_true, ↓reduceIte]
  split
  · next none => rw [none] at found; cases found
  · next same => rw [same] at found; cases found; cases tokens after <;> rfl

theorem counted_comment (found : token? text = some (.comment, after)) :
    counted depth fresh text = counted depth fresh after := by
  rw [counted_of_token after found]
  simp only [significant, counted]

/-- A blank does not count, except at the start of a line. -/
theorem counted_blank (inside : depth ≠ 0 ∨ fresh = false) (rest : List Char) :
    counted depth fresh (' ' :: rest) = counted depth fresh rest := by
  have allowed : ¬(depth = 0 ∧ fresh = true) := fun ⟨zero, starts⟩ => by simp [zero, starts] at inside
  rw [counted_of_token rest rfl]
  simp only [significant, allowed, ↓reduceIte, counted]

theorem counted_lineEnd (rest : List Char) :
    counted 0 fresh ('\n' :: rest) = (counted 0 true rest).map (.lineEnd :: ·) := by
  rw [counted_of_token rest rfl]
  cases found : tokens rest <;> simp [significant, counted, found]

theorem counted_lineEnd_inside (rest : List Char) :
    counted (depth + 1) fresh ('\n' :: rest) = counted (depth + 1) false rest := by
  rw [counted_of_token rest rfl]
  simp [significant, counted]

/-- A token that counts, and after which `deeper` parentheses are open. -/
theorem counted_kept {deeper : Nat} (read : token? text = some (token, after))
    (kept : ∀ rest, significant depth fresh (token :: rest) =
      (significant deeper false rest).map (token :: ·)) :
    counted depth fresh text = (counted deeper false after).map (token :: ·) := by
  rw [counted_of_token after read, counted]
  cases tokens after with
  | none => rfl
  | some found => exact kept found

theorem counted_opening (rest : List Char) :
    counted depth fresh ('(' :: rest) = (counted (depth + 1) false rest).map (.mark '(' :: ·) :=
  counted_kept rfl fun _ => by simp [significant]

theorem counted_closing (rest : List Char) :
    counted (depth + 1) fresh (')' :: rest) = (counted depth false rest).map (.mark ')' :: ·) :=
  counted_kept rfl fun _ => by simp [significant]

theorem counted_comma (rest : List Char) :
    counted depth fresh (',' :: rest) = (counted depth false rest).map (.mark ',' :: ·) :=
  counted_kept rfl fun _ => by simp [significant]

theorem counted_equals (rest : List Char) :
    counted depth fresh ('=' :: rest) = (counted depth false rest).map (.mark '=' :: ·) :=
  counted_kept rfl fun _ => by simp [significant]

theorem counted_text {content : List Char} (read : token? text = some (.text content, after)) :
    counted depth fresh text = (counted depth false after).map (.text content :: ·) :=
  counted_kept read fun _ => by simp [significant]

theorem counted_number {value : Nat} (read : token? text = some (.number value, after)) :
    counted depth fresh text = (counted depth false after).map (.number value :: ·) :=
  counted_kept read fun _ => by simp [significant]

theorem counted_name {name : List Char} (read : token? text = some (.name name, after)) :
    counted depth fresh text = (counted depth false after).map (.name name :: ·) :=
  counted_kept read fun _ => by simp [significant]

/-- Text within parentheses whose tokens count as these, whatever follows. -/
def Counts (text : List Char) (found : List Token) : Prop :=
  ∀ rest, counted 1 false (text ++ rest) = (counted 1 false rest).map (found ++ ·)

theorem Counts.nil : Counts [] [] := by
  intro rest
  cases found : counted 1 false rest <;> simp [found]

theorem Counts.append {left right : List Char} {found more : List Token} (one : Counts left found)
    (other : Counts right more) : Counts (left ++ right) (found ++ more) := by
  intro rest
  rw [List.append_assoc, one, other, Option.map_map]
  simp [Function.comp_def]

theorem Counts.blank : Counts [' '] [] := by
  intro rest
  rw [List.singleton_append, counted_blank (.inl (by decide))]
  cases counted 1 false rest <;> rfl

theorem Counts.lineEnd : Counts ['\n'] [] := by
  intro rest
  rw [List.singleton_append, counted_lineEnd_inside]
  cases counted 1 false rest <;> rfl

theorem counts_piecewise : Artifact.Piecewise Counts := ⟨.nil, .append, .blank, .lineEnd⟩

/-! ## Words -/

theorem isHexDigit_of_mem_hexPadded (width n : Nat) :
    ∀ c ∈ hexPadded width n, isHexDigit c = true := by
  intro c member
  obtain ⟨digit, small, rfl⟩ := exists_digit_of_mem_hexPadded width n c member
  rw [isHexDigit, hexValue?_digitChar small]
  rfl

theorem token?_word {word : Int} (isWord : Spirv.isWord word = true) {c : Char}
    (stops : isHexDigit c = false) (rest : List Char) :
    token? (Artifact.wordText word ++ c :: rest) = some (.number word.toNat, c :: rest) := by
  have digits := isHexDigit_of_mem_hexPadded 8 word.toNat
  have read : number? ('x' :: (hexPadded 8 word.toNat ++ c :: rest)) =
      some (.number word.toNat, c :: rest) := by
    simp [number?, takeWhile_upTo digits stops, dropWhile_upTo digits stops, hexPadded_ne_nil,
      hexNumber?_hexPadded]
  rw [Artifact.wordText_of_isWord isWord]
  exact read

theorem counts_word {word : Int} (isWord : Spirv.isWord word = true) :
    Counts (Artifact.wordText word ++ [',']) [.number word.toNat, .mark ','] := by
  intro rest
  have number := token?_word isWord (c := ',') (by decide) rest
  rw [List.append_assoc, List.singleton_append, counted_number number, counted_comma, Option.map_map]
  rfl

def memberTokens (members : List Token) : List Token := members.flatMap fun token => [token, .mark ',']

theorem counts_wordRows {words : List Int} (areWords : ∀ word ∈ words, Spirv.isWord word = true) :
    Counts (Artifact.joinLines (Artifact.wordRows words))
      (memberTokens (words.map fun word => .number word.toNat)) := by
  have counts := counts_piecewise.wordRows fun word member => counts_word (areWords word member)
  rwa [memberTokens, List.flatMap_map]

/-! ## Dependencies -/

theorem counts_path (path : List Char) :
    Counts ("    ".toList ++ Quoted.encode path ++ [','] ++ ['\n'])
      (memberTokens [.text path]) := by
  have other : Quoted.mark path ≠ ',' := by rcases Literal.mark_eq path with h | h <;> rw [h] <;> decide
  have literal : Counts (Quoted.encode path ++ [',']) [.text path, .mark ','] := by
    intro rest
    obtain ⟨q, inside, shown, isMark, read⟩ := Literal.read?_encode path other rest
    have token : token? (Quoted.encode path ++ ',' :: rest) = some (.text path, ',' :: rest) := by
      rw [shown, List.cons_append]
      rcases isMark with rfl | rfl
      · show (Literal.read? '\'' (inside ++ ',' :: rest)).map _ = _
        rw [read]
        rfl
      · show (Literal.read? '"' (inside ++ ',' :: rest)).map _ = _
        rw [read]
        rfl
    rw [List.append_assoc, List.singleton_append, counted_text token, counted_comma, Option.map_map]
    rfl
  have line := (counts_piecewise.indented literal).append Counts.lineEnd
  rw [List.append_nil] at line
  simpa [memberTokens] using line

theorem counts_paths (paths : List String) :
    Counts (Artifact.joinLines (paths.map fun path =>
        "    ".toList ++ Quoted.encode path.toList ++ [',']))
      (memberTokens (paths.map fun path => .text path.toList)) := by
  have counts := counts_piecewise.flatMap fun path (_ : path ∈ paths) => counts_path path.toList
  have found : (paths.flatMap fun path => memberTokens [Token.text path.toList]) =
      memberTokens (paths.map fun path => .text path.toList) := by
    simp [memberTokens, List.flatMap_map]
  rw [found] at counts
  rwa [Artifact.joinLines, List.flatMap_map]

/-! ## Lines -/

/-- A line of a module: the tokens of its text and the statements that they make. A line within
    parentheses goes on to the one that closes them. -/
structure Line (text : List Char) (line : List Token) (found : List Statement) : Prop where
  counted (rest : List Char) :
    counted 0 true (text ++ rest) = (counted 0 true rest).map (line ++ .lineEnd :: ·)
  joined (rest : List Token) :
    joinTexts (line ++ .lineEnd :: rest) = line ++ .lineEnd :: joinTexts rest
  unbroken : ∀ token ∈ line, (token == .lineEnd) = false
  read : line? line = some found

/-- A text of several lines and the statements in it. -/
inductive Lines : List Char → List Statement → Prop where
  | nil : Lines [] []
  | cons {text rest line found more} (one : Line text line found) (others : Lines rest more) :
      Lines (text ++ rest) (found ++ more)

theorem Line.empty : Line "\n".toList [] [] where
  counted rest := counted_lineEnd rest
  joined rest := by simp [joinTexts]
  unbroken := by simp
  read := rfl

theorem readModule_of_lines {text : List Char} {found : List Statement} (lines : Lines text found) :
    readModule text = some found := by
  have parts : ∃ tokens : List Token, ∃ parts : List (List Statement),
      counted 0 true text = some tokens ∧ joinTexts tokens = tokens ∧
      (tokens.splitOnP (· == .lineEnd)).mapM line? = some parts ∧ parts.flatten = found := by
    induction lines with
    | nil => exact ⟨[], [[]], counted_nil true, rfl, by simp [line?], rfl⟩
    | @cons text rest line found more one _ ih =>
        obtain ⟨tokens, parts, counts, joined, read, whole⟩ := ih
        refine ⟨line ++ .lineEnd :: tokens, found :: parts, ?_, ?_, ?_, ?_⟩
        · rw [one.counted, counts, Option.map_some]
        · rw [one.joined, joined]
        · rw [List.splitOnP_append_cons_of_forall_mem one.unbroken .lineEnd rfl, List.mapM_cons, one.read,
            read]
          rfl
        · rw [List.flatten_cons, whole]
  obtain ⟨tokens, parts, counts, joined, read, rfl⟩ := parts
  simp [readModule, counts, joined, read]

/-! ## Assignments -/

def assignment (name : List Char) (members : List Token) : List Token :=
  .name name :: .mark '=' :: .mark '(' :: (memberTokens members ++ [.mark ')'])

theorem token?_name {name : List Char} (named : isName name = true) {c : Char}
    (other : isNamePart c = false) (rest : List Char) :
    token? (name ++ c :: rest) = some (.name name, c :: rest) := by
  cases name with
  | nil => cases named
  | cons first more =>
      obtain ⟨starts, parts⟩ := Bool.and_eq_true_iff.mp named
      have parts : ∀ c ∈ more, isNamePart c = true := List.all_eq_true.mp parts
      have is_not (c : Char) (no : isNameStart c = false) : first ≠ c := by
        rintro rfl
        rw [starts] at no
        cases no
      have notMark : isMark first = false := by
        simp [isMark, is_not '(' rfl, is_not ')' rfl, is_not ',' rfl, is_not '=' rfl]
      simp [token?, is_not ' ' rfl, is_not '\n' rfl, notMark, is_not '#' rfl, is_not '\'' rfl,
        is_not '"' rfl, is_not '0' rfl, starts, takeWhile_upTo parts other, dropWhile_upTo parts other]

theorem counted_assignment {name body : List Char} {members : List Token}
    (named : isName name = true) (counts : Counts body (memberTokens members)) (rest : List Char) :
    counted 0 fresh (name ++ " = (\n".toList ++ body ++ ")\n".toList ++ rest) =
      (counted 0 true rest).map (assignment name members ++ .lineEnd :: ·) := by
  have opened (rest : List Char) : counted 0 fresh (name ++ (" = (\n".toList ++ rest)) =
      (counted 1 false rest).map fun found => .name name :: .mark '=' :: .mark '(' :: found := by
    show counted 0 fresh (name ++ ' ' :: '=' :: ' ' :: '(' :: '\n' :: rest) = _
    rw [counted_name (token?_name named (by decide) _), counted_blank (.inr rfl), counted_equals,
      counted_blank (.inr rfl), counted_opening, counted_lineEnd_inside]
    simp only [Option.map_map, Function.comp_def]
  have closed : counted 1 false (")\n".toList ++ rest) =
      (counted 0 true rest).map fun found => .mark ')' :: .lineEnd :: found := by
    show counted 1 false (')' :: '\n' :: rest) = _
    rw [counted_closing, counted_lineEnd, Option.map_map]
    rfl
  rw [List.append_assoc, List.append_assoc, List.append_assoc, opened, counts, closed, Option.map_map,
    Option.map_map]
  simp only [Function.comp_def, assignment, List.cons_append, List.append_assoc, List.nil_append]

theorem joinTexts_memberTokens (members rest : List Token) :
    joinTexts (memberTokens members ++ rest) = memberTokens members ++ joinTexts rest := by
  induction members with
  | nil => rfl
  | cons token members ih =>
      have comma : joinTexts (.mark ',' :: (memberTokens members ++ rest)) =
          .mark ',' :: (memberTokens members ++ joinTexts rest) := by rw [joinTexts, ih]; simp
      show joinTexts (token :: .mark ',' :: (memberTokens members ++ rest)) =
        token :: .mark ',' :: (memberTokens members ++ joinTexts rest)
      rw [← comma]
      cases token <;> simp [joinTexts]

theorem members?_memberTokens {members : List Token} {atoms : List Atom}
    (are : members.map atom? = atoms.map some) :
    members? (memberTokens members ++ [.mark ')']) = some atoms := by
  induction members generalizing atoms with
  | nil =>
      cases atoms with
      | nil => rfl
      | cons => cases are
  | cons token members ih =>
      cases atoms with
      | nil => cases are
      | cons atom atoms =>
          obtain ⟨first, others⟩ := List.cons.inj are
          have rest := ih others
          show members? (token :: .mark ',' :: (memberTokens members ++ [.mark ')'])) = _
          simp [members?, first, rest]

theorem line?_assignment {name : List Char} {members : List Token} {atoms : List Atom}
    (are : members.map atom? = atoms.map some) :
    line? (assignment name members) = some [.assign name (.tuple atoms)] := by
  have value : value? (.mark '(' :: (memberTokens members ++ [.mark ')'])) = some (.tuple atoms) := by
    have inside := members?_memberTokens are
    cases members with
    | nil => simpa [value?, memberTokens] using inside
    | cons token members =>
        simp only [memberTokens, List.flatMap_cons, List.cons_append, List.nil_append] at inside ⊢
        simp [value?, inside]
  rw [assignment, line?, value]
  rfl

theorem not_lineEnd_of_atom {members : List Token} {atoms : List Atom}
    (are : members.map atom? = atoms.map some) :
    ∀ token ∈ memberTokens members, (token == .lineEnd) = false := by
  intro token member
  obtain ⟨one, inMembers, found⟩ := List.mem_flatMap.mp member
  have isAtom : atom? one ∈ atoms.map some := are ▸ List.mem_map_of_mem inMembers
  obtain ⟨_, _, same⟩ := List.mem_map.mp isAtom
  rcases List.mem_cons.mp found with rfl | comma
  · cases token with
    | lineEnd => cases same
    | _ => rfl
  · rw [List.mem_singleton.mp comma]
    rfl

theorem Line.assignment (name : List Char) {body : List Char} {members : List Token} {atoms : List Atom}
    (named : isName name = true) (counts : Counts body (memberTokens members))
    (are : members.map atom? = atoms.map some) :
    Line (name ++ " = (\n".toList ++ body ++ ")\n".toList) (assignment name members)
      [.assign name (.tuple atoms)] where
  counted rest := counted_assignment named counts rest
  joined rest := by
    simp [Python.assignment, joinTexts, joinTexts_memberTokens]
  unbroken := by
    simpa [Python.assignment, or_imp, forall_and] using not_lineEnd_of_atom are
  read := line?_assignment are

/-! ## The text about the shader -/

theorem ordinary_of_isIdentifier {name : String} (named : isIdentifier name = true) :
    ∀ c ∈ name.toList, c ≠ '\'' ∧ c ≠ '"' := by
  have ofName {text : List Char} (named : isName text = true) : ∀ c ∈ text, c ≠ '\'' ∧ c ≠ '"' := by
    intro c member
    have inName := isNamePart_of_mem named c member
    constructor <;> (rintro rfl; cases inName)
  rcases isIdentifier_iff.mp named with named | ⟨text, divides, named⟩
  · exact ofName named
  · rw [divides, List.forall_mem_append]
    exact ⟨ofName named, Text.forall_of_all (by decide)⟩

def about (name : String) : List Char :=
  "SPIR-V words for shader '".toList ++ (name.toList ++ "'.".toList)

theorem aboutContent_of_isIdentifier {name : String} (named : isIdentifier name = true) :
    aboutContent name.toList = about name := by
  have single : Quoted.mark name.toList = '\'' := by
    have none : name.toList.contains '\'' = false := by
      rw [List.contains_eq_mem, decide_eq_false_iff_not]
      exact fun inName => (ordinary_of_isIdentifier named _ inName).1 rfl
    rw [Quoted.mark, none]
    rfl
  unfold aboutContent about
  simp [single]

theorem not_tripleMark_of_isIdentifier {name : String} (named : isIdentifier name = true) :
    ¬tripleMark <:+: name.toList :=
  fun marks => (ordinary_of_isIdentifier named '"' (marks.subset (by decide))).2 rfl

theorem token?_about {name : List Char} (none : ¬tripleMark <:+: name) (rest : List Char) :
    token? (tripleMark ++ (aboutText name ++ (tripleMark ++ rest))) =
      some (.text (aboutContent name), rest) := by
  have literal := Literal.read?_long (body?_aboutText none rest) (unescape?_aboutText name)
  show (Literal.read? '"' ('"' :: '"' :: (aboutText name ++ (tripleMark ++ rest)))).map _ = _
  rw [literal]
  rfl

theorem Line.about {name : List Char} (none : ¬tripleMark <:+: name) :
    Line (tripleMark ++ (aboutText name ++ (tripleMark ++ "\n".toList))) [.text (aboutContent name)]
      [.text (aboutContent name)] where
  counted rest := by
    simp only [List.append_assoc]
    rw [counted_text (token?_about none _)]
    show (Python.counted 0 false ('\n' :: rest)).map _ = _
    rw [counted_lineEnd, Option.map_map]
    rfl
  joined rest := by simp [joinTexts]
  unbroken := by simp
  read := rfl

theorem map_atom?_words {words : List Int} (areWords : ∀ word ∈ words, Spirv.isWord word = true) :
    (words.map fun word => Token.number word.toNat).map atom? = (words.map Atom.number).map some := by
  rw [List.map_map, List.map_map]
  refine List.map_congr_left fun word member => ?_
  have same : (word.toNat : Int) = word := by
    have isWord := areWords word member
    simp only [Spirv.isWord, Bool.and_eq_true, decide_eq_true_eq] at isWord
    omega
  simp [atom?, same]

end Python

namespace Artifact

open Python

/-- The code of a module: what follows the line of its text. -/
def moduleCode (feedback : Feedback) : List Char :=
  "\n".toList ++
    ("WORDS".toList ++ " = (\n".toList ++ joinLines (wordRows feedback.words) ++ ")\n".toList ++
    ("\n".toList ++
    ("DEPENDENCIES".toList ++ " = (\n".toList ++ joinLines (feedback.dependencies.map fun path =>
      "    ".toList ++ Text.Quoted.encode path.toList ++ [',']) ++ ")\n".toList ++ [])))

theorem renderPython_eq (name : String) (feedback : Feedback) :
    renderPython name feedback =
      "# Generated by shaderbake. Do not edit.".toList ++ "\n".toList ++
        (tripleMark ++ (aboutText name.toList ++ (tripleMark ++ "\n".toList)) ++ moduleCode feedback) := by
  simp only [renderPython, pythonLines, joinLines_append]
  unfold aboutText moduleCode
  simp [joinLines, tripleMark]

theorem readModule_of_unmarked {name : String} (none : ¬tripleMark <:+: name.toList) {feedback : Feedback}
    (areWords : ∀ word ∈ feedback.words, Spirv.isWord word = true) :
    readModule (renderPython name feedback) =
      some [.text (aboutContent name.toList),
        .assign "WORDS".toList (.tuple (feedback.words.map .number)),
        .assign "DEPENDENCIES".toList
          (.tuple (feedback.dependencies.map fun path => .text path.toList))] := by
  have comment : Line ("# Generated by shaderbake. Do not edit.".toList ++ "\n".toList) [] [] :=
    { Line.empty with
      counted := fun rest => (counted_comment rfl).trans (counted_lineEnd rest) }
  have words := Line.assignment "WORDS".toList (by decide) (counts_wordRows areWords)
    (map_atom?_words areWords)
  have atoms : (feedback.dependencies.map fun path => Token.text path.toList).map atom? =
      (feedback.dependencies.map fun path => Atom.text path.toList).map some := by
    rw [List.map_map, List.map_map]
    rfl
  have paths := Line.assignment "DEPENDENCIES".toList (by decide) (counts_paths feedback.dependencies) atoms
  have lines := Lines.cons comment <| .cons (Line.about none) <| .cons .empty <| .cons words <|
    .cons .empty <| .cons paths .nil
  rw [renderPython_eq]
  unfold moduleCode
  exact readModule_of_lines lines

/-- A generated module is read as what it was written from: its words in their order, and its
    dependencies in theirs. -/
theorem readModule_renderPython (name : String) (feedback : Feedback)
    (named : isIdentifier name = true)
    (areWords : ∀ word ∈ feedback.words, Spirv.isWord word = true) :
    readModule (renderPython name feedback) =
      some [.text ("SPIR-V words for shader '".toList ++ (name.toList ++ "'.".toList)),
        .assign "WORDS".toList (.tuple (feedback.words.map .number)),
        .assign "DEPENDENCIES".toList
          (.tuple (feedback.dependencies.map fun path => .text path.toList))] := by
  have read := readModule_of_unmarked (not_tripleMark_of_isIdentifier named) areWords
  rw [aboutContent_of_isIdentifier named] at read
  exact read

/-- A path with both marks, a backslash, a line end and characters that cannot be printed, and more
    words than one row holds. -/
theorem readModule_of_hard_path :
    readModule (renderPython "blit"
      ⟨List.replicate 9 0xFFFFFFFF, ["a'b\"c\\d\n\u0085\u2028.glsl", "", "x.inc"]⟩) =
      some [.text "SPIR-V words for shader 'blit'.".toList,
        .assign "WORDS".toList (.tuple (List.replicate 9 (.number 0xFFFFFFFF))),
        .assign "DEPENDENCIES".toList (.tuple [.text "a'b\"c\\d\n\u0085\u2028.glsl".toList, .text [],
          .text "x.inc".toList])] :=
  readModule_renderPython "blit" ⟨_, _⟩ (by decide) (by decide)

/-! ## What of a name is run -/

/-- A module from its text on, without the marks that open it. -/
def fromAbout (name : String) (feedback : Feedback) : List Char :=
  aboutText name.toList ++ (tripleMark ++ '\n' :: moduleCode feedback)

theorem renderPython_eq_fromAbout (name : String) (feedback : Feedback) :
    renderPython name feedback =
      "# Generated by shaderbake. Do not edit.\n".toList ++ (tripleMark ++ fromAbout name feedback) := by
  rw [renderPython_eq, fromAbout]
  simp

/-- The text about the shader opens on the second line of a module and stands on that line, whatever the
    shader is called. It is closed by the last three marks of the line if and only if the name does not
    hold three double marks in a row; then the module says what it is made of and runs nothing else. The
    first three marks in a name close it too early: what of the name is behind them is no text. -/
theorem renderPython_runs_of_name (name : String) (feedback : Feedback) :
    renderPython name feedback =
        "# Generated by shaderbake. Do not edit.\n".toList ++ (tripleMark ++ fromAbout name feedback) ∧
      fromAbout name feedback =
        aboutText name.toList ++ (tripleMark ++ '\n' :: moduleCode feedback) ∧
      (∀ c ∈ aboutText name.toList, c ≠ '\n' ∧ c ≠ '\r') ∧
      (Text.Literal.body? tripleMark (fromAbout name feedback) =
          some (aboutText name.toList, '\n' :: moduleCode feedback) ↔
        ¬tripleMark <:+: name.toList) ∧
      (¬tripleMark <:+: name.toList → (∀ word ∈ feedback.words, Spirv.isWord word = true) →
        readModule (renderPython name feedback) =
          some [.text (aboutContent name.toList),
            .assign "WORDS".toList (.tuple (feedback.words.map .number)),
            .assign "DEPENDENCIES".toList
              (.tuple (feedback.dependencies.map fun path => .text path.toList))]) ∧
      (∀ before behind, name.toList = before ++ (tripleMark ++ behind) →
        ¬tripleMark <:+: before ++ ['"', '"'] →
        Text.Literal.body? tripleMark (fromAbout name feedback) =
          some ("SPIR-V words for shader '".toList ++ inSingle before,
            inSingle behind ++ ("'.".toList ++ (tripleMark ++ '\n' :: moduleCode feedback)))) := by
  refine ⟨renderPython_eq_fromAbout name feedback, rfl, oneLine_aboutText name.toList,
    body?_aboutText_iff _ _, fun none areWords => readModule_of_unmarked none areWords, ?_⟩
  intro before behind divides first
  rw [fromAbout, divides]
  exact body?_aboutText_of_marks first _

/-- A name with marks of both kinds and a line end, but no three double marks in a row. -/
theorem readModule_of_mixed_marks :
    ¬tripleMark <:+: "it's \"\"\n".toList ∧ (∀ word ∈ [0x07230203], Spirv.isWord word = true) ∧
      readModule (renderPython "it's \"\"\n" ⟨[0x07230203], []⟩) =
        some [.text "SPIR-V words for shader 'it's \"\"\n'.".toList,
          .assign "WORDS".toList (.tuple [.number 0x07230203]), .assign "DEPENDENCIES".toList (.tuple [])] := by
  have none : ¬tripleMark <:+: "it's \"\"\n".toList := by decide
  have areWords : ∀ word ∈ [(0x07230203 : Int)], Spirv.isWord word = true := by decide
  have ⟨_, _, _, _, read, _⟩ := renderPython_runs_of_name "it's \"\"\n" ⟨[0x07230203], []⟩
  exact ⟨none, areWords, read none areWords⟩

/-- A name that closes the text, calls a function and opens another text. -/
theorem call_in_name :
    Text.Literal.body? tripleMark (fromAbout "\"\"\",print(1),\"\"\"" ⟨[0x07230203], []⟩) =
        some ("SPIR-V words for shader '".toList,
          ",print(1),\"\"\"'.\"\"\"\n".toList ++ moduleCode ⟨[0x07230203], []⟩) ∧
      ¬ ∀ name feedback, Text.Literal.body? tripleMark (fromAbout name feedback) =
        some (aboutText name.toList, '\n' :: moduleCode feedback) := by
  have marks : tripleMark <:+: "\"\"\",print(1),\"\"\"".toList := ⟨[], ",print(1),\"\"\"".toList, rfl⟩
  have first : ¬tripleMark <:+: [] ++ ['"', '"'] := by decide
  refine ⟨?_, fun closed => (body?_aboutText_iff _ _).mp (closed _ ⟨[0x07230203], []⟩) marks⟩
  exact @body?_aboutText_of_marks [] ",print(1),\"\"\"".toList first _

end Artifact

end ShaderBuild
