import ShaderBuild.Directive.Parser
import ShaderBuild.Proofs.Outcome
import ShaderBuild.Proofs.Text.Names
import ShaderBuild.Proofs.Text.Parts

/-! # How tokens are spelled

Each kind of token has its own spelling, and every token that is read off a text is spelled in the
way of its kind. The other way round, words that are spelled in the way of their kinds and stand
apart by single spaces are read as these very words, each at its place.
-/

namespace ShaderBuild.Directive

/-- Text that may stand between quotation marks: every quotation mark in it has a backslash before
    it, and every backslash a character after it. -/
def isGuarded : List Char → Bool
  | [] => true
  | '\\' :: _ :: rest => isGuarded rest
  | c :: rest => c != '"' && c != '\\' && isGuarded rest

/-- The texts that a token of a kind can have. -/
inductive Spells : Kind → List Char → Prop where
  | ident {text : List Char} (name : isName text = true) : Spells .ident text
  | string {body : List Char} (guarded : isGuarded body = true) :
      Spells .string ('"' :: (body ++ ['"']))
  | number {first : Char} {rest : List Char} (digit : first.isDigit = true)
      (parts : rest.all isNumberPart = true) : Spells .number (first :: rest)
  | equals : Spells .equals ['=']
  | separator : Spells .separator [',']

/-- Whether a character can go on with a token of a kind. -/
def Kind.goesOn : Kind → Char → Bool
  | .ident => isIdentPart
  | .number => isNumberPart
  | .string | .equals | .separator => fun _ => false

/-! ## What is read is spelled -/

theorem closeString?_sound {text closed after} (h : closeString? text = some (closed, after)) :
    text = closed ++ after ∧ ∃ body, closed = body ++ ['"'] ∧ isGuarded body = true := by
  fun_induction closeString? text generalizing closed after with
  | case1 => cases h
  | case2 rest =>
      cases h
      exact ⟨rfl, [], rfl, rfl⟩
  | case3 c rest ih =>
      obtain ⟨⟨inner, behind⟩, read, same⟩ := Option.map_eq_some_iff.mp h
      cases same
      obtain ⟨rfl, body, rfl, guarded⟩ := ih read
      exact ⟨rfl, '\\' :: c :: body, rfl, by simpa only [isGuarded] using guarded⟩
  | case4 => cases h
  | case5 c rest notQuote _ notBackslash ih =>
      obtain ⟨⟨inner, behind⟩, read, same⟩ := Option.map_eq_some_iff.mp h
      cases same
      obtain ⟨rfl, body, rfl, guarded⟩ := ih read
      refine ⟨rfl, c :: body, rfl, ?_⟩
      rw [isGuarded.eq_3 c body (fun _ _ backslash _ => notBackslash backslash)]
      simpa [notBackslash, guarded] using notQuote

/-- A lexeme is the front of the text, and a token is spelled in the way of its kind. It ends where the
    text does not go on with it. -/
theorem Lexeme.read_sound {first rest kind text after}
    (h : Lexeme.read first rest = .token kind text after) :
    first :: rest = text ++ after ∧ Spells kind text ∧ ∀ c ∈ after.head?, kind.goesOn c = false := by
  simp only [Lexeme.read, Lexeme.run] at h
  split at h
  · cases h
  · split at h
    · next quote =>
        subst quote
        split at h
        · next closed behind read =>
            cases h
            obtain ⟨rfl, body, rfl, guarded⟩ := closeString?_sound read
            exact ⟨rfl, .string guarded, fun _ _ => rfl⟩
        · cases h
    · split at h
      · next digit =>
          cases h
          exact ⟨by simp, .number digit List.all_takeWhile, fun c => Text.not_of_head?_dropWhile⟩
      · split at h
        · next start =>
            cases h
            have name : isName (first :: rest.takeWhile isIdentPart) = true := by
              simp only [isName, Bool.and_eq_true]
              exact ⟨start, List.all_takeWhile⟩
            exact ⟨by simp, .ident name, fun c => Text.not_of_head?_dropWhile⟩
        · split at h
          · next sign =>
              cases h
              exact ⟨by simp [sign], .equals, fun _ _ => rfl⟩
          · split at h
            · next comma =>
                cases h
                exact ⟨by simp [comma], .separator, fun _ _ => rfl⟩
            · cases h

/-- Every token of a scanned text is spelled in the way of its kind. -/
theorem scanFrom_spells {fuel offset text} :
    ∀ token ∈ (scanFrom fuel offset text).tokens, Spells token.kind token.text.toList := by
  fun_induction scanFrom fuel offset text with
  | case1 | case2 | case5 => simp
  | case3 _ _ _ _ _ _ _ ih => exact ih
  | case4 fuel offset first rest kind text after read ih =>
      intro token member
      rcases List.mem_cons.mp member with rfl | member
      · simpa using (Lexeme.read_sound read).2.1
      · exact ih token member

/-! ## What is spelled is read -/

theorem closeString?_guarded {body} (h : isGuarded body = true) (after : List Char) :
    closeString? (body ++ '"' :: after) = some (body ++ ['"'], after) := by
  fun_induction isGuarded body with
  | case1 => rfl
  | case2 c rest ih => simp [closeString?, ih h]
  | case3 c rest _ ih =>
      simp only [Bool.and_eq_true, bne_iff_ne] at h
      obtain ⟨⟨notQuote, notBackslash⟩, guarded⟩ := h
      have plain := closeString?.eq_4 c (rest ++ '"' :: after) notQuote
        fun _ _ backslash _ => notBackslash backslash
      rw [List.cons_append, plain]
      simp [notBackslash, ih guarded]

/-- The printing characters of the basic alphabet are not blank. -/
theorem isBlank_eq_false {c : Char} (low : 0x21 ≤ c.toNat) (high : c.toNat ≤ 0x7E) :
    Text.isBlank c = false := by
  simp [Text.isBlank, Text.Ranges.contains, Text.blankRanges]
  omega

theorem toNat_of_isDigit {c : Char} (h : c.isDigit = true) : 48 ≤ c.toNat ∧ c.toNat ≤ 57 := by
  simpa [Char.isDigit, UInt32.le_iff_toNat_le] using h

theorem toNat_of_isNameStart {c : Char} (h : isNameStart c = true) :
    (65 ≤ c.toNat ∧ c.toNat ≤ 90) ∨ (97 ≤ c.toNat ∧ c.toNat ≤ 122) ∨ c.toNat = 95 := by
  have ranges : (decide (c.val ≥ 65 ∧ c.val ≤ 90) || c.val ≥ 97 && c.val ≤ 122 || c == '_') = true := h
  simp only [Bool.or_eq_true, beq_iff_eq, Bool.and_eq_true, decide_eq_true_eq,
    UInt32.le_iff_toNat_le, ge_iff_le] at ranges
  rcases ranges with (upper | lower) | rfl
  · exact .inl upper
  · exact .inr (.inl lower)
  · exact .inr (.inr rfl)

/-- A spelled token is read as itself if the text after it does not go on with it. -/
theorem Lexeme.read_spelled {kind first rest after} (h : Spells kind (first :: rest))
    (next : ∀ c ∈ after.head?, kind.goesOn c = false) :
    Lexeme.read first (rest ++ after) = .token kind (first :: rest) after := by
  generalize shape : first :: rest = text at h
  cases h with
  | ident name =>
      subst shape
      simp only [isName, Bool.and_eq_true] at name
      have range := toNat_of_isNameStart name.1
      have visible : Text.isBlank first = false := isBlank_eq_false (by omega) (by omega)
      have notQuote : first ≠ '"' := by rintro rfl; simp at range
      have notDigit : first.isDigit = false := by
        rw [Bool.eq_false_iff]
        intro digit
        have := toNat_of_isDigit digit
        omega
      have start : isIdentStart first = true := name.1
      have parts : rest.all isIdentPart = true := name.2
      obtain ⟨taken, left⟩ := Text.takeWhile_append_of_next (List.all_eq_true.mp parts) next
      simp [read, run, visible, notQuote, notDigit, start, taken, left]
  | string guarded =>
      obtain ⟨rfl, rfl⟩ := List.cons.inj shape
      simp [read, Text.isBlank, Text.Ranges.contains, Text.blankRanges, closeString?_guarded guarded]
  | number digit parts =>
      obtain ⟨rfl, rfl⟩ := List.cons.inj shape
      have range := toNat_of_isDigit digit
      have visible : Text.isBlank first = false := isBlank_eq_false (by omega) (by omega)
      have notQuote : first ≠ '"' := by rintro rfl; simp at range
      obtain ⟨taken, left⟩ := Text.takeWhile_append_of_next (List.all_eq_true.mp parts) next
      simp [read, run, visible, notQuote, digit, taken, left]
  | equals | separator =>
      obtain ⟨rfl, rfl⟩ := List.cons.inj shape
      rfl

theorem Spells.head_visible {kind text} (h : Spells kind text) :
    ∃ first rest, text = first :: rest ∧ Text.isBlank first = false := by
  cases h with
  | @ident text name =>
      cases text with
      | nil => cases name
      | cons first rest =>
          simp only [isName, Bool.and_eq_true] at name
          have range := toNat_of_isNameStart name.1
          exact ⟨first, rest, rfl, isBlank_eq_false (by omega) (by omega)⟩
  | string => exact ⟨_, _, rfl, rfl⟩
  | number digit =>
      have range := toNat_of_isDigit digit
      exact ⟨_, _, rfl, isBlank_eq_false (by omega) (by omega)⟩
  | equals | separator => exact ⟨_, _, rfl, rfl⟩

/-- A token without its place. -/
structure Word where
  kind : Kind
  text : List Char
  deriving Repr, DecidableEq

namespace Word

def Spelled (word : Word) : Prop := Spells word.kind word.text

/-- Words as a text, with a space between neighbours. -/
def spaced (words : List Word) : List Char := Text.joinWith [' '] (words.map (·.text))

def token (word : Word) (offset : Nat) : Token := ⟨word.kind, String.ofList word.text, offset⟩

/-- Where the next word stands, a space apart. -/
def next (word : Word) (offset : Nat) : Nat := offset + word.text.length + 1

/-- Words as tokens, the first of them at an offset and a space between neighbours. -/
def placed (offset : Nat) : List Word → List Token
  | [] => []
  | word :: words => word.token offset :: placed (word.next offset) words

theorem spaced_cons (word next : Word) (words : List Word) :
    spaced (word :: next :: words) = word.text ++ ' ' :: spaced (next :: words) := by
  simp [spaced, Text.joinWith]

/-- Words that stand apart by single spaces are read as they are. -/
theorem scanFrom_spaced {words : List Word} (spelled : ∀ word ∈ words, word.Spelled) :
    ∀ fuel offset, (spaced words).length ≤ fuel →
      scanFrom fuel offset (spaced words) = ⟨placed offset words, none⟩ := by
  induction words with
  | nil => intro fuel offset _; cases fuel <;> rfl
  | cons word words ih =>
      intro fuel offset enough
      obtain ⟨kind, text⟩ := word
      have own : Spells kind text := spelled ⟨kind, text⟩ (by simp)
      obtain ⟨first, rest, rfl, -⟩ := own.head_visible
      cases words with
      | nil =>
          simp only [spaced, List.map_cons, List.map_nil, Text.joinWith, List.length_cons] at enough
          obtain ⟨fuel, rfl⟩ : ∃ n, fuel = n + 1 := ⟨fuel - 1, by omega⟩
          have read : Lexeme.read first rest = .token kind (first :: rest) [] := by
            simpa using @Lexeme.read_spelled _ _ _ [] own (by simp)
          have done : scanFrom fuel (offset + (first :: rest).length) [] = ⟨[], none⟩ := by
            cases fuel <;> rfl
          simp only [spaced, List.map_cons, List.map_nil, Text.joinWith, scanFrom, read, done,
            Scan.push, placed, token]
      | cons next words =>
          rw [spaced_cons] at enough ⊢
          simp only [List.cons_append, List.length_cons, List.length_append] at enough
          obtain ⟨fuel, rfl⟩ : ∃ n, fuel = n + 2 := ⟨fuel - 2, by omega⟩
          obtain ⟨head, tail, shape, visible⟩ := (spelled next (by simp)).head_visible
          obtain ⟨more, startsWith⟩ : ∃ more, spaced (next :: words) = head :: more := by
            cases words with
            | nil => exact ⟨tail, by simp [spaced, Text.joinWith, shape]⟩
            | cons _ _ => exact ⟨_, by rw [spaced_cons, shape, List.cons_append]⟩
          have read : Lexeme.read first (rest ++ ' ' :: spaced (next :: words)) =
              .token kind (first :: rest) (' ' :: spaced (next :: words)) :=
            Lexeme.read_spelled own (by cases kind <;> simp [Kind.goesOn, isIdentPart, isNumberPart])
          have gap : Lexeme.read ' ' (spaced (next :: words)) =
              .blank [' '] (spaced (next :: words)) := by
            rw [startsWith]
            simp [Lexeme.read, Lexeme.run, visible]
          have others := ih (fun word member => spelled word (List.mem_cons_of_mem _ member)) fuel
            (offset + (first :: rest).length + 1) (by omega)
          simp only [List.cons_append, scanFrom, read, gap, List.length_singleton, others, Scan.push]
          rfl

theorem tokenize_spaced {words : List Word} (spelled : ∀ word ∈ words, word.Spelled) :
    tokenize (String.ofList (spaced words)) = .ok (placed 0 words) := by
  have read := scanFrom_spaced spelled (spaced words).length 0 (Nat.le_refl _)
  simp [tokenize, scan, read]

end Word

end ShaderBuild.Directive
