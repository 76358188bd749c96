import ShaderBuild.Proofs.Directive.Lexing

/-! # Nothing is lost in reading

A text that can be read is its tokens with blanks around them, and each token reaches as far as its kind
allows. A text that cannot be read has a front that can, and behind it a character that is not blank and
that no token starts with.
-/

namespace ShaderBuild.Directive

/-! ## Longest tokens -/

/-- What follows a token goes on with it if and only if the two together are one token. -/
theorem Spells.append_iff {kind : Kind} {word : List Char} (h : Spells kind word) (c : Char) :
    Spells kind (word ++ [c]) ↔ kind.goesOn c = true := by
  cases h with
  | ident name =>
      cases word with
      | nil => cases name
      | cons first rest =>
          have longer : isName (first :: rest ++ [c]) = true ↔ isIdentPart c = true := by
            simp only [isName, Bool.and_eq_true] at name
            simp [isName, name, isNamePart, isIdentPart]
          rw [Kind.goesOn, ← longer]
          refine ⟨fun spelled => ?_, .ident⟩
          cases spelled with
          | ident name => exact name
  | @number first rest digit parts =>
      have longer : (rest ++ [c]).all isNumberPart = true ↔ isNumberPart c = true := by
        rw [List.all_append, parts]
        simp
      rw [Kind.goesOn, ← longer, List.cons_append]
      refine ⟨fun spelled => ?_, .number digit⟩
      cases spelled with
      | number _ parts => exact parts
  | @string body guarded =>
      refine iff_of_false (fun longer => ?_) (by simp [Kind.goesOn])
      generalize shape : '"' :: (body ++ ['"']) ++ [c] = word at longer
      cases longer with
      | @string other guardedToo =>
          -- the string is closed at its own mark already, so a longer one would hold that mark
          simp only [List.cons_append, List.append_assoc, List.nil_append, List.cons.injEq, true_and]
            at shape
          have own := closeString?_guarded guarded [c]
          rw [shape, closeString?_guarded guardedToo []] at own
          simp at own
  | equals | separator =>
      refine iff_of_false (fun longer => ?_) (by simp [Kind.goesOn])
      cases longer

/-! ## Texts of tokens -/

/-- A text that consists of tokens, each at its place, and of blanks before, between and behind them. No
    token could be longer by the character that follows it. -/
inductive Woven : Nat → List Token → List Char → Prop where
  | gap {offset : Nat} {gap : List Char} (blank : ∀ c ∈ gap, Text.isBlank c = true) :
      Woven offset [] gap
  | token {offset : Nat} {kind : Kind} {gap word rest : List Char} {tokens : List Token}
      (blank : ∀ c ∈ gap, Text.isBlank c = true) (spelled : Spells kind word)
      (longest : ∀ c ∈ rest.head?, ¬ Spells kind (word ++ [c]))
      (others : Woven (offset + gap.length + word.length) tokens rest) :
      Woven offset (⟨kind, String.ofList word, (offset + gap.length : Nat)⟩ :: tokens)
        (gap ++ (word ++ rest))

variable {offset : Nat} {text left gap : List Char} {tokens : List Token}

theorem Woven.behind_gap (blank : ∀ c ∈ gap, Text.isBlank c = true)
    (h : Woven (offset + gap.length) tokens text) : Woven offset tokens (gap ++ text) := by
  cases h with
  | gap more => exact .gap (List.forall_mem_append.mpr ⟨blank, more⟩)
  | @token _ kind inner word rest _ more spelled longest others =>
      have place : offset + gap.length + inner.length = offset + (gap ++ inner).length := by
        rw [List.length_append, Nat.add_assoc]
      rw [place] at others ⊢
      rw [← List.append_assoc]
      exact .token (List.forall_mem_append.mpr ⟨blank, more⟩) spelled longest others

theorem Lexes.behind_gap (blank : ∀ c ∈ gap, Text.isBlank c = true)
    (h : Lexes (offset + gap.length) text tokens left) : Lexes offset (gap ++ text) tokens left := by
  induction gap generalizing offset with
  | nil => exact h
  | cons c gap ih =>
      obtain ⟨first, others⟩ := List.forall_mem_cons.mp blank
      rw [List.length_cons, Nat.add_comm gap.length, ← Nat.add_assoc] at h
      exact (ih others h).behind_blank first

/-- What has been read is woven of the tokens, up to where reading gets stuck. -/
theorem Lexes.woven (h : Lexes offset text tokens left) :
    ∃ front, text = front ++ left ∧ Woven offset tokens front := by
  induction h with
  | done | stuck => exact ⟨[], rfl, .gap (by simp)⟩
  | @blank offset first rest part after left tokens read _ ih =>
      obtain ⟨front, rfl, woven⟩ := ih
      obtain ⟨same, -, blank⟩ := Lexeme.read_blank read
      exact ⟨part ++ front, by rw [same, List.append_assoc], woven.behind_gap blank⟩
  | @token offset first rest part after left kind tokens read _ ih =>
      obtain ⟨front, rfl, woven⟩ := ih
      obtain ⟨same, spelled, ends⟩ := Lexeme.read_sound read
      have longest : ∀ c ∈ front.head?, ¬ Spells kind (part ++ [c]) := by
        intro c next longer
        have stops := ends c (by rw [List.head?_append, Option.mem_def.mp next]; rfl)
        rw [(spelled.append_iff c).mp longer] at stops
        cases stops
      exact ⟨part ++ front, by rw [same, List.append_assoc],
        @Woven.token offset kind [] part front tokens (by simp) spelled longest woven⟩

/-- What is woven of tokens is read as these tokens. -/
theorem Woven.lexes (h : Woven offset tokens text) : Lexes offset text tokens [] := by
  induction h with
  | @gap offset gap blank => simpa using @Lexes.behind_gap offset [] [] gap [] blank .done
  | @token offset kind gap word rest tokens blank spelled longest _ ih =>
      refine Lexes.behind_gap blank ?_
      obtain ⟨first, more, rfl, -⟩ := spelled.head_visible
      have ends : ∀ c ∈ rest.head?, kind.goesOn c = false := by
        intro c next
        exact Bool.eq_false_iff.mpr (mt (spelled.append_iff c).mpr (longest c next))
      exact .token (Lexeme.read_spelled spelled ends) ih

theorem tokenize_eq_ok_iff_woven {text : String} :
    tokenize text = .ok tokens ↔ Woven 0 tokens text.toList := by
  rw [tokenize_eq_ok_iff]
  constructor
  · intro lexes
    obtain ⟨front, same, woven⟩ := lexes.woven
    rwa [same, List.append_nil]
  · exact Woven.lexes

/-! ## Blanks at the end -/

theorem isBlank_of_isNumberPart {c : Char} (part : isNumberPart c = true) : Text.isBlank c = false := by
  have cases : isNameStart c = true ∨ c.isDigit = true ∨ c = '.' := by
    simp only [isNumberPart, Char.isAlphanum, Bool.or_eq_true, beq_iff_eq] at part
    simp only [isNameStart, Bool.or_eq_true, beq_iff_eq]
    tauto
  rcases cases with start | digit | rfl
  · have range := toNat_of_isNameStart start
    exact isBlank_eq_false (by omega) (by omega)
  · have range := toNat_of_isDigit digit
    exact isBlank_eq_false (by omega) (by omega)
  · rfl

/-- No token ends in a blank. -/
theorem Spells.last_visible {kind : Kind} {word : List Char} (h : Spells kind word) :
    ∀ c ∈ word.getLast?, Text.isBlank c = false := by
  intro c last
  have member := List.mem_of_getLast? last
  cases h with
  | ident name =>
      have part : isNamePart c = true := isNamePart_of_mem name c member
      exact isBlank_of_isNumberPart (Bool.or_eq_true_iff.mpr (.inl part))
  | @number first rest digit parts =>
      rcases List.mem_cons.mp member with rfl | inRest
      · exact isBlank_of_isNumberPart (by simp [isNumberPart, Char.isAlphanum, digit])
      · exact isBlank_of_isNumberPart (List.all_eq_true.mp parts c inRest)
  | @string body guarded =>
      rw [← List.cons_append, List.getLast?_concat] at last
      cases last
      rfl
  | equals | separator =>
      cases List.mem_singleton.mp member
      rfl

/-- A token and what follows it lie in a text with blanks behind it: the token in the text itself. -/
theorem Spells.before_gap {kind : Kind} {word before rest : List Char} (h : Spells kind word)
    (blank : ∀ c ∈ gap, Text.isBlank c = true) (same : text ++ gap = before ++ (word ++ rest)) :
    ∃ left, text = before ++ (word ++ left) ∧ rest = left ++ gap := by
  rw [← List.append_assoc] at same
  rcases List.append_eq_append_iff.mp same with ⟨beyond, ends, split⟩ | ⟨left, ends, split⟩
  · obtain ⟨first, more, rfl, -⟩ := h.head_visible
    cases beyond with
    | nil => exact ⟨[], by simpa using ends.symm, by simpa using split.symm⟩
    | cons c beyond =>
        -- the last character of the token would be one of the blanks
        have last : (first :: more).getLast? = (c :: beyond).getLast? := by
          rw [← List.getLast?_append_of_ne_nil before (List.cons_ne_nil first more), ends,
            List.getLast?_append_of_ne_nil text (List.cons_ne_nil c beyond)]
        have isLast := List.getLast?_eq_some_getLast (List.cons_ne_nil c beyond)
        generalize (c :: beyond).getLast (List.cons_ne_nil c beyond) = d at isLast
        have visible := h.last_visible d (last.trans isLast)
        rw [blank d (split ▸ List.mem_append_left _ (List.mem_of_getLast? isLast))] at visible
        cases visible
  · exact ⟨left, by rw [ends, List.append_assoc], split⟩

/-- Blanks at the end of a text change nothing in it. -/
theorem woven_append_gap_iff (blank : ∀ c ∈ gap, Text.isBlank c = true) :
    Woven offset tokens (text ++ gap) ↔ Woven offset tokens text := by
  constructor
  · intro h
    generalize same : text ++ gap = whole at h
    induction h generalizing text with
    | gap all => exact .gap fun c member => all c (same ▸ List.mem_append_left _ member)
    | token before spelled longest _ ih =>
        obtain ⟨left, rfl, rfl⟩ := spelled.before_gap blank same
        refine .token before spelled (fun c next => longest c ?_) (ih rfl)
        rw [List.head?_append, Option.mem_def.mp next]
        rfl
  · intro h
    induction h with
    | gap all => exact .gap (List.forall_mem_append.mpr ⟨all, blank⟩)
    | @token offset kind before word rest tokens beforeBlank spelled longest _ ih =>
        have shape : before ++ (word ++ rest) ++ gap = before ++ (word ++ (rest ++ gap)) := by simp
        rw [shape]
        refine .token beforeBlank spelled (fun c next => ?_) ih
        cases rest with
        | nil =>
            intro longer
            have visible := longer.last_visible c List.getLast?_concat
            rw [blank c (List.mem_of_head? next)] at visible
            cases visible
        | cons d rest => exact longest c next

theorem tokenize_append_gap_iff {text gap : String} (blank : ∀ c ∈ gap.toList, Text.isBlank c = true) :
    tokenize (text ++ gap) = .ok tokens ↔ tokenize text = .ok tokens := by
  rw [tokenize_eq_ok_iff_woven, tokenize_eq_ok_iff_woven, String.toList_append, woven_append_gap_iff blank]

/-! ## Where no token starts -/

/-- No quotation mark follows that ends a string: each one has a backslash before it that takes its
    meaning away. -/
def NeverCloses (rest : List Char) : Prop := ∀ body, isGuarded body = true → ¬ body ++ ['"'] <+: rest

theorem neverCloses_of_closeString? {rest : List Char} (none : closeString? rest = none) :
    NeverCloses rest := by
  rintro body guarded ⟨after, rfl⟩
  rw [List.append_assoc, List.singleton_append, closeString?_guarded guarded] at none
  cases none

theorem Lexeme.read_refused {first : Char} {rest : List Char} (h : read first rest = .refused) :
    (first = '"' → NeverCloses rest) ∧ first.isDigit = false ∧ isIdentStart first = false ∧
      first ≠ '=' ∧ first ≠ ',' := by
  simp only [read, run] at h
  repeat' split at h
  all_goals try cases h
  · next quote _ none =>
      subst quote
      exact ⟨fun _ => neverCloses_of_closeString? none, rfl, rfl, by decide, by decide⟩
  · next quote digit start sign comma =>
      exact ⟨fun same => (quote same).elim, by simpa using digit, by simpa using start, sign, comma⟩

/-- No token of any kind starts where reading gets stuck. -/
theorem not_prefix_of_refused {first : Char} {rest : List Char}
    (h : Lexeme.read first rest = .refused) {kind : Kind} {word : List Char}
    (spelled : Spells kind word) : ¬ word <+: first :: rest := by
  obtain ⟨quote, digit, start, sign, comma⟩ := Lexeme.read_refused h
  rintro ⟨after, same⟩
  cases spelled with
  | ident name =>
      cases word with
      | nil => cases name
      | cons c more =>
          obtain ⟨rfl, -⟩ := List.cons.inj same
          simp only [isName, Bool.and_eq_true] at name
          exact Bool.false_ne_true (start.symm.trans name.1)
  | string guarded =>
      obtain ⟨mark, same⟩ := List.cons.inj same
      exact quote mark.symm _ guarded ⟨after, same⟩
  | number starts =>
      obtain ⟨rfl, -⟩ := List.cons.inj same
      exact Bool.false_ne_true (digit.symm.trans starts)
  | equals => exact sign (List.cons.inj same).1.symm
  | separator => exact comma (List.cons.inj same).1.symm

/-- An error of reading tells where it got stuck: how many tokens stand before, at which character, and
    the word that stands there. -/
structure StuckAt (text : List Char) (tokens : List Token) (error : SyntaxError) (front : List Char)
    (first : Char) (rest : List Char) : Prop where
  split : text = front ++ first :: rest
  offset : error.offset = front.length
  index : error.index = tokens.length
  /-- What stands before is read alone, as the same tokens. -/
  alone : tokenize (String.ofList front) = .ok tokens
  visible : Text.isBlank first = false
  noToken : ∀ kind word, Spells kind word → ¬ word <+: first :: rest
  unterminated : error.mistake.text = "unterminated string literal" ↔ first = '"' ∧ NeverCloses rest
  unexpected : error.mistake.text = "unexpected character" ↔ ¬ (first = '"' ∧ NeverCloses rest)
  word : error.token.toList = (first :: rest).takeWhile fun c => !Text.isBlank c
  someWord : error.token ≠ ""

theorem Lexes.stuckAt {text : String} {first : Char} {rest : List Char}
    (h : Lexes 0 text.toList tokens (first :: rest)) :
    ∃ error front, tokenize text = .error error ∧ (scan text).tokens = tokens ∧
      StuckAt text.toList tokens error front first rest := by
  obtain ⟨front, left, same, lexes, stop⟩ := @lexes_scanFrom _ 0 _ (Nat.le_of_eq text.length_toList)
  obtain ⟨rfl, rfl⟩ := h.unique lexes
  obtain ⟨other, again, woven⟩ := h.woven
  obtain rfl : front = other := List.append_cancel_right (same.symm.trans again)
  have visible := Lexeme.isBlank_of_refused h.refused
  have closes := (Lexeme.read_refused h.refused).1
  have shown : Text.firstWord (first :: rest) = (first :: rest).takeWhile fun c => !Text.isBlank c := by
    rw [Text.firstWord, Text.trimLeft_cons visible]
  generalize counted : (scanFrom text.length 0 text.toList).tokens.length = count
  have blamed := mistake_of_firstWord visible rest (0 + front.length) count
  refine ⟨BadLexeme.toError ⟨String.ofList (Text.firstWord (first :: rest)), 0 + front.length⟩ count,
    front, by simp [tokenize, scan, stop, counted], rfl, ?_⟩
  generalize found : Text.firstWord (first :: rest) = word at blamed shown ⊢
  exact {
    split := same
    offset := by rw [BadLexeme.toError, Nat.zero_add]
    index := counted.symm
    alone := tokenize_eq_ok_iff_woven.mpr (by rwa [String.toList_ofList])
    visible
    noToken := fun _ _ => not_prefix_of_refused h.refused
    unterminated := by
      rw [blamed]
      split
      · next quote => exact iff_of_true rfl ⟨quote, closes quote⟩
      · next quote => exact iff_of_false (by decide) fun both => quote both.1
    unexpected := by
      rw [blamed]
      split
      · next quote => exact iff_of_false (by decide) (not_not.mpr ⟨quote, closes quote⟩)
      · next quote => exact iff_of_true rfl fun both => quote both.1
    word := by rw [BadLexeme.toError, String.toList_ofList, shown]
    someWord := by
      have some : word ≠ [] := by simp [shown, visible]
      simpa [BadLexeme.toError] using some }

/-- A text is read without loss: either it is woven of its tokens, which stand one behind the other, or
    the error tells the first place at which no token starts and what can be read before it. -/
theorem tokenize_lossless (text : String) :
    (∃ tokens, tokenize text = .ok tokens ∧ Woven 0 tokens text.toList ∧
      tokens.Pairwise (·.offset < ·.offset) ∧
      ∀ token ∈ tokens, ∃ place : Nat,
        token.offset = place ∧ token.text.toList <+: text.toList.drop place) ∨
    ∃ error front first rest, tokenize text = .error error ∧
      StuckAt text.toList (scan text).tokens error front first rest := by
  rcases tokenize_cases text with ⟨tokens, done, lexes⟩ | ⟨_, tokens, first, rest, -, lexes, -⟩
  · refine .inl ⟨tokens, done, tokenize_eq_ok_iff_woven.mp done, lexes.ordered, ?_⟩
    simpa using lexes.stands
  · obtain ⟨error, front, failed, rfl, stuck⟩ := lexes.stuckAt
    exact .inr ⟨error, front, first, rest, failed, stuck⟩

end ShaderBuild.Directive
