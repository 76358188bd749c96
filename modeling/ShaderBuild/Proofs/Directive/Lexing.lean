import ShaderBuild.Proofs.Directive.Spelling

/-! # Reading joined texts

Reading as a relation, without fuel: the tokens of a text from some offset on, and the text that is
left where no token starts. With a separator in between, two texts are read one after the other. Only a
string that is not closed can reach over the separator.
-/

namespace ShaderBuild.Directive

open Outcome

/-- The tokens of a text that starts at an offset, and what is left at the end or where reading gets
    stuck. -/
inductive Lexes : Nat → List Char → List Token → List Char → Prop where
  | done {offset : Nat} : Lexes offset [] [] []
  | stuck {offset : Nat} {first : Char} {rest : List Char}
      (refused : Lexeme.read first rest = .refused) :
      Lexes offset (first :: rest) [] (first :: rest)
  | blank {offset : Nat} {first : Char} {rest text after left : List Char} {tokens : List Token}
      (read : Lexeme.read first rest = .blank text after)
      (others : Lexes (offset + text.length) after tokens left) :
      Lexes offset (first :: rest) tokens left
  | token {offset : Nat} {first : Char} {rest text after left : List Char} {kind : Kind}
      {tokens : List Token} (read : Lexeme.read first rest = .token kind text after)
      (others : Lexes (offset + text.length) after tokens left) :
      Lexes offset (first :: rest) (⟨kind, String.ofList text, offset⟩ :: tokens) left

/-- A token further along. -/
def Token.moved (distance : Int) (token : Token) : Token :=
  { token with offset := token.offset + distance }

/-! ## One lexeme -/

/-- A character of the class ends no run before another one that is not of it. -/
theorem takeWhile_dropWhile_append {p : Char → Bool} {c : Char} (other : p c = false)
    (rest more : List Char) :
    (rest ++ c :: more).takeWhile p = rest.takeWhile p ∧
      (rest ++ c :: more).dropWhile p = rest.dropWhile p ++ c :: more := by
  induction rest with
  | nil => simp [other]
  | cons first rest ih => cases inside : p first <;> simp [inside, ih]

theorem closeString?_append {rest closed after : List Char}
    (h : closeString? rest = some (closed, after)) (more : List Char) :
    closeString? (rest ++ more) = some (closed, after ++ more) := by
  obtain ⟨rfl, body, rfl, guarded⟩ := closeString?_sound h
  simpa using closeString?_guarded guarded (after ++ more)

namespace Lexeme

/-- A lexeme of a text that goes on. -/
def extend (more : List Char) : Lexeme → Lexeme
  | .blank text after => .blank text (after ++ more)
  | .token kind text after => .token kind text (after ++ more)
  | .refused => .refused

theorem read_blank {first : Char} {rest text after : List Char}
    (h : read first rest = .blank text after) :
    first :: rest = text ++ after ∧ text ≠ [] ∧ ∀ c ∈ text, Text.isBlank c = true := by
  cases blank : Text.isBlank first with
  | true =>
      simp only [read, run, blank, ↓reduceIte, Lexeme.blank.injEq] at h
      obtain ⟨rfl, rfl⟩ := h
      exact ⟨by simp, by simp, List.forall_mem_cons.mpr ⟨blank, fun _ => List.mem_takeWhile_imp⟩⟩
  | false =>
      simp only [read, run, blank, Bool.false_eq_true, ↓reduceIte] at h
      repeat' split at h
      all_goals cases h

theorem read_token {first : Char} {rest text after : List Char} {kind : Kind}
    (h : read first rest = .token kind text after) : first :: rest = text ++ after ∧ text ≠ [] := by
  obtain ⟨same, spelled, -⟩ := read_sound h
  obtain ⟨_, _, rfl, -⟩ := spelled.head_visible
  exact ⟨same, by simp⟩

theorem isBlank_of_refused {first : Char} {rest : List Char} (h : read first rest = .refused) :
    Text.isBlank first = false := by
  cases blank : Text.isBlank first with
  | true => simp [read, run, blank] at h
  | false => rfl

/-- A lexeme ends before a separator, unless it is a string that is still open there. -/
theorem read_append {first : Char} {rest : List Char} {lexeme : Lexeme}
    (h : read first rest = lexeme) (closes : first = '"' → lexeme ≠ .refused) (more : List Char) :
    read first (rest ++ ',' :: more) = lexeme.extend (',' :: more) := by
  subst h
  have cut (p : Char → Bool) (other : p ',' = false) := takeWhile_dropWhile_append other rest more
  by_cases quote : first = '"'
  · subst quote
    have visible : Text.isBlank '"' = false := rfl
    cases string : closeString? rest with
    | none => exact (closes rfl (by simp [read, visible, string])).elim
    | some found => simp [read, visible, closeString?_append string, string, extend]
  · simp only [read, run, quote, ↓reduceIte, cut Text.isBlank rfl, cut isNumberPart rfl,
      cut isIdentPart rfl]
    repeat' split
    all_goals rfl

end Lexeme

/-! ## A whole text -/

namespace Lexes

variable {offset : Nat} {text left : List Char} {tokens : List Token}

theorem unique {others : List Token} {behind : List Char} (one : Lexes offset text tokens left)
    (other : Lexes offset text others behind) : tokens = others ∧ left = behind := by
  induction one generalizing others behind with
  | done => cases other; exact ⟨rfl, rfl⟩
  | stuck refused => cases other <;> simp_all
  | blank read _ ih =>
      cases other with
      | blank again more =>
          cases read.symm.trans again
          exact ih more
      | stuck again | token again => cases read.symm.trans again
  | token read _ ih =>
      cases other with
      | token again more =>
          cases read.symm.trans again
          obtain ⟨rfl, rfl⟩ := ih more
          exact ⟨rfl, rfl⟩
      | stuck again | blank again => cases read.symm.trans again

/-- Where reading gets stuck, no lexeme starts. -/
theorem refused {first : Char} {rest : List Char} (h : Lexes offset text tokens (first :: rest)) :
    Lexeme.read first rest = .refused := by
  generalize some : first :: rest = left at h
  induction h with
  | done => cases some
  | stuck refused =>
      obtain ⟨rfl, rfl⟩ := List.cons.inj some
      exact refused
  | blank _ _ ih | token _ _ ih => exact ih some

/-- Reading does not depend on where the text stands. -/
theorem moved (h : Lexes offset text tokens left) (distance : Nat) :
    Lexes (offset + distance) text (tokens.map (·.moved distance)) left := by
  induction h with
  | done => exact .done
  | stuck refused => exact .stuck refused
  | blank read _ ih => exact .blank read (by simpa [Nat.add_right_comm] using ih)
  | token read _ ih => exact .token read (by simpa [Nat.add_right_comm] using ih)

/-- Reading goes on at a separator behind a text that is read to its end. -/
theorem append {more rest : List Char} {others : List Token} (first : Lexes offset text tokens [])
    (second : Lexes (offset + text.length) (',' :: more) others rest) :
    Lexes offset (text ++ ',' :: more) (tokens ++ others) rest := by
  generalize none : ([] : List Char) = left at first
  induction first with
  | done => simpa using second
  | stuck => cases none
  | @blank offset first _ part after _ _ read _ ih =>
      rw [(Lexeme.read_blank read).1, List.length_append, ← Nat.add_assoc] at second
      exact .blank (Lexeme.read_append read (by simp) more) (ih second none)
  | @token offset first _ part after _ _ _ read _ ih =>
      rw [(Lexeme.read_token read).1, List.length_append, ← Nat.add_assoc] at second
      exact .token (Lexeme.read_append read (by simp) more) (ih second none)

/-- A text that is refused at another place than at an open string is refused there whatever comes
    behind a separator. -/
theorem append_of_stuck {first : Char} {rest : List Char}
    (h : Lexes offset text tokens (first :: rest)) (closed : first ≠ '"') (more : List Char) :
    Lexes offset (text ++ ',' :: more) tokens (first :: rest ++ ',' :: more) := by
  generalize some : first :: rest = left at h
  induction h with
  | done => cases some
  | stuck refused =>
      obtain ⟨rfl, rfl⟩ := List.cons.inj some
      exact .stuck (Lexeme.read_append refused (fun quote => (closed quote).elim) more)
  | blank read _ ih => exact .blank (Lexeme.read_append read (by simp) more) (ih some)
  | token read _ ih => exact .token (Lexeme.read_append read (by simp) more) (ih some)

/-- A blank in front only moves what follows. -/
theorem behind_blank {c : Char} (blank : Text.isBlank c = true)
    (h : Lexes (offset + 1) text tokens left) : Lexes offset (c :: text) tokens left := by
  have gap (rest : List Char) : Lexeme.read c rest =
      .blank (c :: rest.takeWhile Text.isBlank) (rest.dropWhile Text.isBlank) := by
    simp [Lexeme.read, Lexeme.run, blank]
  cases text with
  | nil => exact .blank (gap []) h
  | cons first rest =>
      cases same : Text.isBlank first with
      | false =>
          have read : Lexeme.read c (first :: rest) = .blank [c] (first :: rest) := by
            simp [gap, same]
          exact .blank read h
      | true =>
          -- the blank joins the ones that the text starts with
          have read : Lexeme.read c (first :: rest) =
              .blank (c :: first :: rest.takeWhile Text.isBlank) (rest.dropWhile Text.isBlank) := by
            simp [gap, same]
          have own : Lexeme.read first rest =
              .blank (first :: rest.takeWhile Text.isBlank) (rest.dropWhile Text.isBlank) := by
            simp [Lexeme.read, Lexeme.run, same]
          cases h with
          | blank again others =>
              cases own.symm.trans again
              exact .blank read (by simpa [Nat.add_assoc, Nat.add_comm 1] using others)
          | stuck again | token again => cases own.symm.trans again

/-- Two texts with a separator and a space in between are read one after the other. -/
theorem separated {right rest : List Char} {back : List Token} (first : Lexes 0 text tokens [])
    (second : Lexes 0 right back rest) :
    Lexes 0 (text ++ ',' :: ' ' :: right)
      (tokens ++ ⟨.separator, ",", text.length⟩ :: back.map (·.moved (text.length + 2))) rest := by
  have behind : Lexes (text.length + 1 + 1) right (back.map (·.moved (text.length + 2))) rest := by
    simpa using second.moved (text.length + 2)
  have read : Lexeme.read ',' (' ' :: right) = .token .separator [','] (' ' :: right) := rfl
  have comma : Lexes text.length (',' :: ' ' :: right)
      (⟨.separator, ",", text.length⟩ :: back.map (·.moved (text.length + 2))) rest :=
    .token read (behind.behind_blank rfl)
  exact first.append (by simpa using comma)

end Lexes

/-! ## Where tokens stand -/

/-- Tokens are read one after the other, each where the text goes on with it. -/
theorem Lexes.stands {offset : Nat} {text left : List Char} {tokens : List Token}
    (h : Lexes offset text tokens left) :
    ∀ token ∈ tokens, ∃ place : Nat,
      token.offset = (offset + place : Nat) ∧ token.text.toList <+: text.drop place := by
  -- what stands behind a lexeme stands further along by its length
  have further : ∀ {offset : Nat} {lexeme after : List Char} {token : Token},
      (∃ place : Nat, token.offset = (offset + lexeme.length + place : Nat) ∧
        token.text.toList <+: after.drop place) →
      ∃ place : Nat, token.offset = (offset + place : Nat) ∧
        token.text.toList <+: (lexeme ++ after).drop place := by
    rintro offset lexeme after token ⟨place, stands, goesOn⟩
    refine ⟨lexeme.length + place, by rw [stands, Nat.add_assoc], ?_⟩
    rwa [← List.drop_drop, List.drop_left]
  induction h with
  | done | stuck => simp
  | blank read _ ih =>
      rw [(Lexeme.read_blank read).1]
      exact fun token member => further (ih token member)
  | @token offset first rest text after left kind tokens read _ ih =>
      rw [(Lexeme.read_token read).1]
      refine List.forall_mem_cons.mpr ⟨⟨0, rfl, ?_⟩, fun token member => further (ih token member)⟩
      simp

theorem Lexes.ordered {offset : Nat} {text left : List Char} {tokens : List Token}
    (h : Lexes offset text tokens left) : tokens.Pairwise (·.offset < ·.offset) := by
  induction h with
  | done | stuck => exact .nil
  | blank _ _ ih => exact ih
  | @token offset first rest text after left kind tokens read others ih =>
      refine .cons (fun token member => ?_) ih
      obtain ⟨place, stands, -⟩ := others.stands token member
      have some := List.length_pos_iff.mpr (Lexeme.read_token read).2
      rw [stands]
      simp only
      omega

/-! ## The scanner -/

theorem shorter {fuel : Nat} {first : Char} {rest text after : List Char}
    (same : first :: rest = text ++ after) (some : text ≠ [])
    (enough : (first :: rest).length ≤ fuel + 1) : after.length ≤ fuel := by
  have length := List.length_pos_iff.mpr some
  rw [same, List.length_append] at enough
  omega

/-- The scanner reads the tokens of a text and says where it gets stuck: behind the front that it has
    read, at the word that stands there. -/
theorem lexes_scanFrom {fuel offset : Nat} {text : List Char} (enough : text.length ≤ fuel) :
    ∃ front left, text = front ++ left ∧ Lexes offset text (scanFrom fuel offset text).tokens left ∧
      (scanFrom fuel offset text).stop? =
        left.head?.map fun _ => ⟨String.ofList (Text.firstWord left), offset + front.length⟩ := by
  fun_induction scanFrom fuel offset text with
  | case1 =>
      obtain rfl := List.length_eq_zero_iff.mp (Nat.le_zero.mp enough)
      exact ⟨[], [], rfl, .done, rfl⟩
  | case2 => exact ⟨[], [], rfl, .done, rfl⟩
  | case3 fuel offset first rest text after read ih =>
      obtain ⟨same, some, -⟩ := Lexeme.read_blank read
      obtain ⟨front, left, rfl, others, stop⟩ := ih (shorter same some enough)
      refine ⟨text ++ front, left, by rw [same, List.append_assoc], .blank read others, ?_⟩
      rw [stop, List.length_append, Nat.add_assoc]
  | case4 fuel offset first rest kind text after read ih =>
      obtain ⟨same, some⟩ := Lexeme.read_token read
      obtain ⟨front, left, rfl, others, stop⟩ := ih (shorter same some enough)
      refine ⟨text ++ front, left, by rw [same, List.append_assoc], .token read others, ?_⟩
      rw [Scan.push, stop, List.length_append, Nat.add_assoc]
  | case5 fuel offset first rest refused =>
      exact ⟨[], first :: rest, rfl, .stuck refused, rfl⟩

/-- An open string is blamed for a word that starts with a quotation mark, and for no other one. -/
theorem mistake_of_firstWord {first : Char} (visible : Text.isBlank first = false) (rest : List Char)
    (offset index : Nat) :
    (BadLexeme.toError ⟨String.ofList (Text.firstWord (first :: rest)), offset⟩ index).mistake =
      if first = '"' then .unterminatedString else .unexpectedCharacter := by
  simp [BadLexeme.toError, BadLexeme.isUnterminated, Text.firstWord, Text.trimLeft_cons visible, visible]

/-- A text either has tokens to its end, or gets stuck, which is blamed on an open string or not. -/
theorem tokenize_cases (text : String) :
    (∃ tokens, tokenize text = .ok tokens ∧ Lexes 0 text.toList tokens []) ∨
    (∃ error tokens first rest, tokenize text = .error error ∧
      Lexes 0 text.toList tokens (first :: rest) ∧
      (error.mistake = .unterminatedString ↔ first = '"')) := by
  obtain ⟨front, left, -, lexes, stop⟩ := @lexes_scanFrom _ 0 _ (Nat.le_of_eq text.length_toList)
  cases left with
  | nil =>
      have none : (scanFrom text.length 0 text.toList).stop? = none := stop
      exact .inl ⟨_, by simp [tokenize, scan, none], lexes⟩
  | cons first rest =>
      refine .inr ⟨_, _, first, rest, by simp only [tokenize, scan, stop]; rfl, lexes, ?_⟩
      rw [mistake_of_firstWord (Lexeme.isBlank_of_refused lexes.refused)]
      split <;> simp_all

theorem tokenize_eq_ok_iff {text : String} {tokens : List Token} :
    tokenize text = .ok tokens ↔ Lexes 0 text.toList tokens [] := by
  rcases tokenize_cases text with ⟨_, done, lexes⟩ | ⟨_, _, _, _, done, lexes, -⟩
  · rw [done, Except.ok.injEq]
    exact ⟨fun same => same ▸ lexes, fun other => (lexes.unique other).1⟩
  · rw [done]
    exact iff_of_false (by simp) fun other => by cases (lexes.unique other).2

/-! ## Two texts -/

/-- A text whose last string is not closed. -/
def LeavesOpen (text : String) : Prop :=
  ∃ error, tokenize text = .error error ∧ error.mistake = .unterminatedString

theorem toList_joined (left right : String) :
    (left ++ ", " ++ right).toList = left.toList ++ ',' :: ' ' :: right.toList := by
  simp

theorem tokenize_joined {left right : String} {front tokens : List Token}
    (first : tokenize left = .ok front) :
    tokenize (left ++ ", " ++ right) = .ok tokens ↔
      ∃ back, tokenize right = .ok back ∧
        tokens = front ++ ⟨.separator, ",", left.length⟩ :: back.map (·.moved (left.length + 2)) := by
  rw [tokenize_eq_ok_iff] at first
  rw [tokenize_eq_ok_iff, toList_joined, ← left.length_toList]
  constructor
  · intro joined
    rcases tokenize_cases right with ⟨back, done, second⟩ | ⟨_, _, _, _, -, second, -⟩
    · exact ⟨back, done, (joined.unique (first.separated second)).1⟩
    · cases (joined.unique (first.separated second)).2
  · rintro ⟨back, done, rfl⟩
    exact first.separated (tokenize_eq_ok_iff.mp done)

/-- A text that gets stuck, but not at an open string, gets stuck in front of any other one. -/
theorem tokenize_joined_of_stuck {left : String} (closed : ¬ LeavesOpen left)
    (stuck : ∀ tokens, tokenize left ≠ .ok tokens) (right : String) (tokens : List Token) :
    tokenize (left ++ ", " ++ right) ≠ .ok tokens := by
  rcases tokenize_cases left with ⟨_, done, -⟩ | ⟨error, _, first, rest, done, lexes, quote⟩
  · exact (stuck _ done).elim
  · intro joined
    have plain : first ≠ '"' := fun same => closed ⟨error, done, quote.mpr same⟩
    rw [tokenize_eq_ok_iff, toList_joined] at joined
    cases (joined.unique (lexes.append_of_stuck plain _)).2

end ShaderBuild.Directive
