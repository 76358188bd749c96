import ShaderBuild.Proofs.Text.Hexadecimal
import ShaderBuild.Proofs.Text.Parts
import ShaderBuild.Text.Quoted

/-! # Reading quoted texts

A literal stands between quotation marks of either kind, one or three at each end. It runs to the first
closing marks that no backslash protects; then its escapes are undone. A quoted text is read as the
text that it was made of, whatever marks it was given.
-/

namespace ShaderBuild.Text

namespace Literal

/-- Cut a literal off a text: what stands before the closing marks, and the text behind them. With one
    mark at its end a literal must not run over the end of a line. -/
def body? (close : List Char) : List Char → Option (List Char × List Char)
  | [] => none
  | '\\' :: c :: rest => (body? close rest).map fun (body, after) => ('\\' :: c :: body, after)
  | c :: rest =>
    match after? close (c :: rest) with
    | some after => some ([], after)
    | none =>
      if c = '\n' ∧ close.length = 1 then none
      else (body? close rest).map fun (body, after) => (c :: body, after)

/-- What an escape of two characters stands for. -/
def plainEscape? : Char → Option Char
  | '\\' => some '\\'
  | '\'' => some '\''
  | '"' => some '"'
  | 'n' => some '\n'
  | 't' => some '\t'
  | 'r' => some '\r'
  | _ => none

/-- How many digits follow the letter of a numeric escape. -/
def codeWidth? : Char → Option Nat
  | 'x' => some 2
  | 'u' => some 4
  | 'U' => some 8
  | _ => none

def charOf? (code : Nat) : Option Char := if code.isValidChar then some (Char.ofNat code) else none

/-- How far an escape has been read. -/
inductive Progress where
  /-- No escape is open. -/
  | plain
  | slash
  /-- Some digits are to come; the ones before them make a value. -/
  | code (left value : Nat)

/-- Undo the escapes from here on. -/
def unescapeFrom : Progress → List Char → Option (List Char)
  | .plain, [] => some []
  | _, [] => none
  | .plain, c :: rest =>
    if c = '\\' then unescapeFrom .slash rest else (unescapeFrom .plain rest).map (c :: ·)
  | .slash, c :: rest =>
    match codeWidth? c with
    | some width => unescapeFrom (.code width 0) rest
    | none => (plainEscape? c).bind fun meant => (unescapeFrom .plain rest).map (meant :: ·)
  | .code left value, c :: rest =>
    match hexStep value c with
    | none => none
    | some value =>
      if left ≤ 1 then (charOf? value).bind fun meant => (unescapeFrom .plain rest).map (meant :: ·)
      else unescapeFrom (.code (left - 1) value) rest

/-- The text that stands between the marks of a literal, without its escapes. -/
def unescape? (body : List Char) : Option (List Char) := unescapeFrom .plain body

def read? (q : Char) (text : List Char) : Option (List Char × List Char) :=
  match after? [q, q] text with
  | some inside => (body? [q, q, q] inside).bind fun (body, after) =>
      (unescape? body).map fun content => (content, after)
  | none => (body? [q] text).bind fun (body, after) =>
      (unescape? body).map fun content => (content, after)

/-! ## The end of a literal -/

/-- A text that holds no mark `q` and no line end, unless a backslash stands before it. -/
inductive Guarded (q : Char) : List Char → Prop where
  | nil : Guarded q []
  | plain {c : Char} {rest : List Char} (notSlash : c ≠ '\\') (notMark : c ≠ q) (notEnd : c ≠ '\n')
      (others : Guarded q rest) : Guarded q (c :: rest)
  | escaped {c : Char} {rest : List Char} (others : Guarded q rest) : Guarded q ('\\' :: c :: rest)

theorem Guarded.append {q : Char} {left right : List Char} (one : Guarded q left)
    (other : Guarded q right) : Guarded q (left ++ right) := by
  induction one with
  | nil => exact other
  | plain notSlash notMark notEnd _ ih => exact .plain notSlash notMark notEnd ih
  | escaped _ ih => exact .escaped ih

theorem Guarded.of_plain {q : Char} {text : List Char}
    (plain : ∀ c ∈ text, c ≠ '\\' ∧ c ≠ q ∧ c ≠ '\n') : Guarded q text := by
  induction text with
  | nil => exact .nil
  | cons c rest ih =>
      obtain ⟨⟨notSlash, notMark, notEnd⟩, others⟩ := List.forall_mem_cons.mp plain
      exact .plain notSlash notMark notEnd (ih others)

theorem body?_cons_of_open {close : List Char} {c : Char} (notSlash : c ≠ '\\') (notEnd : c ≠ '\n')
    {rest : List Char} (goes : after? close (c :: rest) = none) :
    body? close (c :: rest) = (body? close rest).map fun (body, after) => (c :: body, after) := by
  -- A backslash takes the next character along, so this equation is the one for all other characters.
  rw [body?.eq_3 _ _ _ fun _ _ slash _ => notSlash slash, goes]
  simp [notEnd]

theorem body?_close {q : Char} (notSlash : q ≠ '\\') (more rest : List Char) :
    body? (q :: more) (q :: more ++ rest) = some ([], rest) := by
  rw [List.cons_append, body?.eq_3 _ _ _ fun _ _ slash _ => notSlash slash, ← List.cons_append,
    after?_append]

/-- A literal goes on through a guarded text. -/
theorem body?_guarded_append {q : Char} (more : List Char) {text : List Char} (guarded : Guarded q text)
    (rest : List Char) : body? (q :: more) (text ++ rest) =
      (body? (q :: more) rest).map fun (body, after) => (text ++ body, after) := by
  induction guarded with
  | nil => simp
  | plain notSlash notMark notEnd _ ih =>
      rw [List.cons_append, body?_cons_of_open notSlash notEnd (after?_cons_of_ne notMark.symm _ _), ih,
        Option.map_map]
      rfl
  | escaped _ ih =>
      rw [List.cons_append, List.cons_append, body?, ih, Option.map_map]
      rfl

theorem body?_of_guarded {q : Char} (notSlash : q ≠ '\\') (more : List Char) {body : List Char}
    (guarded : Guarded q body) (rest : List Char) :
    body? (q :: more) (body ++ (q :: more) ++ rest) = some (body, rest) := by
  rw [List.append_assoc, body?_guarded_append more guarded, body?_close notSlash]
  simp

/-! ## Escapes -/

theorem charOf?_toNat (c : Char) : charOf? c.toNat = some c := by
  have valid : c.toNat.isValidChar := c.valid
  rw [charOf?, if_pos valid, Char.ofNat_toNat]

theorem unescapeFrom_ordinary {text : List Char} (ordinary : ∀ c ∈ text, c ≠ '\\') (rest : List Char) :
    unescapeFrom .plain (text ++ rest) = (unescapeFrom .plain rest).map (text ++ ·) := by
  induction text with
  | nil => simp
  | cons c text ih =>
      obtain ⟨first, others⟩ := List.forall_mem_cons.mp ordinary
      rw [List.cons_append, unescapeFrom, if_neg first, ih others, Option.map_map]
      rfl

theorem unescapeFrom_code {digits : List Char} {value code : Nat} (some : digits ≠ [])
    (digitsRead : digits.foldlM hexStep value = .some code) (rest : List Char) :
    unescapeFrom (.code digits.length value) (digits ++ rest) =
      (charOf? code).bind fun c => (unescapeFrom .plain rest).map (c :: ·) := by
  induction digits generalizing value with
  | nil => exact absurd rfl some
  | cons digit digits ih =>
      rw [List.foldlM_cons] at digitsRead
      obtain ⟨next, step, others⟩ := Option.bind_eq_some_iff.mp digitsRead
      rw [List.cons_append, unescapeFrom, step]
      cases digits with
      | nil =>
          cases others
          rfl
      | cons second digits => simpa using ih (List.cons_ne_nil _ _) others

theorem unescapeFrom_hexFixed {width code : Nat} (wide : 0 < width) (fits : code < 16 ^ width)
    (rest : List Char) :
    unescapeFrom (.code width 0) (hexFixed width code ++ rest) =
      (charOf? code).bind fun c => (unescapeFrom .plain rest).map (c :: ·) := by
  have some : hexFixed width code ≠ [] :=
    List.ne_nil_of_length_pos (by rw [length_hexFixed]; exact wide)
  have digitsRead : (hexFixed width code).foldlM hexStep 0 = .some code := hexNumber?_hexFixed fits
  have read := unescapeFrom_code some digitsRead rest
  rwa [length_hexFixed] at read

theorem unescapeFrom_numericEscape (c : Char) (rest : List Char) :
    unescapeFrom .plain (Quoted.numericEscape c.toNat ++ rest) =
      (unescapeFrom .plain rest).map (c :: ·) := by
  have bound : c.toNat < 16 ^ 8 := by
    have valid : c.toNat.isValidChar := c.valid
    unfold Nat.isValidChar at valid
    omega
  have meant (width : Nat) (wide : 0 < width) (fits : c.toNat < 16 ^ width) :
      unescapeFrom (.code width 0) (hexFixed width c.toNat ++ rest) =
        (unescapeFrom .plain rest).map (c :: ·) := by
    rw [unescapeFrom_hexFixed wide fits, charOf?_toNat, Option.bind_some]
  unfold Quoted.numericEscape
  split
  · exact meant 2 (by decide) ‹_›
  · split
    · exact meant 4 (by decide) ‹_›
    · exact meant 8 (by decide) bound

theorem unescapeFrom_encodeChar {q : Char} (isMark : q = '\'' ∨ q = '"') (c : Char)
    (rest : List Char) :
    unescapeFrom .plain (Quoted.encodeChar q c ++ rest) =
      (unescapeFrom .plain rest).map (c :: ·) := by
  unfold Quoted.encodeChar
  split
  · next special =>
      have itself : c = '\'' ∨ c = '"' ∨ c = '\\' := by
        rcases special with rfl | rfl
        · exact isMark.imp_right .inl
        · exact .inr (.inr rfl)
      rcases itself with rfl | rfl | rfl <;> rfl
  · next ordinary =>
      have notSlash : c ≠ '\\' := fun slash => ordinary (.inr slash)
      split
      · next tab => subst tab; rfl
      · split
        · next lineEnd => subst lineEnd; rfl
        · split
          · next carriage => subst carriage; rfl
          · split
            · rw [List.singleton_append, unescapeFrom, if_neg notSlash]
            · exact unescapeFrom_numericEscape c rest

theorem unescapeFrom_encoded {q : Char} (isMark : q = '\'' ∨ q = '"') (text rest : List Char) :
    unescapeFrom .plain (text.flatMap (Quoted.encodeChar q) ++ rest) =
      (unescapeFrom .plain rest).map (text ++ ·) := by
  induction text with
  | nil => simp
  | cons c text ih =>
      rw [List.flatMap_cons, List.append_assoc, unescapeFrom_encodeChar isMark, ih]
      simp [Function.comp_def]

/-! ## Quoted texts -/

theorem hexDigit_ordinary {n : Nat} (small : n < 16) :
    hexDigit n ≠ '\\' ∧ hexDigit n ≠ '\'' ∧ hexDigit n ≠ '"' ∧ hexDigit n ≠ '\n' ∧ hexDigit n ≠ '\r' := by
  have all : ∀ n < 16, hexDigit n ≠ '\\' ∧ hexDigit n ≠ '\'' ∧ hexDigit n ≠ '"' ∧
    hexDigit n ≠ '\n' ∧ hexDigit n ≠ '\r' := by decide
  exact all n small

theorem guarded_hexFixed {q : Char} (isMark : q = '\'' ∨ q = '"') (width n : Nat) :
    Guarded q (hexFixed width n) := by
  refine .of_plain fun c member => ?_
  obtain ⟨digit, small, rfl⟩ := exists_digit_of_mem_hexFixed width n c member
  obtain ⟨notSlash, notSingle, notDouble, notEnd, -⟩ := hexDigit_ordinary small
  refine ⟨notSlash, ?_, notEnd⟩
  rcases isMark with rfl | rfl <;> assumption

/-- Encoding guards against its own mark, and against the other one if the character is not that. -/
theorem guarded_encodeChar {g : Char} (isMark : g = '\'' ∨ g = '"') {q c : Char}
    (protects : c = g → q = g) : Guarded g (Quoted.encodeChar q c) := by
  unfold Quoted.encodeChar
  split
  · exact .escaped .nil
  · next ordinary =>
      obtain ⟨notQuote, notSlash⟩ := not_or.mp ordinary
      have notMark : c ≠ g := fun same => notQuote (same.trans (protects same).symm)
      split
      · exact .escaped .nil
      · split
        · exact .escaped .nil
        · next notEnd =>
            split
            · exact .escaped .nil
            · split
              · exact .plain notSlash notMark notEnd .nil
              · unfold Quoted.numericEscape
                split
                · exact .escaped (guarded_hexFixed isMark _ _)
                · split
                  · exact .escaped (guarded_hexFixed isMark _ _)
                  · exact .escaped (guarded_hexFixed isMark _ _)

theorem guarded_encoded {g : Char} (isMark : g = '\'' ∨ g = '"') {q : Char} {text : List Char}
    (protects : ∀ c ∈ text, c = g → q = g) : Guarded g (text.flatMap (Quoted.encodeChar q)) := by
  induction text with
  | nil => exact .nil
  | cons c text ih =>
      obtain ⟨first, others⟩ := List.forall_mem_cons.mp protects
      exact (guarded_encodeChar isMark first).append (ih others)

theorem encodeChar_ne_nil (q c : Char) : Quoted.encodeChar q c ≠ [] := by
  have escape (code : Nat) : Quoted.numericEscape code ≠ [] := by
    unfold Quoted.numericEscape
    split_ifs <;> exact List.cons_ne_nil _ _
  unfold Quoted.encodeChar
  split_ifs <;> first | exact List.cons_ne_nil _ _ | exact escape _

/-- A quoted text stands on one line. -/
theorem oneLine_encodeChar {q : Char} (isMark : q = '\'' ∨ q = '"') (c : Char) :
    ∀ d ∈ Quoted.encodeChar q c, d ≠ '\n' ∧ d ≠ '\r' := by
  have digits (width n : Nat) : ∀ d ∈ hexFixed width n, d ≠ '\n' ∧ d ≠ '\r' := by
    intro d member
    obtain ⟨digit, small, rfl⟩ := exists_digit_of_mem_hexFixed width n d member
    exact (hexDigit_ordinary small).2.2.2
  have marks : q ≠ '\n' ∧ q ≠ '\r' := by rcases isMark with rfl | rfl <;> decide
  unfold Quoted.encodeChar
  split
  · next special => rcases special with rfl | rfl <;> simp [marks]
  · split
    · exact forall_of_all (by decide)
    · split
      · exact forall_of_all (by decide)
      · next notEnd =>
          split
          · exact forall_of_all (by decide)
          · next notReturn =>
              split
              · simpa using ⟨notEnd, notReturn⟩
              · unfold Quoted.numericEscape
                split
                · simpa using digits 2 c.toNat
                · split
                  · simpa using digits 4 c.toNat
                  · simpa using digits 8 c.toNat

theorem mark_eq (text : List Char) : Quoted.mark text = '\'' ∨ Quoted.mark text = '"' := by
  unfold Quoted.mark
  split
  · exact .inr rfl
  · exact .inl rfl

theorem after?_of_guarded {q : Char} (notSlash : q ≠ '\\') {text : List Char} (guarded : Guarded q text)
    (some : text ≠ []) (more rest : List Char) : after? (q :: more) (text ++ rest) = none := by
  cases guarded with
  | nil => exact absurd rfl some
  | plain _ notMark _ _ => exact after?_cons_of_ne notMark.symm _ _
  | escaped _ => exact after?_cons_of_ne notSlash _ _

/-- A guarded text and its closing mark do not start like the rest of three opening marks, unless the
    text is empty and one more mark follows. -/
theorem after?_marks_of_guarded {q c : Char} (notSlash : q ≠ '\\') (other : q ≠ c)
    {body : List Char} (guarded : Guarded q body) (rest : List Char) :
    after? [q, q] (body ++ q :: c :: rest) = none := by
  by_cases none : body = []
  · simp [none, after?, other]
  · exact after?_of_guarded notSlash guarded none _ _

/-- A quoted text is read as the text itself, if no mark follows. -/
theorem read?_encode (text : List Char) {c : Char} (other : Quoted.mark text ≠ c)
    (rest : List Char) :
    ∃ q inside, Quoted.encode text = q :: inside ∧ (q = '\'' ∨ q = '"') ∧
      read? q (inside ++ c :: rest) = some (text, c :: rest) := by
  have isMark := mark_eq text
  refine ⟨Quoted.mark text, text.flatMap (Quoted.encodeChar (Quoted.mark text)) ++ [Quoted.mark text],
    rfl, isMark, ?_⟩
  generalize Quoted.mark text = q at other isMark ⊢
  have notSlash : q ≠ '\\' := by rcases isMark with rfl | rfl <;> decide
  have guarded : Guarded q (text.flatMap (Quoted.encodeChar q)) :=
    guarded_encoded isMark fun _ _ _ => rfl
  have ends := body?_of_guarded notSlash [] guarded (c :: rest)
  have meant := unescapeFrom_encoded isMark text []
  rw [List.append_nil] at meant
  have begins := after?_marks_of_guarded notSlash other guarded rest
  simp only [List.append_assoc, List.cons_append, List.nil_append] at ends ⊢
  rw [read?, begins]
  simp only [ends, Option.bind_some, unescape?, meant]
  simp [unescapeFrom]

/-- A literal between three marks is read to where they come again. -/
theorem read?_long {q : Char} {inside body after content : List Char}
    (cut : body? [q, q, q] inside = some (body, after)) (meant : unescape? body = some content) :
    read? q (q :: q :: inside) = some (content, after) := by
  have begins : after? [q, q] (q :: q :: inside) = some inside := after?_append [q, q] _
  rw [read?, begins]
  simp only [cut, Option.bind_some, meant, Option.map_some]

end Literal

end ShaderBuild.Text
