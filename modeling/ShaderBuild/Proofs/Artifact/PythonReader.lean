import ShaderBuild.Config.Constraint
import ShaderBuild.Proofs.Text.Literal

/-! # Reading Python modules

As much of the language as generated modules are written in: comments, texts that stand on their own,
and assignments of numbers, texts and tuples of them to names. A line goes on while a parenthesis is
open, and a text right behind another one goes on with it.
-/

namespace ShaderBuild.Python

open Text

/-- A token of a module. -/
inductive Token where
  | name (text : List Char)
  | number (value : Nat)
  | text (content : List Char)
  /-- A parenthesis, a comma or an equals sign. -/
  | mark (c : Char)
  | comment
  | blank
  | lineEnd
  deriving Repr, DecidableEq

/-- A number or a text. -/
inductive Atom where
  | number (value : Int)
  | text (content : List Char)
  deriving Repr, DecidableEq

/-- What a name can be assigned. -/
inductive Value where
  | atom (atom : Atom)
  | tuple (members : List Atom)
  deriving Repr, DecidableEq

inductive Statement where
  | text (content : List Char)
  | assign (name : List Char) (value : Value)
  deriving Repr, DecidableEq

/-! ## Tokens -/

def isMark (c : Char) : Bool := c == '(' || c == ')' || c == ',' || c == '='

def isHexDigit (c : Char) : Bool := (hexValue? c).isSome

/-- Read a number whose first character, a zero, has been read. Only hexadecimal ones are known. -/
def number? : List Char → Option (Token × List Char)
  | 'x' :: rest =>
    let digits := rest.takeWhile isHexDigit
    if digits.isEmpty then none
    else (hexNumber? digits).map fun value => (.number value, rest.dropWhile isHexDigit)
  | _ => none

def token? : List Char → Option (Token × List Char)
  | [] => none
  | c :: rest =>
    if c = ' ' then some (.blank, rest)
    else if c = '\n' then some (.lineEnd, rest)
    else if isMark c then some (.mark c, rest)
    else if c = '#' then some (.comment, rest.dropWhile (· ≠ '\n'))
    else if c = '\'' ∨ c = '"' then
      (Literal.read? c rest).map fun (content, after) => (.text content, after)
    else if c = '0' then number? rest
    else if isNameStart c then
      some (.name (c :: rest.takeWhile isNamePart), rest.dropWhile isNamePart)
    else none

theorem length_dropWhile_le (p : Char → Bool) (text : List Char) :
    (text.dropWhile p).length ≤ text.length := (List.dropWhile_sublist p).length_le

theorem length_body?_le {close text body after : List Char}
    (found : Literal.body? close text = some (body, after)) : after.length ≤ text.length := by
  fun_induction Literal.body? close text generalizing body with
  | case1 => cases found
  | case2 c rest ih =>
      obtain ⟨⟨inner, _⟩, read, same⟩ := Option.map_eq_some_iff.mp found
      cases same
      have := ih read
      simp only [List.length_cons]
      omega
  | case3 c rest _ behind closes =>
      cases found
      exact length_after?_le closes
  | case4 => cases found
  | case5 c rest _ _ _ ih =>
      obtain ⟨⟨inner, _⟩, read, same⟩ := Option.map_eq_some_iff.mp found
      cases same
      exact Nat.le_succ_of_le (ih read)

theorem length_read?_le {q : Char} {text content after : List Char}
    (found : Literal.read? q text = some (content, after)) : after.length ≤ text.length := by
  unfold Literal.read? at found
  split at found
  · next inside begins =>
      obtain ⟨⟨body, _⟩, cut, meant⟩ := Option.bind_eq_some_iff.mp found
      obtain ⟨_, _, same⟩ := Option.map_eq_some_iff.mp meant
      cases same
      exact (length_body?_le cut).trans (length_after?_le begins)
  · obtain ⟨⟨body, _⟩, cut, meant⟩ := Option.bind_eq_some_iff.mp found
    obtain ⟨_, _, same⟩ := Option.map_eq_some_iff.mp meant
    cases same
    exact length_body?_le cut

theorem length_number?_le {text after : List Char} {token : Token}
    (found : number? text = some (token, after)) : after.length ≤ text.length := by
  unfold number? at found
  split at found
  · next rest =>
      dsimp only at found
      split at found
      · cases found
      · obtain ⟨_, _, same⟩ := Option.map_eq_some_iff.mp found
        cases same
        exact Nat.le_succ_of_le (length_dropWhile_le _ _)
  · cases found

theorem length_token?_lt {text after : List Char} {token : Token}
    (found : token? text = some (token, after)) : after.length < text.length := by
  revert found
  fun_cases token? text with
  | case1 => exact fun found => by cases found
  | case2 rest => exact fun found => by cases found; exact Nat.lt_succ_self _
  | case3 rest => exact fun found => by cases found; exact Nat.lt_succ_self _
  | case4 c rest => exact fun found => by cases found; exact Nat.lt_succ_self _
  | case5 rest =>
      exact fun found => by cases found; exact Nat.lt_succ_of_le (length_dropWhile_le _ _)
  | case6 c rest =>
      intro found
      obtain ⟨⟨_, _⟩, read, same⟩ := Option.map_eq_some_iff.mp found
      cases same
      exact Nat.lt_succ_of_le (length_read?_le read)
  | case7 rest => exact fun found => Nat.lt_succ_of_le (length_number?_le found)
  | case8 c rest =>
      exact fun found => by cases found; exact Nat.lt_succ_of_le (length_dropWhile_le _ _)
  | case9 => exact fun found => by cases found

def tokens (text : List Char) : Option (List Token) :=
  if text.isEmpty then some []
  else
    match _ : token? text with
    | none => none
    | some (token, after) => (tokens after).map (token :: ·)
termination_by text.length
decreasing_by exact length_token?_lt ‹_›

/-! ## Statements -/

/-- The tokens that count: line ends in parentheses do not, nor do blanks and comments, but a line must
    not start with a blank. `depth` parentheses are open, and `fresh` says whether a line starts. -/
@[simp] def significant (depth : Nat) (fresh : Bool) : List Token → Option (List Token)
  | [] => if depth = 0 then some [] else none
  | token :: rest =>
    match token with
    | .comment => significant depth fresh rest
    | .blank => if depth = 0 ∧ fresh then none else significant depth fresh rest
    | .lineEnd =>
      if depth = 0 then (significant 0 true rest).map (.lineEnd :: ·) else significant depth false rest
    | .mark '(' => (significant (depth + 1) false rest).map (.mark '(' :: ·)
    | .mark ')' => if depth = 0 then none else (significant (depth - 1) false rest).map (.mark ')' :: ·)
    | token => (significant depth false rest).map (token :: ·)

def counted (depth : Nat) (fresh : Bool) (text : List Char) : Option (List Token) :=
  (tokens text).bind (significant depth fresh)

def joinTexts : List Token → List Token
  | [] => []
  | .text content :: rest =>
    match joinTexts rest with
    | .text more :: others => .text (content ++ more) :: others
    | others => .text content :: others
  | token :: rest => token :: joinTexts rest

def atom? : Token → Option Atom
  | .number value => some (.number value)
  | .text content => some (.text content)
  | _ => none

/-- The members of a tuple, up to the parenthesis that closes it. The last one may have a comma too. -/
def members? : List Token → Option (List Atom)
  | [.mark ')'] => some []
  | [token, .mark ')'] => (atom? token).map ([·])
  | token :: .mark ',' :: rest => (atom? token).bind fun first => (members? rest).map (first :: ·)
  | _ => none

/-- Read a value. A single member without a comma makes no tuple. -/
def value? : List Token → Option Value
  | [token] => (atom? token).map .atom
  | [.mark '(', token, .mark ')'] => (atom? token).map .atom
  | .mark '(' :: rest => (members? rest).map .tuple
  | _ => none

def line? : List Token → Option (List Statement)
  | [] => some []
  | [.text content] => some [.text content]
  | .name name :: .mark '=' :: rest => (value? rest).map fun value => [.assign name value]
  | _ => none

/-- Read a module. -/
def readModule (text : List Char) : Option (List Statement) := do
  let found ← counted 0 true text
  let lines ← ((joinTexts found).splitOnP (· == .lineEnd)).mapM line?
  return lines.flatten

end ShaderBuild.Python
