import ShaderBuild.Json.Scalar

/-! # Reading JSON

One value, with blanks around it. Besides the standard's values there are the three numbers `NaN`,
`Infinity` and `-Infinity`. Of several members with one name the last counts, at the first one's
place.
-/

namespace ShaderBuild.Json

/-- A blank between the tokens of a text. -/
def isBlank (c : Char) : Bool := c == ' ' || c == '\t' || c == '\n' || c == '\r'

def skipBlanks (text : List Char) : List Char := text.dropWhile isBlank

def words : List (String × Value) :=
  [("null", .null), ("true", .bool true), ("false", .bool false), ("NaN", .float (0.0 / 0.0)),
   ("Infinity", .float (1.0 / 0.0)), ("-Infinity", .float (-(1.0 / 0.0)))]

/-- Why reading stops. -/
inductive Stop where
  | failure (failure : Failure)
  | longInteger (digits : Nat)
  | nested
  deriving Repr, DecidableEq

/-- Let a failed leaf stop the reading. -/
def leaf {α : Type} (reading : Except Failure α) : Except Stop α :=
  reading.mapError Stop.failure

def stopAt {α : Type} (mistake : Mistake) (rest : List Char) : Except Stop α :=
  .error (.failure ⟨mistake, rest⟩)

def readPlain (text : List Char) : Except Stop (Value × List Char) :=
  let word? := words.findSome? fun (word, value) =>
    (Text.after? word.toList text).map fun rest => (value, rest)
  match word? with
  | some reading => .ok reading
  | none =>
    match readNumber? text with
    | none => stopAt .expectedValue text
    | some (number, rest) =>
      if number.isInteger && number.whole.length > Decimal.longestInteger then
        .error (.longInteger number.whole.length)
      else .ok (number.value, rest)

/-- The most objects and arrays around a value. -/
def deepest : Nat := 990

mutual

/-- Read a value that starts here. The fuel bounds the calls, and `room` is the number of further objects
    and arrays that may be opened within each other. -/
def readValue : Nat → Nat → List Char → Except Stop (Value × List Char)
  | 0, _, text => stopAt .expectedValue text
  | fuel + 1, room, text =>
    match text, room with
    | '"' :: _, _ => (leaf (readString text)).map fun (string, rest) => (.str string, rest)
    | '{' :: _, 0 | '[' :: _, 0 => .error .nested
    | '{' :: rest, room + 1 =>
      match skipBlanks rest with
      | '}' :: after => .ok (.map [], after)
      | inner => (readMembers fuel room [] inner).map fun (members, rest) => (.map members, rest)
    | '[' :: rest, room + 1 =>
      match skipBlanks rest with
      | ']' :: after => .ok (.list [], after)
      | inner => (readItems fuel room inner).map fun (items, rest) => (.list items, rest)
    | _, _ => readPlain text

/-- Read the members of an object up to its closing brace. The ones in `members` come before. -/
def readMembers : Nat → Nat → List (Value × Value) → List Char →
    Except Stop (List (Value × Value) × List Char)
  | 0, _, _, text => stopAt .expectedName text
  | fuel + 1, room, members, text =>
    match text with
    | '"' :: _ => do
      let (name, rest) ← leaf (readString text)
      match skipBlanks rest with
      | ':' :: rest => do
        let (value, rest) ← readValue fuel room (skipBlanks rest)
        let members := Value.setKey (.str name) value members
        match skipBlanks rest with
        | '}' :: rest => return (members, rest)
        | ',' :: rest => readMembers fuel room members (skipBlanks rest)
        | rest => stopAt .expectedComma rest
      | rest => stopAt .expectedColon rest
    | _ => stopAt .expectedName text

/-- Read the items of an array up to its closing bracket. -/
def readItems : Nat → Nat → List Char → Except Stop (List Value × List Char)
  | 0, _, text => stopAt .expectedValue text
  | fuel + 1, room, text => do
    let (item, rest) ← readValue fuel room text
    match skipBlanks rest with
    | ']' :: rest => return ([item], rest)
    | ',' :: rest => do
      let (items, rest) ← readItems fuel room (skipBlanks rest)
      return (item :: items, rest)
    | rest => stopAt .expectedComma rest

end

/-- Name the mistake that stopped the reading of a text. -/
def Stop.fault (text : List Char) : Stop → Fault
  | .longInteger digits => .longInteger digits
  | .nested => .nested
  | .failure ⟨mistake, rest⟩ => .misread mistake (text.take (text.length - rest.length))

/-- Read a text that holds one value. -/
def readText (text : List Char) : Except Stop Value := do
  let (value, rest) ← readValue (2 * text.length + 2) deepest (skipBlanks text)
  match skipBlanks rest with
  | [] => return value
  | extra => stopAt .extraData extra

/-- Read a text that holds one value and does not start with a byte order mark. -/
def read (text : List Char) : Except Fault Value :=
  if text.head? = some '\uFEFF' then .error (.misread .byteOrderMark [])
  else (readText text).mapError (Stop.fault text)

end ShaderBuild.Json
