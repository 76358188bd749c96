import ShaderBuild.Text.Hexadecimal
import ShaderBuild.Yaml.Cursor
import ShaderBuild.Yaml.Fault

/-! # Scalars of YAML texts

The texts of plain, quoted and block scalars. A single line end within a scalar folds to a space;
of several the first is dropped.
-/

namespace ShaderBuild.Yaml

/-- The text for a line end and the further ones after it. -/
def fold (first : Char) (more : List Char) : List Char :=
  if first ≠ '\n' then first :: more else if more.isEmpty then [' '] else more

namespace Quoted

/-- What a letter after a backslash stands for. -/
def escapes : List (Char × Char) :=
  [('0', '\x00'), ('a', '\x07'), ('b', '\x08'), ('t', '\t'), ('\t', '\t'), ('n', '\n'), ('v', '\x0B'),
   ('f', '\x0C'), ('r', '\r'), ('e', '\x1B'), (' ', ' '), ('"', '"'), ('\\', '\\'), ('/', '/'),
   ('N', '\x85'), ('_', '\xA0'), ('L', '\u2028'), ('P', '\u2029')]

/-- How many hexadecimal digits follow a letter after a backslash. -/
def codeLengths : List (Char × Nat) := [('x', 2), ('u', 4), ('U', 8)]

/-- The character with a code. A code for half a pair stands for no character, so all such codes are read
    as one. -/
def codeChar (code : Nat) : Except Fault Char :=
  if code ≥ 0x110000 then .error (.codePoint code)
  else if 0xD800 ≤ code ∧ code ≤ 0xDFFF then .ok '\uFFFD'
  else .ok (Char.ofNat code)

/-- The number that exactly `length` hexadecimal digits write. -/
def code? (length : Nat) (text : List Char) : Option Nat :=
  if (text.take length).length = length then Text.hexNumber? (text.take length) else none

/-- Line ends and the blanks before and after them, up to the next other character. A document may not
    start or end here. The fuel is the length of the text. -/
def breaks : Nat → Cursor → Except Fault (List Char × Cursor)
  | 0, cursor => .ok ([], cursor)
  | fuel + 1, cursor =>
    if cursor.hasMarker then .error .malformed
    else
      match (cursor.after isIndent).lineBreak? with
      | none => .ok ([], cursor.after isIndent)
      | some (first, next) => do
        let (more, next) ← breaks fuel next
        return (first :: more, next)

/-- Read what a backslash starts, from the character after it on. -/
def escape (cursor : Cursor) : Except Fault (List Char × Cursor) :=
  match cursor.next? with
  | none => .error .malformed
  | some letter =>
    match escapes.lookup letter, codeLengths.lookup letter with
    | some c, _ => .ok ([c], cursor.step)
    | none, some length =>
      match code? length (cursor.rest.drop 1) with
      | none => .error .malformed
      | some code => do return ([← codeChar code], cursor.skip (length + 1))
    | none, none =>
      if isBreak letter then breaks cursor.rest.length cursor.step else .error .malformed

/-- Blanks and line ends. Blanks count unless a line ends after them. -/
def blanks (cursor : Cursor) : Except Fault (List Char × Cursor) :=
  let next := cursor.after isIndent
  match next.lineBreak? with
  | none => .ok (cursor.taken isIndent, next)
  | some (first, next) => do
    let (more, next) ← breaks next.rest.length next
    return (fold first more, next)

/-- Read the rest of a scalar in quotation marks, up to and with the closing mark. The fuel is the
    length of the text. -/
def body (mark : Char) : Nat → Cursor → Except Fault (List Char × Cursor)
  | 0, _ => .error .malformed
  | fuel + 1, cursor =>
    match cursor.next? with
    | none => .error .malformed
    | some c =>
      if c = mark then
        if mark = '\'' ∧ cursor.peek? 1 = some mark then do
          let (text, next) ← body mark fuel (cursor.skip 2)
          return (mark :: text, next)
        else .ok ([], cursor.step)
      else if c = '\\' ∧ mark = '"' then do
        let (piece, next) ← escape cursor.step
        let (text, next) ← body mark fuel next
        return (piece ++ text, next)
      else if isIndent c ∨ isBreak c then do
        let (piece, next) ← blanks cursor
        let (text, next) ← body mark fuel next
        return (piece ++ text, next)
      else do
        let (text, next) ← body mark fuel cursor.step
        return (c :: text, next)

/-- Read a scalar in quotation marks, from its opening mark on. -/
def read (mark : Char) (cursor : Cursor) : Except Fault (List Char × Cursor) :=
  body mark cursor.rest.length cursor.step

end Quoted

namespace Block

/-- What becomes of the line ends after the last line. -/
inductive Chomping where
  /-- One is kept. -/
  | clip
  /-- None is kept. -/
  | strip
  /-- All are kept. -/
  | keep
  deriving Repr, DecidableEq

/-- The head of a block scalar: what becomes of its end, and how far it is indented, if said. -/
structure Head where
  chomping : Chomping
  increment? : Option Nat
  deriving Repr, DecidableEq

def chomping? : Option Char → Option Chomping
  | some '+' => some .keep
  | some '-' => some .strip
  | _ => none

def increment? (next? : Option Char) : Option Nat :=
  match next? with
  | some c => if c.isDigit then some (c.toNat - 48) else none
  | none => none

/-- Read the head of a block scalar. The sign may stand before or after the digit. -/
def head (cursor : Cursor) : Except Fault (Head × Cursor) :=
  let (found, next) : Head × Cursor :=
    match chomping? cursor.next? with
    | some chomping =>
      match increment? cursor.step.next? with
      | some increment => (⟨chomping, some increment⟩, cursor.skip 2)
      | none => (⟨chomping, none⟩, cursor.step)
    | none =>
      match increment? cursor.next? with
      | none => (⟨.clip, none⟩, cursor)
      | some increment =>
        match chomping? cursor.step.next? with
        | some chomping => (⟨chomping, some increment⟩, cursor.skip 2)
        | none => (⟨.clip, some increment⟩, cursor.step)
  if found.increment? = some 0 then .error .malformed
  else if endsWord next.next? then .ok (found, next)
  else .error .malformed

/-- The place after the line of the head, which may hold a comment and nothing else. -/
def afterHead (cursor : Cursor) : Except Fault Cursor :=
  let next := cursor.afterSpaces.afterComment
  if endsLine next.next? then
    match next.lineBreak? with
    | some (_, next) => .ok next
    | none => .ok next
  else .error .malformed

/-- Blank lines before the first line of text, and the largest number of spaces seen on the way. The
    fuel is the length of the text. -/
def leading : Nat → Nat → Cursor → List Char × Nat × Cursor
  | 0, widest, cursor => ([], widest, cursor)
  | fuel + 1, widest, cursor =>
    match cursor.lineBreak? with
    | some (c, next) =>
      let (more, widest, next) := leading fuel widest next
      (c :: more, widest, next)
    | none =>
      if cursor.next? = some ' ' then leading fuel (max widest cursor.step.column) cursor.step
      else ([], widest, cursor)

/-- The place after at most so many spaces that the column is `indent`. -/
def indentTo (indent : Nat) (cursor : Cursor) : Cursor :=
  cursor.skip (min (indent - cursor.column) (cursor.taken (· == ' ')).length)

/-- Blank lines between lines of text, and the indentation of the next one. The fuel is the length of
    the text. -/
def blankLines (indent : Nat) : Nat → Cursor → List Char × Cursor
  | 0, cursor => ([], indentTo indent cursor)
  | fuel + 1, cursor =>
    let next := indentTo indent cursor
    match next.lineBreak? with
    | none => ([], next)
    | some (c, next) =>
      let (more, next) := blankLines indent fuel next
      (c :: more, next)

/-- The lines of a scalar, and the line ends after the last one: its own and those of blank lines. -/
structure Body where
  text : List Char
  lineEnd : List Char
  blankEnds : List Char
  next : Cursor

/-- Whether text stands here, at the right column. -/
def hasLine (indent : Nat) (cursor : Cursor) : Bool :=
  cursor.column == indent && cursor.next?.isSome

/-- Whether the next character is a blank. -/
def startsBlank (cursor : Cursor) : Bool :=
  match cursor.next? with
  | some c => isIndent c
  | none => false

/-- Read the lines from here on. Folding joins lines that start with a character other than a blank.
    The fuel is the length of the text. -/
def lines (folded : Bool) (indent : Nat) : Nat → Cursor → Body
  | 0, cursor => ⟨[], [], [], cursor⟩
  | fuel + 1, cursor =>
    let line := cursor.taken fun c => !isBreak c
    let (lineEnd, next) : List Char × Cursor :=
      match cursor.lineEnd.lineBreak? with
      | some (c, next) => ([c], next)
      | none => ([], cursor.lineEnd)
    let (ends, next) := blankLines indent next.rest.length next
    if hasLine indent next then
      let between :=
        if folded ∧ lineEnd = ['\n'] ∧ !startsBlank cursor ∧ !startsBlank next then
          if ends.isEmpty then [' '] else []
        else lineEnd
      let others := lines folded indent fuel next
      { others with text := line ++ between ++ ends ++ others.text }
    else ⟨line, lineEnd, ends, next⟩

/-- The text of a scalar whose lines have been read. -/
def Body.chomp (body : Body) : Chomping → List Char
  | .clip => body.text ++ body.lineEnd
  | .strip => body.text
  | .keep => body.text ++ body.lineEnd ++ body.blankEnds

/-- Read a block scalar, from its indicator on. `least` is the least column of its lines. -/
def read (folded : Bool) (least : Nat) (cursor : Cursor) : Except Fault (List Char × Cursor) := do
  let (head, next) ← head cursor.step
  let next ← afterHead next
  let (before, indent, next) :=
    match head.increment? with
    | some increment =>
      let indent := least + increment - 1
      let (ends, next) := blankLines indent next.rest.length next
      (ends, indent, next)
    | none =>
      let (ends, widest, next) := leading next.rest.length 0 next
      (ends, max least widest, next)
  let body : Body :=
    if hasLine indent next then
      let found := lines folded indent next.rest.length next
      { found with text := before ++ found.text }
    else ⟨[], [], before, next⟩
  return (body.chomp head.chomping, body.next)

end Block

namespace Plain

/-- Characters that have a meaning of their own between brackets. -/
def isFlowIndicator (c : Char) : Bool :=
  c == ',' || c == '?' || c == '[' || c == ']' || c == '{' || c == '}'

/-- Whether a colon here ends a plain scalar. -/
def endsAtColon (inFlow : Bool) (next? : Option Char) : Bool :=
  endsToken next? ||
    (inFlow && (next? == some ',' || next? == some '[' || next? == some ']' || next? == some '{' ||
      next? == some '}'))

/-- The characters of a plain scalar up to the next blank. -/
def word (inFlow : Bool) : List Char → List Char
  | [] => []
  | c :: rest =>
    if isIndent c ∨ isBreak c then []
    else if c = ':' ∧ endsAtColon inFlow rest.head? then []
    else if inFlow ∧ isFlowIndicator c then []
    else c :: word inFlow rest

/-- Blank lines within a plain scalar, up to the next other character. There are none to speak of if a
    document starts or ends on the way. The fuel is the length of the text. -/
def blankLines : Nat → Cursor → Option (List Char) × Cursor
  | 0, cursor => (some [], cursor)
  | fuel + 1, cursor =>
    let next := cursor.afterSpaces
    match next.lineBreak? with
    | none => (some [], next)
    | some (c, next) =>
      if next.hasMarker then (none, next)
      else
        let (more, next) := blankLines fuel next
        (more.map (c :: ·), next)

/-- What stands between two words of a plain scalar: the text it stands for, if the scalar may go on
    after it, whether a line ended, and the place after it. -/
def gap (cursor : Cursor) : Option (List Char) × Bool × Cursor :=
  let spaces := cursor.taken (· == ' ')
  let next := cursor.afterSpaces
  match next.lineBreak? with
  | none => (if spaces.isEmpty then none else some spaces, false, next)
  | some (first, next) =>
    if next.hasMarker then (none, true, next)
    else
      let (more?, next) := blankLines next.rest.length next
      (more?.map (fold first), true, next)

/-- A plain scalar that has been read: its text, whether a line ended after its last word, and the
    place after it. -/
structure Reading where
  text : List Char
  lineEnded : Bool
  next : Cursor

/-- Read words from here on. `least` is the least column of a further line outside brackets. The fuel
    is the length of the text. -/
def words (inFlow : Bool) (least : Nat) : Nat → Cursor → Reading
  | 0, cursor => ⟨[], false, cursor⟩
  | fuel + 1, cursor =>
    let first := word inFlow cursor.rest
    let (gap?, lineEnded, next) := gap (cursor.skip first.length)
    let stop : Reading := ⟨first, lineEnded, next⟩
    match gap? with
    | none => stop
    | some between =>
      if next.next? = some '#' ∨ (!inFlow ∧ next.column < least) ∨ (word inFlow next.rest).isEmpty then
        stop
      else
        let others := words inFlow least fuel next
        { others with text := first ++ between ++ others.text }

def read (inFlow : Bool) (least : Nat) (cursor : Cursor) : Reading :=
  words inFlow least cursor.rest.length cursor

end Plain

end ShaderBuild.Yaml
