import ShaderBuild.Yaml.Tag

/-! # Tokens of YAML texts

A text is cut into tokens; tokens that mark where collections start and end are made from the
indentation. A key of a mapping is known as a key only when the colon after it is seen, so the places
where a key may have started are kept until then.
-/

namespace ShaderBuild.Yaml

/-- A token. -/
inductive Token where
  | declaration (declaration : Declaration)
  | documentStart
  | documentEnd
  | blockSequence
  | blockMapping
  | blockEnd
  | flowSequence
  | flowSequenceEnd
  | flowMapping
  | flowMappingEnd
  /-- A hyphen before an item. -/
  | entry
  /-- A comma between items. -/
  | separator
  | key
  | value
  | alias (name : String)
  | anchor (name : String)
  | tag (tag : WrittenTag)
  | scalar (text : String) (plain : Bool)
  /-- The place behind which the text cannot be cut further. -/
  | fault (fault : Fault)
  deriving Repr, DecidableEq

/-- A place where a key may have started. -/
structure KeyPlace where
  /-- The number of tokens before it. -/
  position : Nat
  /-- Nothing but a key can start there. -/
  required : Bool
  index : Nat
  line : Nat
  column : Nat
  deriving Repr

/-- How far reading has come. -/
structure Scanner where
  cursor : Cursor
  tokens : Array Token
  /-- The column of the innermost block collection; less than zero if there is none. -/
  indent : Int
  /-- The columns of the collections around it, the innermost first. -/
  outer : List Int
  /-- The number of open brackets. -/
  depth : Nat
  /-- Whether a key may start here. -/
  keyAllowed : Bool
  /-- Where a key may have started, by number of open brackets. -/
  places : List (Nat × KeyPlace)

namespace Scanner

def start (text : List Char) : Scanner := ⟨Cursor.start text, #[], -1, [], 0, true, []⟩

/-- Whether brackets are open, in which case indentation means nothing. -/
def inFlow (scanner : Scanner) : Bool := scanner.depth != 0

def push (token : Token) (scanner : Scanner) : Scanner :=
  { scanner with tokens := scanner.tokens.push token }

def moveTo (cursor : Cursor) (scanner : Scanner) : Scanner := { scanner with cursor }

/-- Skip blanks, comments and line ends. A key may start on a new line outside brackets. The fuel is
    the length of the text. -/
def skipBlanks : Nat → Scanner → Scanner
  | 0, scanner => scanner
  | fuel + 1, scanner =>
    let next := scanner.cursor.afterSpaces.afterComment
    match next.lineBreak? with
    | none => scanner.moveTo next
    | some (_, next) =>
      skipBlanks fuel { scanner with cursor := next, keyAllowed := scanner.keyAllowed || !scanner.inFlow }

/-- Skip a byte order mark at the very beginning. -/
def skipMark (scanner : Scanner) : Scanner :=
  if scanner.cursor.index = 0 ∧ scanner.cursor.next? = some '\uFEFF' then
    scanner.moveTo scanner.cursor.step
  else scanner

/-- A key is on one line and not longer than this. -/
def longestKey : Nat := 1024

/-- Whether a key that started there can no longer be one. -/
def isStale (scanner : Scanner) (place : KeyPlace) : Bool :=
  place.line != scanner.cursor.line || scanner.cursor.index - place.index > longestKey

/-- Forget the places where a key can no longer have started. -/
def dropStale (scanner : Scanner) : Except Fault Scanner :=
  if scanner.places.any fun entry => scanner.isStale entry.2 && entry.2.required then
    .error .malformed
  else .ok { scanner with places := scanner.places.filter fun entry => !scanner.isStale entry.2 }

/-- Forget the place where a key may have started between the innermost brackets. -/
def dropPlace (scanner : Scanner) : Except Fault Scanner :=
  if scanner.places.any fun entry => entry.1 == scanner.depth && entry.2.required then
    .error .malformed
  else .ok { scanner with places := scanner.places.filter fun entry => entry.1 != scanner.depth }

/-- Remember that a key may start here. -/
def savePlace (scanner : Scanner) : Except Fault Scanner :=
  if scanner.keyAllowed then do
    let cursor := scanner.cursor
    let required := !scanner.inFlow && scanner.indent == cursor.column
    let scanner ← scanner.dropPlace
    let place : KeyPlace :=
      ⟨scanner.tokens.size, required, cursor.index, cursor.line, cursor.column⟩
    return { scanner with places := (scanner.depth, place) :: scanner.places }
  else .ok scanner

/-- The collections that are left when a line starts at a column: how many end, and the rest. -/
def closed (column : Int) : Int → List Int → Nat × Int × List Int
  | indent, [] => (0, indent, [])
  | indent, around :: outer =>
    if indent > column then
      let (count, indent, outer) := closed column around outer
      (count + 1, indent, outer)
    else (0, indent, around :: outer)

/-- End the block collections that are indented further than a column. -/
def unwind (column : Int) (scanner : Scanner) : Scanner :=
  if scanner.inFlow then scanner
  else
    let (count, indent, outer) := closed column scanner.indent scanner.outer
    { scanner with
      indent, outer, tokens := scanner.tokens ++ Array.replicate count Token.blockEnd }

/-- Start a block collection at a column if it is indented further than the one around it. The token
    for it goes to a given position. -/
def openAt (token : Token) (column position : Nat) (scanner : Scanner) : Scanner :=
  if scanner.inFlow ∨ scanner.indent ≥ column then scanner
  else
    { scanner with
      indent := column, outer := scanner.indent :: scanner.outer,
      tokens := scanner.tokens.insertIdxIfInBounds position token }

def openHere (token : Token) (scanner : Scanner) : Scanner :=
  scanner.openAt token scanner.cursor.column scanner.tokens.size

def declaration (scanner : Scanner) : Except Fault Scanner := do
  let scanner ← (scanner.unwind (-1)).dropPlace
  let (found, next) ← readDeclaration scanner.cursor
  return { scanner.push (.declaration found) with cursor := next, keyAllowed := false }

/-- Read the start or the end of a document. -/
def marker (token : Token) (scanner : Scanner) : Except Fault Scanner := do
  let scanner ← (scanner.unwind (-1)).dropPlace
  return { scanner.push token with cursor := scanner.cursor.skip 3, keyAllowed := false }

def openBracket (token : Token) (scanner : Scanner) : Except Fault Scanner := do
  let scanner ← scanner.savePlace
  return { scanner.push token with
    cursor := scanner.cursor.step, depth := scanner.depth + 1, keyAllowed := true }

def closeBracket (token : Token) (scanner : Scanner) : Except Fault Scanner := do
  let scanner ← scanner.dropPlace
  if scanner.inFlow then
    return { scanner.push token with
      cursor := scanner.cursor.step, depth := scanner.depth - 1, keyAllowed := false }
  else .error .malformed

def separator (scanner : Scanner) : Except Fault Scanner := do
  let scanner ← scanner.dropPlace
  return { scanner.push .separator with cursor := scanner.cursor.step, keyAllowed := true }

def entry (scanner : Scanner) : Except Fault Scanner :=
  if !scanner.inFlow ∧ !scanner.keyAllowed then .error .malformed
  else do
    let scanner ← (scanner.openHere .blockSequence).dropPlace
    return { scanner.push .entry with cursor := scanner.cursor.step, keyAllowed := true }

/-- Read the question mark before a key. -/
def key (scanner : Scanner) : Except Fault Scanner :=
  if !scanner.inFlow ∧ !scanner.keyAllowed then .error .malformed
  else do
    let scanner ← (scanner.openHere .blockMapping).dropPlace
    return { scanner.push .key with cursor := scanner.cursor.step, keyAllowed := !scanner.inFlow }

/-- Read the colon before a value. A key that may have started between the same brackets did start. -/
def value (scanner : Scanner) : Except Fault Scanner :=
  match scanner.places.lookup scanner.depth with
  | some place =>
    let keyed :=
      { scanner with
        tokens := scanner.tokens.insertIdxIfInBounds place.position Token.key,
        places := scanner.places.filter fun entry => entry.1 != scanner.depth }
    let opened := keyed.openAt .blockMapping place.column place.position
    .ok { opened.push .value with cursor := scanner.cursor.step, keyAllowed := false }
  | none =>
    if !scanner.inFlow ∧ !scanner.keyAllowed then .error .malformed
    else do
      let scanner ← (scanner.openHere .blockMapping).dropPlace
      return { scanner.push .value with cursor := scanner.cursor.step, keyAllowed := !scanner.inFlow }

/-- Read the name of an alias or an anchor. -/
def name (make : String → Token) (scanner : Scanner) : Except Fault Scanner := do
  let scanner ← scanner.savePlace
  let (found, next) ← readName scanner.cursor
  return { scanner.push (make found) with cursor := next, keyAllowed := false }

def tag (scanner : Scanner) : Except Fault Scanner := do
  let scanner ← scanner.savePlace
  let (found, next) ← readTag scanner.cursor
  return { scanner.push (.tag found) with cursor := next, keyAllowed := false }

/-- The least column of text inside the innermost block collection. -/
def leastColumn (scanner : Scanner) : Nat := (scanner.indent + 1).toNat

def blockScalar (folded : Bool) (scanner : Scanner) : Except Fault Scanner := do
  let scanner ← scanner.dropPlace
  let (text, next) ← Block.read folded (max 1 scanner.leastColumn) scanner.cursor
  return { scanner.push (.scalar (String.ofList text) false) with cursor := next, keyAllowed := true }

def quotedScalar (mark : Char) (scanner : Scanner) : Except Fault Scanner := do
  let scanner ← scanner.savePlace
  let (text, next) ← Quoted.read mark scanner.cursor
  return { scanner.push (.scalar (String.ofList text) false) with cursor := next, keyAllowed := false }

def plainScalar (scanner : Scanner) : Except Fault Scanner := do
  let scanner ← scanner.savePlace
  let found := Plain.read scanner.inFlow scanner.leastColumn scanner.cursor
  return { scanner.push (.scalar (String.ofList found.text) true) with
    cursor := found.next, keyAllowed := found.lineEnded }

/-- Whether a plain scalar can start with the character `c` before `next?`. -/
def startsPlain (inFlow : Bool) (c : Char) (next? : Option Char) : Bool :=
  if "-?:,[]\x7b\x7d#&*!|>'\"%@`".toList.contains c then
    !endsToken next? && (c == '-' || (!inFlow && (c == '?' || c == ':')))
  else !endsToken (some c)

/-- Read the token that starts with the character `c`. -/
def token (c : Char) (scanner : Scanner) : Except Fault Scanner :=
  let next? := scanner.cursor.peek? 1
  let atStart := scanner.cursor.column == 0
  if c = '%' ∧ atStart then scanner.declaration
  else if atStart ∧ scanner.cursor.hasTriple '-' then scanner.marker .documentStart
  else if atStart ∧ scanner.cursor.hasTriple '.' then scanner.marker .documentEnd
  else if c = '[' then scanner.openBracket .flowSequence
  else if c = '{' then scanner.openBracket .flowMapping
  else if c = ']' then scanner.closeBracket .flowSequenceEnd
  else if c = '}' then scanner.closeBracket .flowMappingEnd
  else if c = ',' then scanner.separator
  else if c = '-' ∧ endsToken next? then scanner.entry
  else if c = '?' ∧ (scanner.inFlow ∨ endsToken next?) then scanner.key
  else if c = ':' ∧ (scanner.inFlow ∨ endsToken next?) then scanner.value
  else if c = '*' then scanner.name .alias
  else if c = '&' then scanner.name .anchor
  else if c = '!' then scanner.tag
  else if c = '|' ∧ !scanner.inFlow then scanner.blockScalar false
  else if c = '>' ∧ !scanner.inFlow then scanner.blockScalar true
  else if c = '\'' ∨ c = '"' then scanner.quotedScalar c
  else if startsPlain scanner.inFlow c next? then scanner.plainScalar
  else .error .malformed

/-- Read the next token with the ends of collections before it. At the end of the text nothing is left
    to go on with. -/
def next (scanner : Scanner) : Except Fault (Scanner × Bool) := do
  let scanner ← (scanner.skipMark.skipBlanks (scanner.cursor.rest.length + 1)).dropStale
  let scanner := scanner.unwind scanner.cursor.column
  match scanner.cursor.next? with
  | none => return (← (scanner.unwind (-1)).dropPlace, false)
  | some c => return (← scanner.token c, true)

/-- The number of tokens that are certain: those from a place on where a key may have started are not,
    since the key would come before them. -/
def certain (scanner : Scanner) : Nat :=
  let pending := scanner.places.filter fun entry => !scanner.isStale entry.2
  (pending.map fun entry => entry.2.position).foldl min scanner.tokens.size

/-- Stop at a fault. It takes the place of the tokens that are not certain. -/
def stop (fault : Fault) (scanner : Scanner) : List Token :=
  scanner.tokens.toList.take scanner.certain ++ [.fault fault]

/-- Read all tokens from here on. The fuel is more than the length of the text. -/
def run : Nat → Scanner → List Token
  | 0, scanner => scanner.tokens.toList
  | fuel + 1, scanner =>
    match scanner.next with
    | .ok (scanner, true) => run fuel scanner
    | .ok (scanner, false) => scanner.tokens.toList
    | .error fault => scanner.stop fault

end Scanner

def tokens (text : List Char) : List Token :=
  if text.all isAllowed then Scanner.run (text.length + 1) (Scanner.start text)
  else [.fault .malformed]

end ShaderBuild.Yaml
