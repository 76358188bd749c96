import ShaderBuild.Decimal.Literal
import ShaderBuild.Text.Utf8
import ShaderBuild.Yaml.Scalar

/-! # Tags and declarations

How a tag, an anchor and a declaration before a document are written.
-/

namespace ShaderBuild.Yaml

/-- A tag as it is written. Without a handle the suffix is the whole tag. -/
structure WrittenTag where
  handle? : Option String
  suffix : String
  deriving Repr, DecidableEq

/-- A declaration before a document. -/
inductive Declaration where
  | version (major minor : Nat)
  /-- A handle and the text it stands for. -/
  | handle (handle meaning : String)
  /-- Any other declaration means nothing. -/
  | other
  deriving Repr, DecidableEq

/-- A character of a tag's suffix, apart from escapes. -/
def isUriPart (c : Char) : Bool := c.isAlphanum || "-;/?:@&=+$,_.!~*'()[]".toList.contains c

/-- Read bytes that are written as hexadecimal digits after percent signs. The fuel is the length of
    the text. -/
def uriBytes : Nat → Cursor → Except Fault (List UInt8 × Cursor)
  | 0, cursor => .ok ([], cursor)
  | fuel + 1, cursor =>
    if cursor.next? = some '%' then
      match Quoted.code? 2 (cursor.rest.drop 1) with
      | none => .error .malformed
      | some byte => do
        let (bytes, next) ← uriBytes fuel (cursor.skip 3)
        return (byte.toUInt8 :: bytes, next)
    else .ok ([], cursor)

/-- Read the characters of a tag's suffix. The fuel is the length of the text. -/
def uriPart : Nat → Cursor → Except Fault (List Char × Cursor)
  | 0, cursor => .ok ([], cursor)
  | fuel + 1, cursor =>
    match cursor.next? with
    | none => .ok ([], cursor)
    | some c =>
      if c = '%' then do
        let (bytes, next) ← uriBytes cursor.rest.length cursor
        match Text.Utf8.decode bytes with
        | .error _ => .error .malformed
        | .ok piece => do
          let (text, next) ← uriPart fuel next
          return (piece ++ text, next)
      else if isUriPart c then do
        let (text, next) ← uriPart fuel cursor.step
        return (c :: text, next)
      else .ok ([], cursor)

/-- Read a tag's suffix, which may not be empty. -/
def uri (cursor : Cursor) : Except Fault (String × Cursor) := do
  let (text, next) ← uriPart cursor.rest.length cursor
  if text.isEmpty then .error .malformed else return (String.ofList text, next)

/-- Read a handle: an exclamation mark, or a name between two of them. -/
def handle (cursor : Cursor) : Except Fault (String × Cursor) :=
  if cursor.next? ≠ some '!' then .error .malformed
  else if cursor.peek? 1 = some ' ' then .ok ("!", cursor.step)
  else
    let name := cursor.step.taken isNamePart
    let next := cursor.step.after isNamePart
    if next.next? = some '!' then .ok (String.ofList ('!' :: name ++ ['!']), next.step)
    else .error .malformed

/-- Read a tag that is written out in angle brackets, from its suffix on. -/
def verbatimTag (cursor : Cursor) : Except Fault (WrittenTag × Cursor) := do
  let (suffix, next) ← uri cursor
  if next.next? = some '>' then return (⟨none, suffix⟩, next.step) else .error .malformed

/-- Read a tag that is written with a handle. Without a second exclamation mark the handle is the
    first one. -/
def shortTag (cursor : Cursor) : Except Fault (WrittenTag × Cursor) := do
  let word := (cursor.rest.drop 1).takeWhile fun c => !endsWord (some c)
  let (named, next) ← if word.contains '!' then handle cursor else .ok ("!", cursor.step)
  let (suffix, next) ← uri next
  return (⟨some named, suffix⟩, next)

def readTag (cursor : Cursor) : Except Fault (WrittenTag × Cursor) := do
  let (tag, next) ←
    if cursor.peek? 1 = some '<' then verbatimTag (cursor.skip 2)
    else if endsToken (cursor.peek? 1) then .ok (⟨none, "!"⟩, cursor.step)
    else shortTag cursor
  if endsWord next.next? then return (tag, next) else .error .malformed

def endsName (next? : Option Char) : Bool :=
  endsToken next? ||
    match next? with
    | some c => "?:,]\x7d%@`".toList.contains c
    | none => true

/-- Read the name of an anchor, from its indicator on. -/
def readName (cursor : Cursor) : Except Fault (String × Cursor) :=
  let name := cursor.step.taken isNamePart
  let next := cursor.step.after isNamePart
  if !name.isEmpty ∧ endsName next.next? then .ok (String.ofList name, next) else .error .malformed

/-- Read a number of a version, leading zeros and all. -/
def versionNumber (cursor : Cursor) : Except Fault (Nat × Cursor) :=
  let digits := cursor.taken Char.isDigit
  if digits.isEmpty then .error .malformed
  else if digits.length > Decimal.longestInteger then .error (.longInteger digits.length)
  else .ok (Decimal.digitsValue digits, cursor.after Char.isDigit)

def version (cursor : Cursor) : Except Fault (Declaration × Cursor) := do
  let (major, next) ← versionNumber cursor
  if next.next? ≠ some '.' then .error .malformed
  else
    let (minor, next) ← versionNumber next.step
    if endsWord next.next? then return (.version major minor, next) else .error .malformed

def handleMeaning (cursor : Cursor) : Except Fault (Declaration × Cursor) := do
  let (named, next) ← handle cursor
  if next.next? ≠ some ' ' then .error .malformed
  else
    let (meaning, next) ← uri next.afterSpaces
    if endsWord next.next? then return (.handle named meaning, next) else .error .malformed

/-- Read a declaration, from its percent sign to the end of its line. -/
def readDeclaration (cursor : Cursor) : Except Fault (Declaration × Cursor) := do
  let name := cursor.step.taken isNamePart
  let next := cursor.step.after isNamePart
  if name.isEmpty ∨ !endsWord next.next? then .error .malformed
  else
    let (declaration, next) ←
      if name = "YAML".toList then version next.afterSpaces
      else if name = "TAG".toList then handleMeaning next.afterSpaces
      else .ok (.other, next.lineEnd)
    let next ← Block.afterHead next
    return (declaration, next)

end ShaderBuild.Yaml
