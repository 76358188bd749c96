import ShaderBuild.Text.Hexadecimal

/-! # Reading UTF-8

Bytes are read one character at a time. Where no character can be read, the fault covers the longest
initial part of a character that is there, or one byte, and says what was wrong with it. Strict
reading stops at the first fault; lenient reading puts one U+FFFD in its place.
-/

namespace ShaderBuild.Text.Utf8

/-- What is wrong with a stretch of bytes. -/
inductive Defect where
  /-- The first byte begins no character. -/
  | badStart
  /-- A later byte does not continue the character. -/
  | badContinuation
  /-- The bytes end inside a character. -/
  | truncated
  deriving Repr, DecidableEq

/-- The first fault of a byte sequence: the bytes it covers and where they start. -/
structure Fault where
  defect : Defect
  start : Nat
  bytes : List UInt8
  deriving Repr, DecidableEq

def Defect.reason : Defect → String
  | .badStart => "invalid start byte"
  | .badContinuation => "invalid continuation byte"
  | .truncated => "unexpected end of data"

/-- The text of a fault: a single byte is shown, several are named by their positions. -/
def Fault.message (fault : Fault) : String :=
  match fault.bytes with
  | [byte] =>
    s!"'utf-8' codec can't decode byte 0x{String.ofList (hexPadded 2 byte.toNat)} in position " ++
      s!"{fault.start}: {fault.defect.reason}"
  | bytes =>
    s!"'utf-8' codec can't decode bytes in position {fault.start}-" ++
      s!"{fault.start + bytes.length - 1}: {fault.defect.reason}"

/-- The outcome of reading one character off the front of a nonempty byte sequence. -/
inductive Step where
  /-- A character that took `size` bytes. -/
  | char (c : Char) (size : Nat)
  /-- No character; the fault covers `size` bytes. -/
  | fault (defect : Defect) (size : Nat)
  deriving Repr

/-- How many bytes the first byte announces after itself, and the range of the next byte. -/
def announced? (first : Nat) : Option (Nat × Nat × Nat) :=
  if first < 0xC2 then none
  else if first < 0xE0 then some (1, 0x80, 0xBF)
  else if first = 0xE0 then some (2, 0xA0, 0xBF)
  else if first = 0xED then some (2, 0x80, 0x9F)
  else if first < 0xF0 then some (2, 0x80, 0xBF)
  else if first = 0xF0 then some (3, 0x90, 0xBF)
  else if first < 0xF4 then some (3, 0x80, 0xBF)
  else if first = 0xF4 then some (3, 0x80, 0x8F)
  else none

/-- Read `count` continuation bytes, the first of them between `low` and `high`. `size` bytes have
    been read and `code` collects their payload. -/
def continuation : (count low high size code : Nat) → List UInt8 → Step
  | 0, _, _, size, code, _ => .char (Char.ofNat code) size
  | _ + 1, _, _, size, _, [] => .fault .truncated size
  | count + 1, low, high, size, code, byte :: rest =>
    if low ≤ byte.toNat ∧ byte.toNat ≤ high then
      continuation count 0x80 0xBF (size + 1) (code * 64 + byte.toNat % 64) rest
    else .fault .badContinuation size

/-- Read one character that starts with the byte `first`. -/
def step (first : UInt8) (rest : List UInt8) : Step :=
  if first.toNat < 0x80 then .char (Char.ofNat first.toNat) 1
  else
    match announced? first.toNat with
    | none => .fault .badStart 1
    | some (count, low, high) =>
      continuation count low high 1 (first.toNat % Nat.pow 2 (6 - count)) rest

/-- Read all bytes from position `start` on. The fuel is the number of bytes. -/
def decodeFrom : (fuel start : Nat) → List UInt8 → Except Fault (List Char)
  | 0, _, _ => .ok []
  | _ + 1, _, [] => .ok []
  | fuel + 1, start, first :: rest =>
    match step first rest with
    | .char c size => (decodeFrom fuel (start + size) ((first :: rest).drop size)).map (c :: ·)
    | .fault defect size => .error ⟨defect, start, (first :: rest).take size⟩

/-- Read bytes as text, or give the first fault. -/
def decode (bytes : List UInt8) : Except Fault (List Char) := decodeFrom bytes.length 0 bytes

/-- Read bytes as text, with a replacement character for every fault. The fuel is the number of bytes. -/
def decodeLenientAux : (fuel : Nat) → List UInt8 → List Char
  | 0, _ => []
  | _ + 1, [] => []
  | fuel + 1, first :: rest =>
    match step first rest with
    | .char c size => c :: decodeLenientAux fuel ((first :: rest).drop size)
    | .fault _ size => '\uFFFD' :: decodeLenientAux fuel ((first :: rest).drop size)

/-- Read bytes as text, with a replacement character for every fault. -/
def decodeLenient (bytes : List UInt8) : List Char := decodeLenientAux bytes.length bytes

def encode (text : String) : List UInt8 := text.toUTF8.toList

end Utf8

/-- Turn the line ends `\r\n` and `\r` into `\n`. -/
def universalNewlines : List Char → List Char
  | [] => []
  | '\r' :: '\n' :: rest => '\n' :: universalNewlines rest
  | c :: rest => (if c = '\r' then '\n' else c) :: universalNewlines rest

end ShaderBuild.Text
