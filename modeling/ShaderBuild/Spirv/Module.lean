import ShaderBuild.Text.Hexadecimal

/-! # SPIR-V modules

A module is a sequence of 32-bit words, of which the first is the magic number. Stored, a word is
four bytes, and the magic number tells their order.
-/

namespace ShaderBuild.Spirv

/-- The first word of every module. -/
def magic : Nat := 0x07230203

/-- Which byte of a word is stored first. -/
inductive ByteOrder where
  | little
  | big
  deriving Repr, DecidableEq

def ByteOrder.word : ByteOrder → UInt8 → UInt8 → UInt8 → UInt8 → Nat
  | .little, a, b, c, d => a.toNat + 256 * (b.toNat + 256 * (c.toNat + 256 * d.toNat))
  | .big, a, b, c, d => d.toNat + 256 * (c.toNat + 256 * (b.toNat + 256 * a.toNat))

/-- The words that bytes store. Bytes that make no whole word are dropped. -/
def ByteOrder.words (order : ByteOrder) : List UInt8 → List Nat
  | a :: b :: c :: d :: rest => order.word a b c d :: order.words rest
  | _ => []

def ByteOrder.bytes (order : ByteOrder) (word : Nat) : List UInt8 :=
  let little := [word, word / 0x100, word / 0x10000, word / 0x1000000].map Nat.toUInt8
  match order with
  | .little => little
  | .big => little.reverse

/-- Why bytes are no module. -/
inductive ModuleFault where
  /-- The size is not a whole number of words. -/
  | ragged (size : Nat)
  | empty
  /-- The first word is not the magic number in either order. -/
  | foreign (first : List UInt8)
  deriving Repr, DecidableEq

def hexText (bytes : List UInt8) : String :=
  String.ofList (bytes.flatMap fun byte => Text.hexFixed 2 byte.toNat)

def ModuleFault.message : ModuleFault → String
  | .ragged size => s!"SPIR-V binary size {size} is not a multiple of 4"
  | .empty => "SPIR-V binary is empty"
  | .foreign first => s!"not a SPIR-V binary (magic {hexText first})"

/-- Read a module, in the byte order that its magic number shows. -/
def decode (bytes : List UInt8) : Except ModuleFault (List Nat) :=
  if bytes.length % 4 ≠ 0 then .error (.ragged bytes.length)
  else if bytes.isEmpty then .error .empty
  else if (ByteOrder.little.words bytes).head? = some magic then .ok (ByteOrder.little.words bytes)
  else if (ByteOrder.big.words bytes).head? = some magic then .ok (ByteOrder.big.words bytes)
  else .error (.foreign (bytes.take 4))

/-- Whether a number fits in a word. -/
def isWord (n : Int) : Bool := 0 ≤ n && n < 0x100000000

/-- Store words, the lowest byte of each first. Numbers that are no words cannot be stored. -/
def encode? (words : List Int) : Option (List UInt8) :=
  if words.all isWord then some (words.flatMap fun word => ByteOrder.little.bytes word.toNat)
  else none

end ShaderBuild.Spirv
