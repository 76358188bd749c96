import ShaderBuild.Value

/-! # The order of sets

The members of a set stand in a table of slots, and the set lists them slot by slot. A member that is a
number asks for the slot that its residue names; if that one and the ones right after it are taken, it asks
further on. So numbers come out in an order of their own. Other members have no residue that stays the same
from one run to the next; a set with such members lists them as they came.
-/

namespace ShaderBuild.Yaml

namespace Residue

/-- The modulus of the residues, a prime. -/
def modulus : Nat := 0x1FFFFFFFFFFFFFFF

/-- The number of binary digits of the modulus. A shift by as many places leaves a residue as it is. -/
def width : Nat := 61

/-- The residue of what has no bound. -/
def unbounded : Nat := 314159

/-- A residue with its sign, as a word of 64 bits. Minus one is not used. -/
def word (negative : Bool) (residue : Nat) : UInt64 :=
  if !negative then residue.toUInt64
  else if residue = 1 then 0 - 2
  else 0 - residue.toUInt64

/-- The word of a float, if it is a number. Floats and integers of the same value have the same word. -/
def ofFloat? (x : Float) : Option UInt64 :=
  let magnitude := x.toBits &&& 0x7FFFFFFFFFFFFFFF
  let negative : Bool := x.toBits ≥ 0x8000000000000000
  if magnitude > 0x7FF0000000000000 then none
  else if magnitude = 0x7FF0000000000000 then some (word negative unbounded)
  else
    let binary := Decimal.Binary.ofBits magnitude
    let shift := (binary.exponent % (width : Int)).toNat
    some (word negative (binary.mantissa * Nat.pow 2 shift % modulus))

/-- The word of a value, if it is a number. -/
def ofValue? : Value → Option UInt64
  | .bool b => some (if b then 1 else 0)
  | .int n => some (word (n < 0) (n.natAbs % modulus))
  | .float x => ofFloat? x
  | _ => none

end Residue

/-- A table of slots for values with their words. The number of slots is a power of two. -/
abbrev SlotTable := Array (Option (UInt64 × Value))

namespace SlotTable

def empty (size : Nat) : SlotTable := Array.replicate size none

/-- The number of slots of the smallest table. -/
def leastSize : Nat := 8

/-- The least number of slots above a given number. The fuel bounds the doublings. -/
def sizeAbove (n : Nat) : Nat → Nat → Nat
  | 0, size => size
  | fuel + 1, size => if size ≤ n then sizeAbove n fuel (2 * size) else size

/-- The slots after the first one of a run. -/
def runLength : Nat := 9

/-- The slots of the run that starts at a slot; a run that would leave the table has one slot. -/
def run (size start : Nat) : List Nat :=
  if start + runLength < size then List.range' start (runLength + 1) else [start]

/-- The first free slot from a slot on. Each time a run is taken, `rest`, which starts as the word itself,
    says less of where the next one is, so that in the end the runs go through the whole table. -/
def freeSlot (table : SlotTable) : Nat → Nat → Nat → Nat
  | 0, start, _ => start
  | fuel + 1, start, rest =>
    match (run table.size start).find? fun slot => (table.getD slot none).isNone with
    | some slot => slot
    | none =>
      let rest := rest / 32
      freeSlot table fuel ((start * 5 + 1 + rest) % table.size) rest

def place (table : SlotTable) (member : UInt64 × Value) : SlotTable :=
  let word := member.1.toNat
  table.setIfInBounds (freeSlot table (table.size + 64) (word % table.size) word) (some member)

def members (table : SlotTable) : List (UInt64 × Value) := table.toList.filterMap id

/-- The members in a new table with more slots than a given number. -/
def enlarge (table : SlotTable) (n : Nat) : SlotTable :=
  table.members.foldl place (empty (sizeAbove n (n + 1) leastSize))

/-- Whether a number of members is too much for a table. -/
def isCrowded (size count : Nat) : Bool := count * 5 ≥ (size - 1) * 3

/-- Add a member. A table that gets crowded is enlarged, a very large one less so. -/
def add (table : SlotTable) (member : UInt64 × Value) : SlotTable :=
  let table := table.place member
  let count := table.members.length
  if isCrowded table.size count then
    table.enlarge (if count > 50000 then count * 2 else count * 4)
  else table

/-- The table of some members. There is room for all of them from the start. -/
def ofMembers (members : List (UInt64 × Value)) : SlotTable :=
  let count := members.length
  let size := if isCrowded leastSize count then sizeAbove (count * 2) (count + 1) leastSize else leastSize
  members.foldl add (empty size)

end SlotTable

/-- The members of a set in the order in which it lists them. -/
def setOrder (items : List Value) : List Value :=
  match items.mapM fun item => (Residue.ofValue? item).map fun word => (word, item) with
  | some members => (SlotTable.ofMembers members).members.map (·.2)
  | none => items

end ShaderBuild.Yaml
