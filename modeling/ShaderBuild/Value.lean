import ShaderBuild.Calendar
import ShaderBuild.Decimal.Limit
import ShaderBuild.Decimal.Notation
import ShaderBuild.Text.Quoted

/-! # Data values

The values that a manifest file can hold. Mappings keep the order in which their keys first came, and the
keys are values themselves. A value that holds itself is cut off where it comes up again. A text is made of
characters, so texts with half of a pair of codes in them are left out: such a half is read as U+FFFD.
-/

namespace ShaderBuild

/-- The kinds of values that can hold themselves. -/
inductive Collection where
  | list
  | map
  | tuple
  deriving Repr, DecidableEq

namespace Collection

/-- The name of a kind of collections. -/
def kind : Collection → String
  | .list => "list"
  | .map => "dict"
  | .tuple => "tuple"

/-- A collection of a kind as it is shown, given its members. -/
def enclose (collection : Collection) (members : List String) : String :=
  let text := ", ".intercalate members
  match collection with
  | .list => "[" ++ text ++ "]"
  | .map => "\x7b" ++ text ++ "\x7d"
  | .tuple => "(" ++ text ++ ")"

end Collection

/-- A data value. There is none for a text with half of a pair of codes in it. -/
inductive Value where
  | null
  | bool (value : Bool)
  | int (value : Int)
  | float (value : Float)
  | str (text : String)
  | bytes (content : List UInt8)
  | list (items : List Value)
  | map (entries : List (Value × Value))
  | date (date : Date)
  | moment (moment : Moment)
  | set (items : List Value)
  | tuple (items : List Value)
  /-- The place where a collection comes up again inside itself. -/
  | again (collection : Collection)
  deriving Repr, Inhabited

namespace Value

/-- Bytes as a quoted text with a mark before it. -/
def quotedBytes (content : List UInt8) : String :=
  let chars := content.map fun byte => Char.ofNat byte.toNat
  let q := Text.Quoted.mark chars
  let encoded := chars.flatMap fun c =>
    if c.toNat < 0x80 then Text.Quoted.encodeChar q c else Text.Quoted.numericEscape c.toNat
  String.ofList ('b' :: q :: encoded ++ [q])

def kind : Value → String
  | .null => "NoneType"
  | .bool _ => "bool"
  | .int _ => "int"
  | .float _ => "float"
  | .str _ => "str"
  | .bytes _ => "bytes"
  | .list _ => Collection.list.kind
  | .map _ => Collection.map.kind
  | .date _ => "date"
  | .moment _ => "datetime"
  | .set _ => "set"
  | .tuple _ => Collection.tuple.kind
  | .again collection => collection.kind

/-- The name of a value's kind together with the place where the kind is at home. -/
def qualifiedKind : Value → String
  | .date _ => "datetime.date"
  | .moment _ => "datetime.datetime"
  | value => value.kind

def boolText (b : Bool) : String := if b then "True" else "False"

mutual

/-- A value as it is shown in messages. -/
def shown : Value → String
  | .null => "None"
  | .bool b => boolText b
  | .int n => s!"{n}"
  | .float x => Decimal.plainNotation.write x
  | .str s => Text.quoted s
  | .bytes content => quotedBytes content
  | .list items => Collection.list.enclose (shownList items)
  | .map entries => Collection.map.enclose (shownEntries entries)
  | .date d => d.shown
  | .moment m => m.shown
  | .set items => if items.isEmpty then "set()" else Collection.map.enclose (shownList items)
  | .tuple items => Collection.tuple.enclose (shownList items)
  | .again collection => collection.enclose ["..."]

/-- The items of a list, each as it is shown. -/
def shownList : List Value → List String
  | [] => []
  | item :: items => item.shown :: shownList items

/-- The entries of a mapping, each as it is shown. -/
def shownEntries : List (Value × Value) → List String
  | [] => []
  | (key, value) :: entries => s!"{key.shown}: {value.shown}" :: shownEntries entries

end

mutual

/-- Whether a value holds an integer that has too many digits to be written. -/
def isUnwritable : Value → Bool
  | .int n => Decimal.isUnwritable n
  | .list items | .set items | .tuple items => anyUnwritable items
  | .map entries => anyEntryUnwritable entries
  | _ => false

/-- Whether one of some values holds an integer that cannot be written. -/
def anyUnwritable : List Value → Bool
  | [] => false
  | item :: items => item.isUnwritable || anyUnwritable items

/-- Whether one of some entries holds an integer that cannot be written. -/
def anyEntryUnwritable : List (Value × Value) → Bool
  | [] => false
  | (key, value) :: entries => key.isUnwritable || value.isUnwritable || anyEntryUnwritable entries

end

/-- A value as plain text: strings, dates and moments as themselves, all else as shown. -/
def plain : Value → String
  | .str s => s
  | .date d => d.toString
  | .moment m => m.toString
  | value => value.shown

/-- The whole number that a value is, if it is one. -/
def whole? : Value → Option Int
  | .bool b => some (if b then 1 else 0)
  | .int n => some n
  | .float x =>
    let magnitude := x.toBits &&& 0x7FFFFFFFFFFFFFFF
    if magnitude ≥ 0x7FF0000000000000 then none
    else
      let binary := Decimal.Binary.ofBits magnitude
      let size : Option Nat :=
        if binary.exponent ≥ 0 then some (binary.mantissa * Nat.pow 2 binary.exponent.toNat)
        else if binary.mantissa % Nat.pow 2 (-binary.exponent).toNat = 0 then
          some (binary.mantissa / Nat.pow 2 (-binary.exponent).toNat)
        else none
      size.map fun n => if x.toBits ≥ 0x8000000000000000 then -(n : Int) else n
  | _ => none

def isNaN (x : Float) : Bool := x.toBits &&& 0x7FFFFFFFFFFFFFFF > 0x7FF0000000000000

/-- Whether two keys are one key. Numbers are compared by value, whatever their kind; what is no number
    is a key of its own each time. -/
def sameKey : Value → Value → Bool
  | .null, .null => true
  | .str a, .str b => a == b
  | .bytes a, .bytes b => a == b
  | .date a, .date b => a == b
  | .moment a, .moment b => a.same b
  | a, b =>
    match a.whole?, b.whole? with
    | some m, some n => m == n
    | none, none =>
      match a, b with
      | .float x, .float y => x.toBits == y.toBits && !isNaN x
      | _, _ => false
    | _, _ => false

/-- Set a key of a mapping. A key that is there keeps its place and its spelling. -/
def setKey (key value : Value) : List (Value × Value) → List (Value × Value)
  | [] => [(key, value)]
  | (k, v) :: rest => if k.sameKey key then (k, value) :: rest else (k, v) :: setKey key value rest

/-- Look up a key of a mapping. -/
def getKey? (key : Value) : List (Value × Value) → Option Value
  | [] => none
  | (k, v) :: rest => if k.sameKey key then some v else getKey? key rest

end Value

end ShaderBuild
