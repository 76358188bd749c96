import ShaderBuild.Yaml.Moment

/-! # Kinds of plain scalars

A scalar about which nothing is said is of the first kind whose form its text has.
-/

namespace ShaderBuild.Yaml

/-- The kinds that a value may have. -/
inductive Kind where
  | null
  | bool
  | int
  | float
  | timestamp
  | binary
  | text
  | sequence
  | mapping
  | set
  | orderedMap
  | pairs
  /-- A key that brings in the entries of other mappings. -/
  | merge
  /-- A key for the value that stands for a whole mapping. -/
  | standIn
  | foreign
  deriving Repr, DecidableEq

namespace Kind

/-- What the tags of the standard kinds start with. -/
def standardLead : String := "tag:yaml.org,2002:"

/-- The names of the standard kinds in tags. -/
def names : List (String × Kind) :=
  [("null", .null), ("bool", .bool), ("int", .int), ("float", .float), ("timestamp", .timestamp),
   ("binary", .binary), ("str", .text), ("seq", .sequence), ("map", .mapping), ("set", .set),
   ("omap", .orderedMap), ("pairs", .pairs), ("merge", .merge), ("value", .standIn)]

def ofTag (tag : String) : Kind :=
  let found := names.find? fun (name, _) => standardLead ++ name = tag
  (found.map (·.2)).getD .foreign

/-- The words for truth values, in lower case. -/
def truthWords : List (String × Bool) :=
  [("yes", true), ("no", false), ("true", true), ("false", false), ("on", true), ("off", false)]

/-- A word in lower case, in upper case or with a capital. -/
def spellings (word : String) : List String := [word, word.capitalize, word.toUpper]

/-- Whether a text is a truth value. -/
def isTruth (text : List Char) : Bool :=
  truthWords.any fun (word, _) => (spellings word).contains (String.ofList text)

def isDigitPart (c : Char) : Bool := c.isDigit || c == '_'

/-- A number below sixty, of one or two digits. -/
def isSixtieth : List Char → Bool
  | [a] => a.isDigit
  | [a, b] => '0' ≤ a && a ≤ '5' && b.isDigit
  | _ => false

/-- Digits with underscores, the first a digit, and after them numbers below sixty with colons before
    them. -/
def isSexagesimal (first : Char → Bool) (text : List Char) : Bool :=
  match Text.splitAt ':' text with
  | (lead :: digits) :: part :: parts =>
    first lead && digits.all isDigitPart && (part :: parts).all isSixtieth
  | _ => false

/-- Whether an unsigned text is an integer: binary, octal, decimal, hexadecimal or in base sixty. -/
def isUnsignedInteger (text : List Char) : Bool :=
  match text with
  | ['0'] => true
  | '0' :: 'b' :: digits => !digits.isEmpty && digits.all fun c => c == '0' || c == '1' || c == '_'
  | '0' :: 'x' :: digits => !digits.isEmpty && digits.all fun c => (Text.hexValue? c).isSome || c == '_'
  | '0' :: digits => digits.all fun c => ('0' ≤ c && c ≤ '7') || c == '_'
  | first :: digits =>
    (Decimal.isLeading first && digits.all isDigitPart) || isSexagesimal Decimal.isLeading text
  | [] => false

def isInteger (text : List Char) : Bool := isUnsignedInteger (Decimal.takeSign text).2

/-- Whether a text is empty or an exponent with a sign. -/
def isExponent : List Char → Bool
  | [] => true
  | mark :: sign :: digits =>
    (mark == 'e' || mark == 'E') && (sign == '-' || sign == '+') && !digits.isEmpty &&
      digits.all Char.isDigit
  | _ => false

/-- Whether a text is a fraction with digits, underscores and perhaps an exponent, after its point. -/
def isFraction (text : List Char) : Bool := isExponent (text.dropWhile isDigitPart)

/-- Whether a text is a decimal with a point after at least one digit. -/
def isPointed (text : List Char) : Bool :=
  match text with
  | first :: rest =>
    first.isDigit &&
      match rest.dropWhile isDigitPart with
      | '.' :: fraction => isFraction fraction
      | _ => false
  | [] => false

/-- Whether a text is a number in base sixty with a point in its last place. -/
def isPointedSexagesimal (text : List Char) : Bool :=
  match text.dropWhile (· != '.') with
  | '.' :: fraction => isSexagesimal Char.isDigit (text.takeWhile (· != '.')) && fraction.all isDigitPart
  | _ => false

/-- Whether a text is infinity without its sign. -/
def isInfinity (text : List Char) : Bool := [".inf", ".Inf", ".INF"].contains (String.ofList text)

/-- Whether a text is a float: a decimal with a point, one in base sixty, infinity, or no number. -/
def isFloat (text : List Char) : Bool :=
  let unsigned := (Decimal.takeSign text).2
  isPointed unsigned || isPointedSexagesimal unsigned || isInfinity unsigned ||
    [".nan", ".NaN", ".NAN"].contains (String.ofList text) ||
    match text with
    | '.' :: first :: rest => first.isDigit && isFraction rest
    | _ => false

def isNull (text : List Char) : Bool := ["", "~", "null", "Null", "NULL"].contains (String.ofList text)

def isTimestamp (text : List Char) : Bool :=
  match WrittenMoment.read? text with
  | some moment => moment.isEvident
  | none => false

/-- A text without one line end at its end. -/
def withoutFinalBreak (text : List Char) : List Char :=
  if text.getLast? = some '\n' then text.dropLast else text

/-- The kind of a text. One line end after it does not count, but a lone line end is a text. -/
def ofText (text : String) : Kind :=
  let chars := withoutFinalBreak text.toList
  if text = "\n" then .text
  else if isTruth chars then .bool
  else if isFloat chars then .float
  else if isInteger chars then .int
  else if chars = ['<', '<'] then .merge
  else if isNull chars then .null
  else if isTimestamp chars then .timestamp
  else if chars = ['='] then .standIn
  else if ["!", "&", "*"].contains (String.ofList chars) then .foreign
  else .text

end Kind

end ShaderBuild.Yaml
