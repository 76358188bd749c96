import ShaderBuild.CommandLine.Flag
import ShaderBuild.Text.Digit

/-! # Words of a command line

A word that starts with a dash is meant as a flag, unless it looks like a negative number or holds a
space. A long flag can be abbreviated, and a word can hold the value of its flag. After the word `--`
all words stand for themselves.
-/

namespace ShaderBuild.CommandLine

/-- A flag as a word names it. -/
structure Mention where
  flag : Flag
  /-- The spelling in full. -/
  spelling : String
  /-- The value that the word holds. -/
  value? : Option String
  deriving Repr, DecidableEq

/-- What a word is meant as. -/
inductive Word where
  | operand (text : String)
  | separator
  /-- A flag, known or not. -/
  | flag (text : String) (mention? : Option Mention)
  deriving Repr, DecidableEq

def Word.text : Word → String
  | .operand text => text
  | .separator => "--"
  | .flag text _ => text

/-- A word cut at its first equals sign. -/
def cutValue (word : List Char) : String × Option String :=
  let spelling := word.takeWhile (· != '=')
  match word.drop spelling.length with
  | _ :: value => (String.ofList spelling, some (String.ofList value))
  | [] => (String.ofList spelling, none)

/-- The flag that a word spells in full, with or without a value after an equals sign. -/
def spelledOut? (usage : Usage) (word : String) : Option Mention :=
  match usage.flag? word with
  | some flag => some ⟨flag, word, none⟩
  | none =>
    let (spelling, value?) := cutValue word.toList
    (usage.flag? spelling).map fun flag => ⟨flag, spelling, value?⟩

/-- The flags that a word abbreviates. A letter after one dash is never abbreviated, but its value can
    follow it directly. -/
def abbreviated (usage : Usage) (word : List Char) : List Mention :=
  match word with
  | '-' :: '-' :: _ =>
    let (start, value?) := cutValue word
    (usage.spellings.filter fun entry => start.toList.isPrefixOf entry.1.toList).map
      fun (spelling, flag) => ⟨flag, spelling, value?⟩
  | dash :: letter :: value =>
    let spelling := String.ofList [dash, letter]
    ((usage.flag? spelling).map fun flag =>
      ⟨flag, spelling, some (String.ofList value)⟩).toList
  | _ => []

/-- A text without one line end after it. -/
def dropLineEnd (text : List Char) : List Char :=
  if text.getLast? = some '\n' then text.dropLast else text

/-- Whether a word looks like a negative number. -/
def isNegativeNumber (word : List Char) : Bool :=
  match dropLineEnd word with
  | '-' :: digits =>
    match digits.dropWhile Text.isDigit with
    | [] => !digits.isEmpty
    | '.' :: fraction => !fraction.isEmpty && fraction.all Text.isDigit
    | _ => false
  | _ => false

/-- Whether a word that names no flag stands for itself nevertheless. -/
def standsForItself (word : List Char) : Bool := isNegativeNumber word || word.contains ' '

/-- What a word that starts with a dash and is not alone is meant as. -/
def dashed (usage : Usage) (word : String) : Except Stop Word :=
  match spelledOut? usage word with
  | some mention => .ok (.flag word (some mention))
  | none =>
    match abbreviated usage word.toList with
    | [mention] => .ok (.flag word (some mention))
    | [] => .ok (if standsForItself word.toList then .operand word else .flag word none)
    | mentions => .error (.misuse usage.program (.ambiguous word (mentions.map (·.spelling))))

/-- What a word before any separator is meant as. -/
def meaning (usage : Usage) (word : String) : Except Stop Word :=
  match word.toList with
  | '-' :: _ :: _ => dashed usage word
  | _ => .ok (.operand word)

/-- What the words of a command line are meant as. -/
def meanings (usage : Usage) : List String → Except Stop (List Word)
  | [] => .ok []
  | word :: words =>
    if word = "--" then .ok (.separator :: words.map .operand)
    else do
      let first ← meaning usage word
      let others ← meanings usage words
      return first :: others

end ShaderBuild.CommandLine
