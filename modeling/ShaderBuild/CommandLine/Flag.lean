import ShaderBuild.Text.Quoted

/-! # Flags

What a command takes: flags and, besides them, one operand. A command line that does not fit is a
misuse, which is reported under the name of the program.
-/

namespace ShaderBuild.CommandLine

/-- What a flag does. -/
inductive Effect where
  /-- It takes a value. A list of choices that is not empty holds all values there are. -/
  | value (choices : List String)
  | switch
  | help
  | version
  deriving Repr, DecidableEq

/-- A flag. It is spelled with a dash and one letter, or with two dashes and a word. -/
structure Flag where
  spellings : List String
  effect : Effect
  deriving Repr, DecidableEq

/-- The name of a flag in messages. -/
def Flag.shown (flag : Flag) : String := "/".intercalate flag.spellings

def Flag.takesValue (flag : Flag) : Bool :=
  match flag.effect with
  | .value _ => true
  | _ => false

/-- What a command takes besides its flags. -/
inductive Operand where
  /-- One word, which must be there. -/
  | word (name : String)
  /-- The name of another command, and all words after it. -/
  | command (names : List String)
  deriving Repr, DecidableEq

/-- What a command takes. -/
structure Usage where
  program : String
  operand : Operand
  flags : List Flag
  deriving Repr, DecidableEq

def Usage.spellings (usage : Usage) : List (String × Flag) :=
  usage.flags.flatMap fun flag => flag.spellings.map fun spelling => (spelling, flag)

def Usage.flag? (usage : Usage) (spelling : String) : Option Flag := usage.spellings.lookup spelling

/-- How a command line does not fit. -/
inductive Misuse where
  /-- An abbreviation of several spellings. -/
  | ambiguous (word : String) (spellings : List String)
  | valueMissing (flag : Flag)
  /-- A value for a flag that takes none. -/
  | valueIgnored (flag : Flag) (value : String)
  | badChoice (name value : String) (choices : List String)
  | operandMissing (name : String)
  | unrecognized (words : List String)
  deriving Repr, DecidableEq

/-- Texts in quotation marks with commas between them. -/
def quotedList (texts : List String) : String := ", ".intercalate (texts.map Text.quoted)

def Misuse.message : Misuse → String
  | .ambiguous word spellings =>
    s!"ambiguous option: {word} could match " ++ ", ".intercalate spellings
  | .valueMissing flag => s!"argument {flag.shown}: expected one argument"
  | .valueIgnored flag value =>
    s!"argument {flag.shown}: ignored explicit argument {Text.quoted value}"
  | .badChoice name value choices =>
    s!"argument {name}: invalid choice: {Text.quoted value} (choose from {quotedList choices})"
  | .operandMissing name => s!"the following arguments are required: {name}"
  | .unrecognized words => "unrecognized arguments: " ++ " ".intercalate words

/-- Why a command line asks for nothing to be done. -/
inductive Stop where
  | help
  | version
  | misuse (program : String) (misuse : Misuse)
  deriving Repr, DecidableEq

end ShaderBuild.CommandLine
