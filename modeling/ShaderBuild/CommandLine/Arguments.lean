import ShaderBuild.CommandLine.Word

/-! # Arguments

What a command line says to a command: the values of its flags, the operand, and words that fit
nowhere. Words are taken in order, so that of several things at fault the first one is reported.
-/

namespace ShaderBuild.CommandLine

/-- What a command line says. -/
structure Arguments where
  /-- The words of the operand, if it was met. -/
  operand : List String
  /-- The flags that were set, in order, with their values; a switch has none. -/
  settings : List (Flag × Option String)
  /-- The words that fit nowhere. -/
  unread : List String
  deriving Repr, DecidableEq

namespace Arguments

def empty : Arguments := ⟨[], [], []⟩

def has (arguments : Arguments) (flag : Flag) : Bool :=
  arguments.settings.any fun setting => setting.1 = flag

/-- The value of a flag: the last one that was given. -/
def value? (arguments : Arguments) (flag : Flag) : Option String :=
  (arguments.settings.reverse.lookup flag).join

def leave (arguments : Arguments) (word : String) : Arguments :=
  { arguments with unread := arguments.unread ++ [word] }

def take (arguments : Arguments) (words : List String) : Arguments :=
  { arguments with operand := words }

def set (arguments : Arguments) (flag : Flag) (value? : Option String) : Arguments :=
  { arguments with settings := arguments.settings ++ [(flag, value?)] }

end Arguments

/-- Flags that are set together by one word. -/
structure Cluster where
  /-- The switches in front. -/
  switches : List Flag
  /-- The last flag. -/
  last : Flag
  /-- The value of the last flag, as far as the word holds it. -/
  value? : Option String
  deriving Repr, DecidableEq

def Cluster.after (flag : Flag) (cluster : Cluster) : Cluster :=
  { cluster with switches := flag :: cluster.switches }

/-- The flags that one word sets by a flag and the text after it. A switch of one letter takes no value,
    so the text after it can only go on with the letter of another flag. -/
def cluster (usage : Usage) (flag : Flag) (short : Bool) : List Char → Except Misuse Cluster
  | [] => if flag.takesValue then .ok ⟨[], flag, some ""⟩ else .error (.valueIgnored flag "")
  | c :: rest =>
    let value := String.ofList (c :: rest)
    if flag.takesValue then .ok ⟨[], flag, some value⟩
    else
      match if short then usage.flag? (String.ofList ['-', c]) else none, rest with
      | none, _ => .error (.valueIgnored flag value)
      | some next, [] => .ok ⟨[flag], next, none⟩
      | some next, d :: tail => (cluster usage next true (d :: tail)).map (Cluster.after flag)

def Mention.cluster (usage : Usage) (mention : Mention) : Except Misuse Cluster :=
  match mention.value? with
  | none => .ok ⟨[], mention.flag, none⟩
  | some value =>
    CommandLine.cluster usage mention.flag (mention.spelling.length = 2) value.toList

/-- The value that takes the value of a flag away. -/
def noValue : String := "--"

def apply (usage : Usage) (arguments : Arguments) (flag : Flag) (value? : Option String) :
    Except Stop Arguments :=
  match flag.effect, value? with
  | .help, _ => .error .help
  | .version, _ => .error .version
  | .value choices, some value =>
    if value = noValue then .ok (arguments.set flag none)
    else if choices.isEmpty ∨ value ∈ choices then .ok (arguments.set flag (some value))
    else .error (.misuse usage.program (.badChoice flag.shown value choices))
  | _, _ => .ok (arguments.set flag none)

def applyAll (usage : Usage) (arguments : Arguments) (flags : List Flag) : Except Stop Arguments :=
  flags.foldlM (fun arguments flag => apply usage arguments flag none) arguments

/-- Take the words of a command line in order. -/
def gather (usage : Usage) (arguments : Arguments) : List Word → Except Stop Arguments
  | [] => .ok arguments
  | .flag text none :: words => gather usage (arguments.leave text) words
  | .flag _ (some mention) :: words =>
    match mention.cluster usage with
    | .error misuse => .error (.misuse usage.program misuse)
    | .ok found =>
      match found.value?, words with
      | some value, words => do
        let arguments ← applyAll usage arguments found.switches
        gather usage (← apply usage arguments found.last (some value)) words
      | none, words =>
        if found.last.takesValue then
          match words with
          | .operand value :: words => do
            let arguments ← applyAll usage arguments found.switches
            gather usage (← apply usage arguments found.last (some value)) words
          | _ => .error (.misuse usage.program (.valueMissing found.last))
        else do
          let arguments ← applyAll usage arguments found.switches
          gather usage (← apply usage arguments found.last none) words
  | .separator :: words =>
    match usage.operand, arguments.operand, words with
    | .command _, [], .operand _ :: _ => .ok (arguments.take ("--" :: words.map Word.text))
    | .word _, [], .operand word :: words => gather usage (arguments.take [word]) words
    | _, _, words => gather usage (arguments.leave "--") words
  | .operand word :: words =>
    match usage.operand, arguments.operand, words with
    | .command _, [], words => .ok (arguments.take (word :: words.map Word.text))
    | .word _, [], .separator :: words => gather usage (arguments.take [word]) words
    | .word _, [], words => gather usage (arguments.take [word]) words
    | _, _, words => gather usage (arguments.leave word) words

/-- Read the words of a command line. -/
def read (usage : Usage) (words : List String) : Except Stop Arguments := do
  let arguments ← gather usage .empty (← meanings usage words)
  match usage.operand, arguments.operand with
  | .word name, [] => throw (.misuse usage.program (.operandMissing name))
  | _, _ => return arguments

end ShaderBuild.CommandLine
