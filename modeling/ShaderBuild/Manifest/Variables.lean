import ShaderBuild.Manifest.KeyPath
import ShaderBuild.Manifest.Placeholder
import ShaderBuild.Value

/-! # Variables of a manifest

Variables stand for values and may refer to each other. A text that is a single placeholder takes the
variable's value as it is; within a longer text the value is spliced in as text, the items of a list
with commas between them. Every variable is expanded once, on first use.

An expansion may be given a bound on how deep it goes. The way down is counted in steps: a placeholder
leads further down than an item of a list does.
-/

namespace ShaderBuild.Manifest

/-- What is wrong with a placeholder. -/
inductive VariableProblem where
  /-- The variables refer to each other in a circle; the first is named again at the end. -/
  | cycle (chain : List String)
  /-- There is no such variable; the ones that exist are listed in order. -/
  | unknown (name : String) (known : List String)
  /-- The value has no form inside a text. -/
  | unspliceable (name kind : String)
  deriving Repr, DecidableEq

/-- A problem and where the text with the placeholder stands. -/
structure VariableError where
  path : KeyPath
  problem : VariableProblem
  deriving Repr, DecidableEq

def VariableProblem.text : VariableProblem → String
  | .cycle chain => "variable cycle " ++ " -> ".intercalate chain
  | .unknown name known =>
    let listed := ", ".intercalate known
    let defined := if listed.isEmpty then "none" else listed
    s!"unknown variable '{name}' (defined: {defined})"
  | .unspliceable name kind => s!"variable '{name}' holds {kind} and cannot be spliced into text"

def VariableError.message (e : VariableError) : String := s!"{pathText e.path}: {e.problem.text}"

/-- Why an expansion has no result. -/
inductive ExpansionFault where
  | variable (e : VariableError)
  /-- The names of the variables are not all texts, so they cannot be listed. -/
  | unlisted
  /-- An integer that has too many digits to be written was to become text. -/
  | unwritable
  /-- The way down is longer than the bound allows. A value that holds itself has no end at all. -/
  | tooDeep
  deriving Repr, DecidableEq

def ExpansionFault.message : ExpansionFault → String
  | .variable e => e.message
  | .unlisted => "variables whose names are not all texts cannot be listed"
  | .unwritable => Decimal.unwritableMessage
  | .tooDeep => "the values are nested too deeply"

/-- The variables of a manifest. -/
structure Variables where
  entries : List (Value × Value)
  deriving Repr

namespace Variables

def named (vars : Variables) : List (String × Value) :=
  vars.entries.filterMap fun
    | (.str name, value) => some (name, value)
    | _ => none

/-- The names of all variables in order, if all are texts. -/
def listed? (vars : Variables) : Option (List String) :=
  if vars.named.length = vars.entries.length then
    some ((vars.named.map (·.1)).mergeSort fun a b => decide (a ≤ b))
  else none

/-- The fault of looking for a name that no variable has. -/
def unknown (vars : Variables) (name : String) (path : KeyPath) : ExpansionFault :=
  match vars.listed? with
  | some known => .variable ⟨path, .unknown name known⟩
  | none => .unlisted

end Variables

/-- The values of the variables that have been expanded. -/
abbrev Cache := List (String × Value)

/-- A computation that may expand variables. What it has expanded stays, even if it fails. -/
abbrev Expansion := ExceptT ExpansionFault (StateM Cache)

/-- The number of steps that an expansion may still go down; there is no bound if it is not given. -/
abbrev Room := Option Nat

/-- The room of an expansion that is not told otherwise. -/
def usualRoom : Room := some 989

/-- The steps from a collection to what it holds. -/
def memberSteps : Nat := 2

/-- The steps from a text that is a single placeholder to the variable. -/
def wholeSteps : Nat := 3

/-- The steps from a longer text to a variable in it. -/
def splicedSteps : Nat := 5

/-- How a name is looked up: the variable's value is a number of steps down from a text in some room, and the
    text stands at a given place. -/
abbrev Lookup (m : Type → Type) := Nat → Room → String → KeyPath → m Value

/-- Whether an item of a list has a form inside a text. -/
def isScalar : Value → Bool
  | .str _ | .int _ | .float _ | .bool _ => true
  | _ => false

/-- The text of a value inside a longer text. -/
def splice? : Value → Option String
  | .bool b => some (if b then "true" else "false")
  | .list items =>
    if items.all isScalar then some (", ".intercalate (items.map (·.plain))) else none
  | value => if isScalar value then some value.plain else none

def splice (name : String) (path : KeyPath) (value : Value) : Except ExpansionFault String :=
  match splice? value with
  | some text => if value.isUnwritable then .error .unwritable else .ok text
  | none => .error (.variable ⟨path, .unspliceable name value.kind⟩)

section
variable {m : Type → Type} [Monad m] [MonadExceptOf ExpansionFault m]

/-- Go down by a number of steps. -/
def deeper (steps : Nat) : Room → m Room
  | none => pure none
  | some room => if steps ≤ room then pure (some (room - steps)) else throw .tooDeep

def expandPiece (lookup : Lookup m) (room : Room) (path : KeyPath) : Piece → m String
  | .char c => pure (String.singleton c)
  | .escaped name => pure (Piece.bracedText name)
  | .variable name => do
    let value ← lookup splicedSteps room name path
    match splice name path value with
    | .ok text => pure text
    | .error fault => throw fault

/-- The value of a text with placeholders. -/
def expandText (lookup : Lookup m) (room : Room) (path : KeyPath) (text : String) : m Value :=
  match Piece.ofString text with
  | [.variable name] => lookup wholeSteps room name path
  | pieces => do
    let texts ← pieces.mapM (expandPiece lookup room path)
    pure (.str (String.join texts))

mutual

/-- A value with all its placeholders replaced. The keys of mappings are left as they are. -/
def expand (lookup : Lookup m) (room : Room) (path : KeyPath) : Value → m Value
  | .map entries => do pure (.map (← expandEntries lookup room path entries))
  | .list items => do pure (.list (← expandItems lookup room path 0 items))
  | .str text => expandText lookup room path text
  -- A value inside itself has no end, so going down comes to the bound.
  | .again _ => throw .tooDeep
  | value => pure value

/-- The entries of a mapping with all placeholders in their values replaced. -/
def expandEntries (lookup : Lookup m) (room : Room) (path : KeyPath) :
    List (Value × Value) → m (List (Value × Value))
  | [] => pure []
  | (key, value) :: entries => do
    -- The key is written as a part of the place, whether or not there is anything to replace.
    if key.isUnwritable then throw .unwritable
    let inside ← deeper memberSteps room
    let value ← expand lookup inside (path ++ [.name key.plain]) value
    let entries ← expandEntries lookup room path entries
    pure ((key, value) :: entries)

/-- The items of a list, the first of them at `position`, with all placeholders replaced. -/
def expandItems (lookup : Lookup m) (room : Room) (path : KeyPath) (position : Nat) :
    List Value → m (List Value)
  | [] => pure []
  | item :: items => do
    let inside ← deeper memberSteps room
    let item ← expand lookup inside (path ++ [.index position]) item
    let items ← expandItems lookup room path (position + 1) items
    pure (item :: items)

end

end

namespace Variables

/-- The circle that closes when `name` is looked up while the names of `stack` are being expanded. -/
def circle (stack : List String) (name : String) : List String :=
  stack.dropWhile (· ≠ name) ++ [name]

/-- The value of a variable. The names of `stack` are being expanded already. The fuel bounds the
    depth, which the number of variables does as well. -/
def valueOf (vars : Variables) : Nat → List String → Lookup Expansion
  | fuel, stack, steps, room, name, path => do
    match (← get).lookup name with
    | some value => pure value
    | none =>
      if name ∈ stack then throw (.variable ⟨path, .cycle (circle stack name)⟩)
      else
        match vars.named.lookup name, fuel with
        | none, _ => throw (vars.unknown name path)
        -- Out of reach: a name would have come up again before the fuel runs out.
        | some _, 0 => throw (.variable ⟨path, .cycle (circle stack name)⟩)
        | some value, fuel + 1 => do
          let room ← deeper steps room
          let value ← expand (vars.valueOf fuel (stack ++ [name])) room [.name "vars", .name name] value
          modify fun cache => cache ++ [(name, value)]
          pure value

/-- A value with all placeholders replaced, as far down as there is room. -/
def substitute (vars : Variables) (room : Room) (value : Value) : Expansion Value :=
  expand (vars.valueOf vars.entries.length []) room [] value

end Variables

end ShaderBuild.Manifest
