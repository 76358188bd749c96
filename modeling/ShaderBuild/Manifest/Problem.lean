import ShaderBuild.Config.Constraint
import ShaderBuild.Manifest.KeyPath

/-! # Problems of manifests

A manifest is checked as a whole, and every problem is reported with the place where it shows.
-/

namespace ShaderBuild.Manifest

/-- What is wrong with a value. -/
inductive Complaint where
  | missing
  | notInteger
  | unreadableInteger
  | fractional
  /-- A float or text that is too large for an integer. -/
  | oversized
  | notFinite
  | notString
  /-- Bytes that are no text. -/
  | undecodable
  | notList
  | notFormat
  /-- A value that is no mapping; the name says what was due. -/
  | notRecord (record : String)
  | constraint (fault : ConstraintFault)
  /-- A shader with no source or two. -/
  | sources (shader : String)
  | duplicate (shader : String)
  deriving Repr

/-- A complaint and the place of the value. -/
structure Problem where
  place : KeyPath
  complaint : Complaint
  deriving Repr

namespace Complaint

def word : Complaint → String
  | .missing => "missing"
  | .notInteger => "int_type"
  | .unreadableInteger => "int_parsing"
  | .fractional => "int_from_float"
  | .oversized => "int_parsing_size"
  | .notFinite => "finite_number"
  | .notString => "string_type"
  | .undecodable => "string_unicode"
  | .notList => "list_type"
  | .notFormat => "enum"
  | .notRecord _ => "model_type"
  | .constraint _ | .sources _ | .duplicate _ => "value_error"

def message : Complaint → String
  | .missing => "Field required"
  | .notInteger => "Input should be a valid integer"
  | .unreadableInteger => "Input should be a valid integer, unable to parse string as an integer"
  | .fractional => "Input should be a valid integer, got a number with a fractional part"
  | .oversized => "Unable to parse input string as an integer, exceeded maximum size"
  | .notFinite => "Input should be a finite number"
  | .notString => "Input should be a valid string"
  | .undecodable =>
    "Input should be a valid string, unable to parse raw data as a unicode string"
  | .notList => "Input should be a valid list"
  | .notFormat => "Input should be 'python', 'c' or 'spv'"
  | .notRecord record => s!"Input should be a valid dictionary or instance of {record}"
  | .constraint fault => s!"Value error, {fault.message}"
  | .sources shader =>
    s!"Value error, shader {Text.quoted shader} must set exactly one of 'source' or 'inline'"
  | .duplicate shader => s!"Value error, duplicate shader name {Text.quoted shader}"

end Complaint

/-- The outcome of checking a value: what it stands for, or all its problems in order. -/
abbrev Checked (α : Type) := Except (List Problem) α

namespace Checked

def refuse {α : Type} (place : KeyPath) (complaint : Complaint) : Checked α :=
  .error [⟨place, complaint⟩]

/-- Check two things and keep the problems of both. -/
def both {α β : Type} : Checked α → Checked β → Checked (α × β)
  | .ok a, .ok b => .ok (a, b)
  | .ok _, .error problems => .error problems
  | .error problems, .ok _ => .error problems
  | .error first, .error second => .error (first ++ second)

/-- Check every item of a list, each at its position from `position` on, and keep all problems. -/
def items {α : Type} (check : KeyPath → Value → Checked α) (place : KeyPath) :
    Nat → List Value → Checked (List α)
  | _, [] => .ok []
  | position, item :: rest =>
    (both (check (place ++ [.index position]) item) (items check place (position + 1) rest)).map
      fun (first, others) => first :: others

end Checked

end ShaderBuild.Manifest
