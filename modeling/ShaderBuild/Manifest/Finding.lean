import ShaderBuild.Manifest.Problem
import ShaderBuild.Text.Excerpt

/-! # Findings

A problem of a manifest together with the value that it is about, and the text of all findings of a
manifest.
-/

namespace ShaderBuild

namespace Value

/-- The member of a value at a step. -/
def member? : Value → Manifest.Key → Option Value
  | .map entries, .name name => getKey? (.str name) entries
  | .list items, .index position | .set items, .index position | .tuple items, .index position =>
    items[position.toNat]?
  | _, _ => none

/-- The value at the end of a path. -/
def at? (value : Value) (path : Manifest.KeyPath) : Option Value := path.foldlM member? value

/-- The excerpt of a value that fits into a message. -/
def excerpt (value : Value) : String :=
  if value.isUnwritable then s!"<unprintable {value.kind} object>" else Text.excerpt value.shown

end Value

namespace Manifest

/-- The path to the value that a problem is about. What is said about one of several shapes is about the
    value itself, and what is said about an entry that is missing is about the mapping around it. -/
def Problem.subject (problem : Problem) : KeyPath :=
  let path := problem.place.filter fun key => !Key.shapes.contains key
  match problem.complaint with
  | .missing => path.dropLast
  | _ => path

/-- A problem and the value that it is about. -/
structure Finding where
  problem : Problem
  value : Value
  deriving Repr

namespace Finding

/-- A place as the names and positions of its steps. -/
def placeText (place : KeyPath) : String :=
  ".".intercalate (place.map fun
    | .name text => text
    | .index position => s!"{position}")

/-- A finding as lines: its place, unless it is the whole manifest, then what is wrong and with what, and
    then where in a manual, if there is one, problems of this kind are explained. -/
def lines (manual? : Option String) (finding : Finding) : List String :=
  let place := placeText finding.problem.place
  let complaint := finding.problem.complaint
  let value := finding.value
  (if place.isEmpty then [] else [place]) ++
    [s!"  {complaint.message} [type={complaint.word}, input_value={value.excerpt}, " ++
        s!"input_type={value.kind}]"] ++
    (manual?.map fun manual => s!"    For further information visit {manual}{complaint.word}").toList

end Finding

/-- The number of findings and each of them. -/
def findingsText (manual? : Option String) (findings : List Finding) : String :=
  let errors := if findings.length = 1 then "error" else "errors"
  "\n".intercalate
    (s!"{findings.length} validation {errors} for Manifest" :: findings.flatMap (Finding.lines manual?))

end Manifest

end ShaderBuild
