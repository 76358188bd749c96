import ShaderBuild.Decimal.Lenient
import ShaderBuild.Manifest.Manifest
import ShaderBuild.Manifest.Problem
import ShaderBuild.Text.Utf8

/-! # The shape of manifests

What a manifest's values have to look like, and the manifest they make. Entries that the shape does not
know are passed over. Demands on a record as a whole are looked at once its entries are in order.
-/

namespace ShaderBuild.Manifest

def readVersion (text : List Char) : Except Complaint Int :=
  (Decimal.readLenient text).mapError fun
    | .unreadable => .unreadableInteger
    | .oversized => .oversized

/-- The integer that a float is. Floats beyond 64 bits are too large. -/
def integerOfFloat (x : Float) : Except Complaint Int :=
  let magnitude := x.toBits &&& 0x7FFFFFFFFFFFFFFF
  -- All bits of the exponent are set: infinite, or no number.
  if magnitude ≥ 0x7FF0000000000000 then .error .notFinite
  else
    match (Value.float x).whole? with
    | none => .error .fractional
    | some n => if n.natAbs < 0x8000000000000000 then .ok n else .error .oversized

/-- The integer that a value stands for. Truth values, whole floats and texts count. -/
def integer : Value → Except Complaint Int
  | .bool b => .ok (if b then 1 else 0)
  | .int n => .ok n
  | .float x => integerOfFloat x
  | .str text => readVersion text.toList
  | .bytes content =>
    match Text.Utf8.decode content with
    | .ok text => readVersion text
    | .error _ => .error .unreadableInteger
  | _ => .error .notInteger

/-- The text that a value stands for. Bytes count if they are a text. -/
def string : Value → Except Complaint String
  | .str text => .ok text
  | .bytes content =>
    match Text.Utf8.decode content with
    | .ok text => .ok (String.ofList text)
    | .error _ => .error .undecodable
  | _ => .error .notString

/-- Let a failed check be a problem at a place. -/
def atPlace {α : Type} (place : KeyPath) (outcome : Except Complaint α) : Checked α :=
  outcome.mapError fun complaint => [⟨place, complaint⟩]

def checkVersion (place : KeyPath) (value : Value) : Checked Int :=
  atPlace place do
    let version ← integer value
    match Constraint.positive.check (.int version) with
    | .ok () => return version
    | .error fault => throw (.constraint fault)

def checkString (place : KeyPath) (value : Value) : Checked String := atPlace place (string value)

def checkName (place : KeyPath) (value : Value) : Checked String :=
  atPlace place do
    let name ← string value
    match Constraint.identifier.check (.str name) with
    | .ok () => return name
    | .error fault => throw (.constraint fault)

/-- Check a value that may be null. -/
def checkOptional {α : Type} (check : KeyPath → Value → Checked α) (place : KeyPath) :
    Value → Checked (Option α)
  | .null => .ok none
  | value => (check place value).map some

def checkFormat (place : KeyPath) (value : Value) : Checked Format :=
  match string value with
  | .error _ => .refuse place .notFormat
  | .ok word =>
    match Format.ofWord? word with
    | some format => .ok format
    | none => .refuse place .notFormat

/-- The items of a value that is a list, or a set in a list's stead. -/
def items? : Value → Option (List Value)
  | .list items | .set items | .tuple items => some items
  | _ => none

def checkItems {α : Type} (check : KeyPath → Value → Checked α) (place : KeyPath) (value : Value) :
    Checked (List α) :=
  match items? value with
  | some items => Checked.items check place 0 items
  | none => .refuse place .notList

def checkStrings : KeyPath → Value → Checked (List String) := checkItems checkString

/-- Check directives. What is neither a text nor a list of texts has the problems of both. -/
def checkDirectives (place : KeyPath) (value : Value) : Checked DirectiveSetting :=
  match checkString (place ++ [.asText]) value with
  | .ok text => .ok (.text text)
  | .error noText =>
    match checkStrings (place ++ [.asTexts]) value with
    | .ok items => .ok (.items items)
    | .error noList => .error (noText ++ noList)

/-- Check an entry that must be there. -/
def required {α : Type} (check : KeyPath → Value → Checked α) (place : KeyPath) (name : String)
    (entries : List (Value × Value)) : Checked α :=
  match Value.getKey? (.str name) entries with
  | some value => check (place ++ [.name name]) value
  | none => .refuse (place ++ [.name name]) .missing

/-- Check an entry that has a value if it is not there. -/
def defaulted {α : Type} (check : KeyPath → Value → Checked α) (fallback : α) (place : KeyPath)
    (name : String) (entries : List (Value × Value)) : Checked α :=
  match Value.getKey? (.str name) entries with
  | some value => check (place ++ [.name name]) value
  | none => .ok fallback

def checkDefaults (place : KeyPath) : Value → Checked Defaults
  | .map entries =>
    let base : Defaults := {}
    let format := defaulted checkFormat base.format place "format" entries
    let outDir := defaulted checkString base.outDir place "out_dir" entries
    let directives := defaulted checkDirectives base.directives place "directives" entries
    (Checked.both format (Checked.both outDir directives)).map fun (format, outDir, directives) =>
      ⟨format, outDir, directives⟩
  | _ => .refuse place (.notRecord "ManifestDefaults")

def checkSources (place : KeyPath) (shader : Shader) : Checked Shader :=
  if shader.source?.isNone = shader.inline?.isNone then .refuse place (.sources shader.name)
  else .ok shader

def checkShader (place : KeyPath) : Value → Checked Shader
  | .map entries => do
    let name := required checkName place "name" entries
    let source := defaulted (checkOptional checkString) none place "source" entries
    let inline := defaulted (checkOptional checkString) none place "inline" entries
    let directives := defaulted checkDirectives (.text "") place "directives" entries
    let format := defaulted (checkOptional checkFormat) none place "format" entries
    let (name, source, inline, directives, format) ←
      Checked.both name (Checked.both source (Checked.both inline (Checked.both directives format)))
    -- The sources are looked at once every entry is in order.
    checkSources place ⟨name, source, inline, directives, format⟩
  | _ => .refuse place (.notRecord "ShaderEntry")

def checkShaders : KeyPath → Value → Checked (List Shader) := checkItems checkShader

/-- The first name that comes up again. -/
def repeated? : List String → List String → Option String
  | _, [] => none
  | seen, name :: names => if seen.contains name then some name else repeated? (name :: seen) names

def checkNames (manifest : Manifest) : Checked Manifest :=
  match repeated? [] (manifest.shaders.map (·.name)) with
  | some name => .refuse [] (.duplicate name)
  | none => .ok manifest

def check : Value → Checked Manifest
  | .map entries => do
    let version := required checkVersion [] "version" entries
    let defaults := defaulted checkDefaults {} [] "defaults" entries
    let shaders := required checkShaders [] "shaders" entries
    let (version, defaults, shaders) ← Checked.both version (Checked.both defaults shaders)
    checkNames ⟨version, defaults, shaders⟩
  | _ => .refuse [] (.notRecord "Manifest")

end ShaderBuild.Manifest
