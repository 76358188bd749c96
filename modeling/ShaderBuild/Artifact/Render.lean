import ShaderBuild.Artifact.Format
import ShaderBuild.Artifact.Symbol
import ShaderBuild.Build.Dispatch

/-! # Artifacts as text

The words of a shader as a Python module or a C header, and the depfile that tells a build system which
files they were made of.
-/

namespace ShaderBuild.Artifact

/-- How many words stand in a row. -/
def wordsPerRow : Nat := 8

/-- A word with eight hexadecimal digits. A sign takes the place of a digit. -/
def wordText (word : Int) : List Char :=
  ['0', 'x'] ++
    if word < 0 then '-' :: Text.hexPadded 7 word.natAbs else Text.hexPadded 8 word.natAbs

/-- Cut a list into rows. The fuel is its length. -/
def rowsAux {α : Type} (size : Nat) : Nat → List α → List (List α)
  | 0, _ => []
  | _ + 1, [] => []
  | fuel + 1, items => items.take size :: rowsAux size fuel (items.drop size)

/-- Cut a list into rows of one size, the last of which may be shorter. -/
def rows {α : Type} (size : Nat) (items : List α) : List (List α) := rowsAux size items.length items

def rowText (words : List Int) : List Char :=
  "    ".toList ++ Text.joinWith [',', ' '] (words.map wordText) ++ [',']

def wordRows (words : List Int) : List (List Char) := (rows wordsPerRow words).map rowText

/-- Lines with a line end after each. -/
def joinLines (lines : List (List Char)) : List Char := lines.flatMap fun line => line ++ ['\n']

/-- The lines of a Python module with the words and the dependencies of a shader. -/
def pythonLines (name : String) (feedback : Feedback) : List (List Char) :=
  ["# Generated by shaderbake. Do not edit.".toList,
    "\"\"\"SPIR-V words for shader ".toList ++ Text.Quoted.encode name.toList ++ ".\"\"\"".toList,
    [],
    "WORDS = (".toList] ++
    wordRows feedback.words ++
    [[')'], [], "DEPENDENCIES = (".toList] ++
    feedback.dependencies.map (fun path =>
      "    ".toList ++ Text.Quoted.encode path.toList ++ [',']) ++
    [[')']]

/-- A Python module with the words and the dependencies of a shader. -/
def renderPython (name : String) (feedback : Feedback) : List Char :=
  joinLines (pythonLines name feedback)

/-- A text in which no comment ends. -/
def commentSafe (text : List Char) : List Char := Text.replace ['*', '/'] ['*', ' ', '/'] text

/-- The name of the guard of a header. -/
def guardName (symbol : List Char) : List Char :=
  "SHADERBAKE_".toList ++ symbol.map Char.toUpper ++ "_H".toList

/-- The comment at the top of a header. -/
def headerComment (feedback : Feedback) : List (List Char) :=
  ["/* Generated by shaderbake. Do not edit.".toList, " *".toList, " * Dependencies:".toList] ++
    feedback.dependencies.map (fun path => " *   ".toList ++ commentSafe path.toList) ++
    [" */".toList]

/-- The lines of a C header with the words of a shader. -/
def headerLines (name : String) (feedback : Feedback) : List (List Char) :=
  let symbol := symbolChars name.toList
  let guardText := guardName symbol
  headerComment feedback ++
    ["#ifndef ".toList ++ guardText, "#define ".toList ++ guardText, [],
      "#include <stddef.h>".toList, "#include <stdint.h>".toList, [],
      "static const uint32_t ".toList ++ symbol ++ "[] = \x7b".toList] ++
    wordRows feedback.words ++
    ["\x7d;".toList,
      "static const size_t ".toList ++ symbol ++ "_len = ".toList ++
        Nat.toDigits 10 feedback.words.length ++ [';'],
      [],
      "#endif /* ".toList ++ guardText ++ " */".toList]

/-- A C header with the words of a shader. -/
def renderHeader (name : String) (feedback : Feedback) : List Char :=
  joinLines (headerLines name feedback)

/-- A path as it stands in a rule: with slashes only, and with every dollar sign, hash and space
    escaped. -/
def rulePath (path : List Char) : List Char :=
  let slashed := Text.replace ['\\'] ['/'] path
  let doubled := Text.replace ['$'] ['$', '$'] slashed
  let hashed := Text.replace ['#'] ['\\', '#'] doubled
  Text.replace [' '] ['\\', ' '] hashed

/-- What stands between the paths of a rule: a broken line. -/
def ruleBreak : List Char := [' ', '\\', '\n', ' ', ' ']

/-- The rule that makes a target depend on files. -/
def renderDepfile (target : Path) (dependencies : List String) : List Char :=
  Text.joinWith ruleBreak
    ((rulePath target.toString.toList ++ [':']) :: dependencies.map fun path => rulePath path.toList) ++ ['\n']

end ShaderBuild.Artifact
