/-! # Formats of artifacts

What a compiled shader is written as.
-/

namespace ShaderBuild

/-- The kinds of artifact. -/
inductive Format where
  | python
  | header
  /-- The words as they are. -/
  | binary
  deriving Repr, DecidableEq

namespace Format

def word : Format → String
  | .python => "python"
  | .header => "c"
  | .binary => "spv"

/-- The suffix of a file in a format. -/
def suffix : Format → String
  | .python => ".py"
  | .header => ".h"
  | .binary => ".spv"

def all : List Format := [.python, .header, .binary]

def ofWord? (word : String) : Option Format := all.find? fun format => format.word = word

end Format

end ShaderBuild
