/-! # Targets

A target fixes a client interface together with a version of SPIR-V. The two are not independent: of
all their pairs only the ones in the table are valid.
-/

namespace ShaderBuild

/-- The client interface that the SPIR-V is made for. -/
inductive Environment where
  | vulkan
  | opengl
  | webgpu
  deriving Repr, DecidableEq

def Environment.word : Environment → String
  | .vulkan => "vulkan"
  | .opengl => "opengl"
  | .webgpu => "webgpu"

def Environment.all : List Environment := [.vulkan, .opengl, .webgpu]

/-- A version of SPIR-V. -/
inductive SpirvVersion where
  | v1_0
  | v1_1
  | v1_2
  | v1_3
  | v1_4
  | v1_5
  | v1_6
  deriving Repr, DecidableEq

def SpirvVersion.label : SpirvVersion → String
  | .v1_0 => "1.0"
  | .v1_1 => "1.1"
  | .v1_2 => "1.2"
  | .v1_3 => "1.3"
  | .v1_4 => "1.4"
  | .v1_5 => "1.5"
  | .v1_6 => "1.6"

def SpirvVersion.all : List SpirvVersion := [.v1_0, .v1_1, .v1_2, .v1_3, .v1_4, .v1_5, .v1_6]

/-- The valid pairs of interface and version. -/
inductive Target where
  | vulkan1_0
  | vulkan1_1
  | vulkan1_2
  | opengl4_5
  | webgpu
  deriving Repr, DecidableEq

namespace Target

/-- Every target, in the order in which messages list them. -/
def all : List Target := [.vulkan1_0, .vulkan1_1, .vulkan1_2, .opengl4_5, .webgpu]

def environment : Target → Environment
  | .vulkan1_0 | .vulkan1_1 | .vulkan1_2 => .vulkan
  | .opengl4_5 => .opengl
  | .webgpu => .webgpu

def version : Target → SpirvVersion
  | .vulkan1_0 | .opengl4_5 | .webgpu => .v1_0
  | .vulkan1_1 => .v1_3
  | .vulkan1_2 => .v1_5

/-- The target with a given interface and version. -/
def ofPair? (environment : Environment) (version : SpirvVersion) : Option Target :=
  all.find? fun target => target.environment = environment ∧ target.version = version

/-- A target as messages and plans show it. -/
def describe (target : Target) : String :=
  s!"{target.environment.word}/SPIR-V {target.version.label}"

/-- The words that name a target, with two shorthands. -/
def words : List (String × Target) :=
  [("vulkan", .vulkan1_0), ("vulkan1_0", .vulkan1_0), ("vulkan1_1", .vulkan1_1),
   ("vulkan1_2", .vulkan1_2), ("opengl", .opengl4_5), ("opengl4_5", .opengl4_5), ("webgpu", .webgpu)]

end Target

end ShaderBuild
