import ShaderBuild.Backend.Backend

/-! # Dispatch

A request goes to the backends that accept its language, in order, until one succeeds. Whatever a
failed attempt has read is forgotten. If all fail, the last one's error stands, with a note for each of
the others.
-/

namespace ShaderBuild

/-- What a successful compilation yields. -/
structure Feedback where
  words : List Int
  /-- The files that were read: the shader's own first, then included ones in the order of reading. -/
  dependencies : List String
  deriving Repr, DecidableEq

namespace Dispatch

variable {σ : Type}

/-- A failed attempt: the backend, its error and the notes on it. -/
structure Failure where
  backend : String
  error : RequestError
  notes : List String
  deriving Repr, DecidableEq

def Failure.note (failure : Failure) : String :=
  s!"earlier attempt [{failure.backend}]: {failure.error.message}"

/-- The backends that accept a config. It is an error if there are none. -/
def candidates (backends : List (Backend σ)) (config : Config) :
    Except RequestError (List (Backend σ)) :=
  match backends.filter fun backend => backend.accepts config with
  | [] => .error (.unsupportedLanguage config.language (backends.map (·.name)))
  | found => .ok found

/-- The fault that is left when the attempts before and the last one have failed. -/
def exhausted (earlier : List Failure) (last : Failure) : Fault :=
  .refused last.error (last.notes ++ earlier.map Failure.note)

/-- Let one backend try, with a list of read files that starts afresh. -/
def attempt (backend : Backend σ) (request : Request) : Action σ (List Int) := do
  modify fun session => { session with dependencies := request.origin?.toList }
  backend.compile request

/-- Let the backends try in order. -/
def tryAll (request : Request) : List Failure → List (Backend σ) → Action σ Feedback
  | failures, [] =>
    match failures.getLast? with
    | some last => throw (exhausted failures.dropLast last)
    | none => Action.refuse (.unsupportedLanguage request.config.language [])
  | failures, backend :: backends => do
    match ← Action.outcome (attempt backend request) with
    | .ok words =>
      if !failures.isEmpty then
        Action.say .info s!"backend {backend.name} succeeded after fallback"
      return ⟨words, (← get).dependencies⟩
    | .error (.refused error notes) =>
      Action.say .warning s!"backend {backend.name} failed: {error.message}"
      tryAll request (failures ++ [⟨backend.name, error, notes⟩]) backends
    -- Only a refused request moves on to the next backend.
    | .error fault => throw fault

end Dispatch

/-- Compile a request with the first backend that succeeds. A target that is not valid is refused before
    any backend is asked. -/
def dispatch {σ : Type} (backends : List (Backend σ)) (request : Request) : Action σ Feedback := do
  match request.config.target with
  | .error pair => Action.refuse (.badTarget pair)
  | .ok _ => Dispatch.tryAll request [] (← Action.ofRequest (Dispatch.candidates backends request.config))

end ShaderBuild
