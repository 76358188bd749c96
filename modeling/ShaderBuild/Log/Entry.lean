import ShaderBuild.Log.Markup

/-! # The log

What a build reports while it runs, and the lines in which it is shown.
-/

namespace ShaderBuild.Log

/-- How serious a message is. -/
inductive Level where
  | plain
  | info
  | success
  | warning
  | error
  deriving Repr, DecidableEq

/-- An entry of the log. -/
inductive Entry where
  | message (level : Level) (text : String)
  /-- The start of a section. -/
  | header (title : String) (subtitle : String)
  /-- One of several steps; without a total only the number is shown. -/
  | step (current total : Int) (text : String)
  /-- A path with a label or without. -/
  | path (path label : String)
  /-- The artifacts of a build, by name. -/
  | summary (artifacts : List (String × String))
  deriving Repr, DecidableEq

def Level.lead : Level → String
  | .plain => ""
  | .info => "[info]ℹ[/info] "
  | .success => "[success]✓[/success] "
  | .warning => "[warning]⚠[/warning] "
  | .error => "[error]✗[/error] "

def linesOf (text : List Char) : List String := (Text.splitAt '\n' text).map String.ofList

/-- The lines of a text with markup. -/
def markupLines (text : String) : List String := linesOf (render text.toList)

/-- A text protected from being read as markup. -/
def guarded (text : String) : String := String.ofList (escape text.toList)

def rule (length : Nat) : String := String.ofList (List.replicate length '━')

def headerText (title subtitle : String) : String :=
  let rest := if subtitle.isEmpty then "" else s!" • {subtitle}"
  s!"{rule 3} {title}{rest} {rule 40}"

def pathText (path label : String) : String :=
  if label.isEmpty then s!"  [path]{guarded path}[/path]"
  else s!"  [muted]{guarded label}:[/muted] [path]{guarded path}[/path]"

def stepNumber (current total : Int) : String :=
  if total = 0 then s!"[step]\\[{current}][/step]" else s!"[step]\\[{current}/{total}][/step]"

def messageLines (level : Level) (text : String) : List String :=
  markupLines (level.lead ++ guarded text)

def artifactText (name path : String) : String :=
  s!"    [muted]•[/muted] {guarded name}: [path]{guarded path}[/path]"

def Entry.lines : Entry → List String
  | .message level text => messageLines level text
  | .header title subtitle =>
    [""] ++ linesOf ((headerText title subtitle).toList.filter fun c => !isControl c) ++ [""]
  | .step current total text => markupLines s!"{stepNumber current total} {guarded text}"
  | .path file label => markupLines (pathText file label)
  | .summary artifacts =>
    [""] ++ messageLines .success s!"Generated {artifacts.length} artifacts:" ++
      artifacts.flatMap fun (name, file) => markupLines (artifactText name file)

end ShaderBuild.Log
