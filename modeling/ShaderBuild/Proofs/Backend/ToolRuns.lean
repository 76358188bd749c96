import ShaderBuild.Proofs.Build.Recording
import ShaderBuild.Proofs.Build.Steps
import ShaderBuild.Proofs.Files.Scratch
import ShaderBuild.Proofs.Text.Lowercase

/-! # Runs of a tool

What becomes of the start of a tool: a clean run, or a failure with something for people to read. A command
with a null character in it is neither. What a run has written last to a file is what can be read from it
afterwards.
-/

namespace ShaderBuild

open FileTree

/-! ## Clean and failed runs -/

/-- A run that has ended well and has not said the word "warning" in any letter case. -/
structure ToolRun.Clean (run : ToolRun) : Prop where
  status : run.status = 0
  quiet : ¬Text.HoldsWord "warning".toList (Text.Utf8.decodeLenient run.stderr)

namespace Tool

variable {σ : Type} {tool : Tool} {session : Session σ}

theorem isPlainWord_warning : Text.IsPlainWord "warning".toList :=
  ⟨Text.forall_of_all (by decide), by decide⟩

theorem hasWarning_diagnostics (bytes : Bytes) :
    hasWarning (diagnostics bytes) = true ↔
      Text.HoldsWord "warning".toList (Text.Utf8.decodeLenient bytes) := by
  rw [hasWarning, diagnostics, Text.occursIn_lower_iff isPlainWord_warning (by decide),
    Text.holdsWord_trim isPlainWord_warning]

/-- What becomes of the start of a tool. -/
inductive Ending where
  /-- There is no executable. -/
  | absent
  | cannotStart (executable : String) (fault : SystemFault)
  /-- The command cannot be handed to the system. -/
  | nul
  | finished (run : ToolRun)
  deriving Repr, DecidableEq

def endingOf (session : Session σ) (tree : FileTree) (executable? : Option String)
    (arguments : List String) (input? : Option String) : Ending :=
  match executable? with
  | none => .absent
  | some executable =>
    match session.launcher tree session.calls ⟨executable :: arguments, input?⟩ with
    | .cannotStart fault => .cannotStart executable fault
    | .nul => .nul
    | .finished run => .finished run

/-- The endings that are failures of the tool, each with its diagnostic. -/
inductive Fails (tool : Tool) : Ending → String → Prop
  | absent : Fails tool .absent
      s!"{tool.program} executable not found (set {tool.variableName} or add it to PATH)"
  | cannotStart (executable : String) (fault : SystemFault) :
      Fails tool (.cannotStart executable fault) s!"cannot run {executable}: {fault.message}"
  | silent {run : ToolRun} (status : run.status ≠ 0) (silent : diagnostics run.stderr = []) :
      Fails tool (.finished run) s!"{tool.program} exited with status {run.status}"
  | status {run : ToolRun} (status : run.status ≠ 0) (told : diagnostics run.stderr ≠ []) :
      Fails tool (.finished run) (String.ofList (diagnostics run.stderr))
  | warning {run : ToolRun} (status : run.status = 0)
      (warns : Text.HoldsWord "warning".toList (Text.Utf8.decodeLenient run.stderr)) :
      Fails tool (.finished run) (String.ofList (diagnostics run.stderr))

theorem Fails.unique {ending : Ending} {one other : String} (first : Fails tool ending one)
    (second : Fails tool ending other) : one = other := by
  cases first with
  | absent => cases second; rfl
  | cannotStart => cases second; rfl
  | silent status silent =>
      cases second with
      | silent => rfl
      | status _ told => exact absurd silent told
      | warning clean => exact absurd clean status
  | status status told =>
      cases second with
      | silent _ silent => exact absurd silent told
      | status => rfl
      | warning => rfl
  | warning clean =>
      cases second with
      | silent status => exact absurd clean status
      | status => rfl
      | warning => rfl

theorem Fails.not_clean {run : ToolRun} {text : String} (fails : Fails tool (.finished run) text) :
    ¬run.Clean := by
  rintro ⟨clean, quiet⟩
  cases fails with
  | silent status => exact status clean
  | status status => exact status clean
  | warning _ warns => exact quiet warns

theorem judge_cases (tool : Tool) (run : ToolRun) :
    (∃ text, Fails tool (.finished run) text ∧ tool.judge run = .error (tool.complaint text)) ∨
      run.Clean ∧ tool.judge run = .ok run.stdout := by
  by_cases status : run.status = 0
  · by_cases warns : hasWarning (diagnostics run.stderr) = true
    · refine .inl ⟨_, .warning status ((hasWarning_diagnostics _).mp warns), ?_⟩
      rw [judge, if_neg (not_not.mpr status), if_pos warns]
    · refine .inr ⟨⟨status, mt (hasWarning_diagnostics _).mpr warns⟩, ?_⟩
      rw [judge, if_neg (not_not.mpr status), if_neg warns]
  · by_cases silent : diagnostics run.stderr = []
    · refine .inl ⟨_, .silent status silent, ?_⟩
      rw [judge, if_pos status, if_pos (List.isEmpty_iff.mpr silent)]
    · refine .inl ⟨_, .status status silent, ?_⟩
      rw [judge, if_pos status, if_neg (mt List.isEmpty_iff.mp silent)]

def started (session : Session σ) (call : ToolCall) : Session σ :=
  { session with calls := session.calls ++ [call] }

theorem run_run_some (tool : Tool) (session : Session σ) (executable : String)
    (arguments : List String) (input? : Option String) :
    (tool.run (some executable) arguments input?).run.run session =
      match session.launcher session.tree session.calls ⟨executable :: arguments, input?⟩ with
      | .cannotStart fault =>
        (.error (tool.complaint s!"cannot run {executable}: {fault.message}").fault,
          started session ⟨executable :: arguments, input?⟩)
      | .nul => (.error (.access .nul), started session ⟨executable :: arguments, input?⟩)
      | .finished run =>
        ((tool.judge run).mapError (·.fault),
          { started session ⟨executable :: arguments, input?⟩ with
            tree := leave session.tree run.written }) := by
  unfold run
  rw [Outcome.run_get_bind, Outcome.run_bind]
  cases session.launcher session.tree session.calls ⟨executable :: arguments, input?⟩ with
  | cannotStart fault => rfl
  | nul => rfl
  | finished run => exact Action.run_ofRequest (tool.judge run)

theorem run_cases (tool : Tool) (session : Session σ) (executable? : Option String)
    (arguments : List String) (input? : Option String) :
    (∃ text after, Fails tool (endingOf session session.tree executable? arguments input?) text ∧
        (tool.run executable? arguments input?).run.run session =
          (.error (tool.complaint text).fault, after)) ∨
      (∃ after, endingOf session session.tree executable? arguments input? = .nul ∧
        (tool.run executable? arguments input?).run.run session = (.error (.access .nul), after)) ∨
      ∃ run after, endingOf session session.tree executable? arguments input? = .finished run ∧
        run.Clean ∧
        (tool.run executable? arguments input?).run.run session = (.ok run.stdout, after) ∧
        after.tree = leave session.tree run.written := by
  cases executable? with
  | none => exact .inl ⟨_, session, .absent, rfl⟩
  | some executable =>
      rw [run_run_some, endingOf]
      cases session.launcher session.tree session.calls ⟨executable :: arguments, input?⟩ with
      | cannotStart fault => exact .inl ⟨_, _, .cannotStart executable fault, rfl⟩
      | nul => exact .inr (.inl ⟨_, rfl, rfl⟩)
      | finished run =>
          dsimp only
          rcases judge_cases tool run with ⟨text, fails, same⟩ | ⟨clean, same⟩
          · exact .inl ⟨text, _, fails, by rw [same]; rfl⟩
          · exact .inr (.inr ⟨run, _, rfl, clean, by rw [same]; rfl, rfl⟩)

end Tool

/-! ## Commands that cannot be handed on -/

theorem ToolCall.holdsNul_eq_false {call : ToolCall} :
    call.holdsNul = false ↔ ∀ word ∈ call.command, '\x00' ∉ word.toList := by
  simp [ToolCall.holdsNul]

/-- A launcher that hands on all commands that can be handed on, and no others. -/
def Launcher.Guards (launcher : Launcher) : Prop :=
  ∀ tree calls call, launcher tree calls call = .nul ↔ call.holdsNul = true

theorem Launcher.guards_guarded {launcher : Launcher}
    (starts : ∀ tree calls call, launcher tree calls call ≠ .nul) : launcher.guarded.Guards := by
  intro tree calls call
  unfold guarded
  split
  · next holds => exact iff_of_true rfl holds
  · next none => exact iff_of_false (starts tree calls call) none

/-- The command of a tool is not handed on if and only if it holds a null character. -/
theorem Launcher.Guards.endingOf_eq_nul_iff {σ : Type} {session : Session σ}
    (guards : session.launcher.Guards) (tree : FileTree) (executable? : Option String)
    (arguments : List String) (input? : Option String) :
    Tool.endingOf session tree executable? arguments input? = .nul ↔
      ¬∀ executable ∈ executable?, ∀ word ∈ executable :: arguments, '\x00' ∉ word.toList := by
  cases executable? with
  | none => exact iff_of_false nofun (not_not_intro nofun)
  | some executable =>
      have guard := guards tree session.calls ⟨executable :: arguments, input?⟩
      have words := @ToolCall.holdsNul_eq_false ⟨executable :: arguments, input?⟩
      simp only [Option.mem_some_iff, forall_eq']
      rw [← words, Bool.not_eq_false, ← guard, Tool.endingOf]
      cases session.launcher tree session.calls ⟨executable :: arguments, input?⟩ <;> simp

/-! ## What a run leaves -/

def lastContent? (tree : FileTree) (place : Location) (written : List (String × Bytes)) : Option Bytes :=
  (written.reverse.find? fun entry => (tree.locate entry.1).toOption = some place).map (·.2)

/-- The last content that a run writes to the file of a path. -/
def ToolRun.content? (run : ToolRun) (tree : FileTree) (path : String) : Option Bytes :=
  (tree.locate path).toOption.bind fun place => lastContent? tree place run.written

theorem lastContent?_concat (tree : FileTree) (place : Location) (written : List (String × Bytes))
    (entry : String × Bytes) : lastContent? tree place (written ++ [entry]) =
      if (tree.locate entry.1).toOption = some place then some entry.2
      else lastContent? tree place written := by
  unfold lastContent?
  rw [List.reverse_append, List.reverse_singleton, List.singleton_append, List.find?_cons]
  split <;> simp_all

namespace Tool

variable {tree : FileTree} {place : Location}

theorem leave_concat (tree : FileTree) (written : List (String × Bytes)) (entry : String × Bytes) :
    leave tree (written ++ [entry]) =
      ((leave tree written).attempt (·.write entry.1 entry.2)).1 :=
  List.foldl_append

theorem leave_sameDirectories (tree : FileTree) (written : List (String × Bytes)) :
    SameDirectories tree (leave tree written) := by
  induction written using List.reverseRecOn with
  | nil => exact .refl tree
  | append_singleton written entry ih =>
      rw [leave_concat]
      rcases attempt_write_cases (leave tree written) entry.1 entry.2 with same | ⟨_, _, wrote⟩
      · rw [same]
        exact ih
      · exact ih.trans wrote.sameDirectories

/-- At a free place in a directory stands what was written there last. -/
theorem node?_leave (free : tree.node? place = none) (above : tree.node? place.up = some .directory)
    (written : List (String × Bytes)) (content : Bytes) :
    (∃ executable, (leave tree written).node? place = some (.file content executable)) ↔
      lastContent? tree place written = some content := by
  -- From the last write on: it decides if it goes here, and leaves what stands here if it does not.
  induction written using List.reverseRecOn with
  | nil => simp [leave, free, lastContent?]
  | append_singleton written entry ih =>
      have same := leave_sameDirectories tree written
      rw [leave_concat, lastContent?_concat]
      by_cases here : tree.locate entry.1 = .ok place
      · rw [if_pos (Outcome.toOption_eq_some.mpr here)]
        have noDirectory : (leave tree written).node? place ≠ some .directory := by
          rw [Ne, same place, free]
          exact nofun
        obtain ⟨grown, written, wrote⟩ :=
          exists_wrote entry.2 (same.locate.mpr here) noDirectory ((same place.up).mpr above)
        obtain ⟨executable, node?⟩ := wrote.node?
        rw [attempt, written]
        dsimp only
        rw [node?, if_pos rfl]
        simp [eq_comm]
      · rw [if_neg (mt Outcome.toOption_eq_some.mp here), ← ih]
        rcases attempt_write_cases (leave tree written) entry.1 entry.2 with
          unchanged | ⟨spot, leads, wrote⟩
        · rw [unchanged]
        · obtain ⟨executable, node?⟩ := wrote.node?
          have elsewhere : place ≠ spot := by
            rintro rfl
            exact here (same.locate.mp leads)
          rw [node?, if_neg elsewhere]

/-- What is read from a file of a fresh directory after a run is what the run has written there last. -/
theorem read_leave {dir name : String} {taken : List String} (fresh : Fresh dir place taken tree)
    (isShort : IsShort name) (isFree : name ∉ taken) (run : ToolRun) (content : Bytes) :
    (leave tree run.written).read (inside dir name) = .ok content ↔
      run.content? tree (inside dir name) = some content := by
  have leads := fresh.leads name isShort
  have there := (leave_sameDirectories tree run.written).locate.mpr leads
  rw [ToolRun.content?, leads]
  show _ ↔ lastContent? tree (place.down name) run.written = some content
  rw [← node?_leave (fresh.free name isFree) fresh.directory, read_eq_ok_iff, there]
  simp

theorem readOutput_cases (tool : Tool) (session : Session σ) (path : String) :
    (∃ bytes words, session.tree.read path = .ok bytes ∧ Spirv.decode bytes = .ok words ∧
        ((tool.readOutput path).run.run session).1 = .ok (words.map Int.ofNat)) ∨
      ∃ text, (∀ bytes words, session.tree.read path = .ok bytes → Spirv.decode bytes ≠ .ok words) ∧
        ((tool.readOutput path).run.run session).1 = .error (tool.complaint text).fault := by
  unfold readOutput
  rw [Outcome.run_get_bind]
  cases read : session.tree.read path with
  | error fault => exact .inr ⟨_, nofun, rfl⟩
  | ok bytes =>
      dsimp only
      rw [Action.run_ofRequest, Backend.decode]
      cases decodes : Spirv.decode bytes with
      | ok words => exact .inl ⟨bytes, words, rfl, decodes, rfl⟩
      | error fault =>
          refine .inr ⟨_, ?_, rfl⟩
          rintro _ words ⟨⟩ decodesToo
          cases decodes.symm.trans decodesToo

end Tool

end ShaderBuild
