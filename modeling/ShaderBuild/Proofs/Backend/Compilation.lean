import ShaderBuild.Directive.Parser
import ShaderBuild.Proofs.Backend.Listing
import ShaderBuild.Proofs.Backend.MissingInclude
import ShaderBuild.Proofs.Backend.ToolRuns

/-! # Compilations by the known tools

A compilation gives words for a clean run of its tool only, and then the words that this very run has
written. Everything else is a refusal in the name of the backend, unless the tool has missed an included
file, or unless the command cannot be handed to the system, which is no refusal at all.
-/

namespace ShaderBuild

namespace Action

variable {σ α : Type} {session : Session σ} {work : String → Action σ α} {grown : FileTree}

/-- Work in a scratch directory that can be made; it is removed afterwards. -/
theorem run_withScratch_of_made (made : session.tree.makeDirectory session.scratch = .ok grown) :
    (withScratch work).run.run session =
      (((work session.scratch).run.run { session with tree := grown }).1,
        { ((work session.scratch).run.run { session with tree := grown }).2 with
          tree := ((work session.scratch).run.run { session with tree := grown }).2.tree.removeDirectory
            session.scratch }) := by
  unfold withScratch
  have attempted : session.tree.attempt (·.makeDirectory session.scratch) = (grown, none) := by
    rw [FileTree.attempt, made]
  rw [Outcome.run_get_bind, Outcome.run_bind, run_changeTree, attempted]
  dsimp only [Option.elim]
  rw [Outcome.run_bind, run_outcome]
  dsimp only
  rw [Outcome.run_bind, run_modify]
  dsimp only
  rw [run_ofExcept]

/-- A scratch directory leaves the result of the work in it alone. -/
theorem run_withScratch (made : session.tree.makeDirectory session.scratch = .ok grown) :
    ((withScratch work).run.run session).1 =
      ((work session.scratch).run.run { session with tree := grown }).1 := by
  rw [run_withScratch_of_made made]

theorem exists_inner_of_ok {a : α} {after : Session σ}
    (ran : (withScratch work).run.run session = (.ok a, after)) :
    ∃ grown inner, session.tree.makeDirectory session.scratch = .ok grown ∧
      (work session.scratch).run.run { session with tree := grown } = (.ok a, inner) ∧
      { inner with tree := inner.tree.removeDirectory session.scratch } = after := by
  cases made : session.tree.makeDirectory session.scratch with
  | error fault =>
      unfold withScratch at ran
      rw [Outcome.run_get_bind, Outcome.run_bind, run_changeTree, FileTree.attempt, made] at ran
      cases ran
  | ok grown =>
      rw [run_withScratch_of_made made] at ran
      obtain ⟨result, left⟩ := Prod.mk.inj ran
      exact ⟨grown, _, rfl, Prod.ext result rfl, left⟩

end Action

namespace Backend

open FileTree

variable {σ : Type} {tool : Tool} {request : Request} {session : Session σ} {executable? : Option String}
  {searchPath : List Path} {ending : Tool.Ending} {tree : FileTree} {output : String}
  {result : Except Fault (List Int)}

/-! ## What comes of a compilation -/

/-- The ways in which a compilation comes out, depending on how its tool ends. -/
inductive Comes (tool : Tool) (searchPath : List Path) (ending : Tool.Ending) (tree : FileTree)
    (output : String) : Except Fault (List Int) → Prop
  | failed {text : String} (fails : tool.Fails ending text)
      (other : tool = Shaderc.tool → ∀ name, ¬Shaderc.NamesMissing text.toList name) :
      Comes tool searchPath ending tree output (.error (tool.complaint text).fault)
  | missing {text : String} {name : List Char} (wanted : Include) (isShaderc : tool = Shaderc.tool)
      (fails : tool.Fails ending text) (names : Shaderc.NamesMissing text.toList name) :
      Comes tool searchPath ending tree output
        (.error (RequestError.inclusion (Include.notFound wanted searchPath)).fault)
  | nul (ends : ending = .nul) : Comes tool searchPath ending tree output (.error (.access .nul))
  | noModule {run : ToolRun} (text : String) (ends : ending = .finished run) (clean : run.Clean)
      (none : ∀ bytes found, run.content? tree output = some bytes → Spirv.decode bytes ≠ .ok found) :
      Comes tool searchPath ending tree output (.error (tool.complaint text).fault)
  | words {run : ToolRun} {bytes : Bytes} {found : List Nat} (ends : ending = .finished run)
      (clean : run.Clean) (written : run.content? tree output = some bytes)
      (decodes : Spirv.decode bytes = .ok found) :
      Comes tool searchPath ending tree output (.ok (found.map Int.ofNat))

/-- The faults with which a backend refuses a request. -/
inductive Refuses (tool : Tool) (searchPath : List Path) : Fault → Prop
  | complaint (text : String) : Refuses tool searchPath (RequestError.backend tool.backend text).fault
  | missing (wanted : Include) :
      Refuses tool searchPath (RequestError.inclusion (Include.notFound wanted searchPath)).fault

/-- The results that a backend may give. -/
structure Answers (tool : Tool) (searchPath : List Path) (ending : Tool.Ending) (tree : FileTree)
    (output : String) (result : Except Fault (List Int)) : Prop where
  /-- There are words if and only if a clean run has written a module, and they are its words. -/
  words : ∀ words, result = .ok words ↔ ∃ run bytes found, ending = .finished run ∧ run.Clean ∧
    run.content? tree output = some bytes ∧ Spirv.decode bytes = .ok found ∧ words = found.map Int.ofNat
  /-- An include is missing if and only if the diagnostic of a failure says so. -/
  missing : (∃ wanted, result = .error
      (RequestError.inclusion (Include.notFound wanted searchPath)).fault) ↔
    tool = Shaderc.tool ∧ ∃ text name, tool.Fails ending text ∧ Shaderc.NamesMissing text.toList name
  /-- It is the fault of the command if and only if that could not be handed to the system. -/
  nul : result = .error (.access .nul) ↔ ending = .nul
  /-- Everything else is a refusal in the name of the backend. -/
  refused : ∀ fault, result = .error fault → fault = .access .nul ∨ Refuses tool searchPath fault

theorem Comes.answers (comes : Comes tool searchPath ending tree output result) :
    Answers tool searchPath ending tree output result := by
  -- An ending is never both a failure and a clean run.
  have unclean {text : String} (fails : tool.Fails ending text) (run : ToolRun)
      (ends : ending = .finished run) : ¬run.Clean := by
    subst ends
    exact fails.not_clean
  have notMissing {run : ToolRun} (ends : ending = .finished run) (clean : run.Clean) :
      ¬(tool = Shaderc.tool ∧
        ∃ text name, tool.Fails ending text ∧ Shaderc.NamesMissing text.toList name) := by
    rintro ⟨_, text, _, fails, _⟩
    exact unclean fails run ends clean
  have passed {text : String} (fails : tool.Fails ending text) : ending ≠ .nul := by
    rintro rfl
    cases fails
  have started {run : ToolRun} (ends : ending = .finished run) : ending ≠ .nul := by
    rw [ends]
    exact nofun
  cases comes with
  | @failed text fails other =>
      refine ⟨fun words => iff_of_false nofun ?_, iff_of_false nofun ?_,
        iff_of_false nofun (passed fails), ?_⟩
      · rintro ⟨run, _, _, ends, clean, _⟩
        exact unclean fails run ends clean
      · rintro ⟨isShaderc, told, name, again, names⟩
        cases fails.unique again
        exact other isShaderc name names
      · rintro fault ⟨⟩
        exact .inr (.complaint text)
  | @missing text name wanted isShaderc fails names =>
      refine ⟨fun words => iff_of_false nofun ?_, ?_, iff_of_false nofun (passed fails), ?_⟩
      · rintro ⟨run, _, _, ends, clean, _⟩
        exact unclean fails run ends clean
      · exact iff_of_true ⟨wanted, rfl⟩ ⟨isShaderc, text, name, fails, names⟩
      · rintro fault ⟨⟩
        exact .inr (.missing wanted)
  | nul ends =>
      refine ⟨fun words => iff_of_false nofun ?_, iff_of_false nofun ?_, iff_of_true rfl ends, ?_⟩
      · rintro ⟨run, _, _, again, _⟩
        exact started again ends
      · rintro ⟨_, _, _, fails, _⟩
        exact passed fails ends
      · rintro fault ⟨⟩
        exact .inl rfl
  | @noModule run text ends clean none =>
      refine ⟨fun words => iff_of_false nofun ?_, iff_of_false nofun (notMissing ends clean),
        iff_of_false nofun (started ends), ?_⟩
      · rintro ⟨other, bytes, found, again, _, written, decodes, _⟩
        cases ends.symm.trans again
        exact none bytes found written decodes
      · rintro fault ⟨⟩
        exact .inr (.complaint text)
  | @words run bytes found ends clean written decodes =>
      refine ⟨fun words => ⟨?_, ?_⟩, iff_of_false nofun (notMissing ends clean),
        iff_of_false nofun (started ends), nofun⟩
      · rintro ⟨⟩
        exact ⟨run, bytes, found, ends, clean, written, decodes, rfl⟩
      · rintro ⟨other, others, more, again, _, writtenToo, decodesToo, rfl⟩
        cases ends.symm.trans again
        cases written.symm.trans writtenToo
        cases decodes.symm.trans decodesToo
        rfl

/-- Whatever comes of a compilation is words or a refusal, unless the command was not handed on. -/
theorem Answers.refuses_iff (answers : Answers tool searchPath ending tree output result) :
    (∀ fault, result = .error fault → Refuses tool searchPath fault) ↔ ending ≠ .nul := by
  rw [Ne, ← answers.nul]
  constructor
  · intro refuses unstarted
    cases refuses _ unstarted
  · intro started fault fails
    refine (answers.refused fault fails).resolve_left ?_
    rintro rfl
    exact started fails

/-! ## How tools are started -/

def argumentsOf (tool : Tool) (request : Request) : Except RequestError (List String) :=
  if tool = Naga.tool then Naga.arguments request.config
  else if tool = Shaderc.tool then
    Shaderc.arguments request.config request.origin? request.searchPath
  else SpirvAssembler.arguments request.config

def flagsOf (tool : Tool) (request : Request) : List String := (argumentsOf tool request).toOption.getD []

def fileFlags (dir source : String) : List String :=
  ["-MD", "-MF", inside dir "output.spv.d", "-o", inside dir "output.spv", source]

structure Plan where
  /-- The name under which the source is written first, unless the tool reads the file it comes from. -/
  name? : Option String
  arguments : List String

/-- How a tool is started for a request, with a directory for its files. -/
def planOf (tool : Tool) (request : Request) (dir : String) : Plan :=
  let flags := flagsOf tool request
  if tool = Naga.tool then
    ⟨some "input.wgsl", flags ++ [inside dir "input.wgsl", inside dir "output.spv"]⟩
  else if tool = Shaderc.tool then
    match request.origin? with
    | some origin => ⟨none, flags ++ fileFlags dir (Path.ofString origin).toString⟩
    | none =>
      let name := "inline." ++ Shaderc.languageWord request.config
      ⟨some name, flags ++ fileFlags dir (inside dir name)⟩
  else ⟨some "input.spvasm", flags ++ ["-o", inside dir "output.spv", inside dir "input.spvasm"]⟩

/-- The files of a session with a scratch directory, in which a file may have been written. -/
def filesWith (session : Session σ) (content : Bytes) (name? : Option String) : FileTree :=
  let made := (session.tree.attempt (·.makeDirectory session.scratch)).1
  match name? with
  | none => made
  | some name => (made.attempt (·.write (inside session.scratch name) content)).1

/-- The files among which a tool is started. -/
def filesFor (tool : Tool) (request : Request) (session : Session σ) : FileTree :=
  filesWith session (Text.Utf8.encode request.source) (planOf tool request session.scratch).name?

/-- What becomes of the start of a tool for a request. -/
def endingFor (tool : Tool) (executable? : Option String) (request : Request) (session : Session σ) :
    Tool.Ending :=
  let plan := planOf tool request session.scratch
  Tool.endingOf session (filesFor tool request session) executable? plan.arguments
    (plan.name?.map fun _ => request.source)

/-- A request whose target a tool knows. A source that is no file must not hold relative includes if the
    tool looks for included files. -/
structure Supports (tool : Tool) (request : Request) : Prop where
  target : ∃ target, request.config.target = .ok target ∧ (tool = Shaderc.tool → target ≠ .webgpu)
  inline : tool = Shaderc.tool → request.origin? = none → Include.checkInline request.source = .ok ()

/-- A session in which a scratch directory can be made, with room for the names of its files. -/
structure HasScratch (session : Session σ) : Prop where
  rooted : session.tree.Rooted
  made : ∃ grown, session.tree.makeDirectory session.scratch = .ok grown
  room : session.scratch.utf8ByteSize + 1 + shortName ≤ longestPath

theorem comes_of_clean {after : Session σ} {dir : String} {place : Location} {taken : List String}
    {run : ToolRun} (fresh : Fresh dir place taken tree) (isFree : "output.spv" ∉ taken)
    (ends : ending = .finished run) (clean : run.Clean)
    (left : after.tree = Tool.leave tree run.written) :
    Comes tool searchPath ending tree (inside dir "output.spv")
      ((tool.readOutput (inside dir "output.spv")).run.run after).1 := by
  have isShort : IsShort "output.spv" := ⟨.of_long (by decide) (by decide), by decide, by decide⟩
  -- The directory was fresh, so whatever stands there now comes from this run.
  have reads (bytes : Bytes) : after.tree.read (inside dir "output.spv") = .ok bytes ↔
      run.content? tree (inside dir "output.spv") = some bytes := by
    rw [left]
    exact Tool.read_leave fresh isShort isFree run bytes
  rcases Tool.readOutput_cases tool after (inside dir "output.spv") with
    ⟨bytes, words, read, decodes, same⟩ | ⟨text, none, same⟩
  · rw [same]
    exact .words ends clean ((reads bytes).mp read) decodes
  · rw [same]
    exact .noModule text ends clean fun bytes found written => none bytes found ((reads bytes).mpr written)

/-- A tool whose diagnostics are passed on as they are. -/
theorem comes_of_run (session : Session σ) {dir : String} {place : Location} {taken : List String}
    (plain : tool ≠ Shaderc.tool) (fresh : Fresh dir place taken session.tree)
    (isFree : "output.spv" ∉ taken) (arguments : List String) (input? : Option String) :
    Comes tool searchPath (Tool.endingOf session session.tree executable? arguments input?) session.tree
      (inside dir "output.spv")
      ((tool.run executable? arguments input? >>= fun _ =>
        tool.readOutput (inside dir "output.spv")).run.run session).1 := by
  rw [Outcome.run_bind]
  rcases Tool.run_cases tool session executable? arguments input? with
    ⟨text, after, fails, same⟩ | ⟨after, ends, same⟩ | ⟨run, after, ends, clean, same, left⟩
  · rw [same]
    exact .failed fails fun isShaderc => absurd isShaderc plain
  · rw [same]
    exact .nul ends
  · rw [same]
    exact comes_of_clean fresh isFree ends clean left

theorem exists_fresh (ready : HasScratch session) (content : Bytes) :
    ∃ grown place, session.tree.makeDirectory session.scratch = .ok grown ∧
      filesWith session content none = grown ∧ Fresh session.scratch place [] grown := by
  obtain ⟨grown, made⟩ := ready.made
  obtain ⟨place, fresh⟩ := fresh_of_makeDirectory ready.rooted made ready.room
  exact ⟨grown, place, made, by rw [filesWith, FileTree.attempt, made], fresh⟩

theorem run_writeFile_source {name : String} (ready : HasScratch session) (isShort : IsShort name)
    (content : Bytes) :
    ∃ grown place, session.tree.makeDirectory session.scratch = .ok grown ∧
      (Action.writeFile (inside session.scratch name) content).run.run { session with tree := grown } =
        (.ok (), { session with tree := filesWith session content (some name) }) ∧
      Fresh session.scratch place [name] (filesWith session content (some name)) := by
  obtain ⟨grown, place, made, same, fresh⟩ := exists_fresh ready content
  obtain ⟨stored, written, fresh⟩ := fresh.write isShort List.not_mem_nil content
  have files : filesWith session content (some name) = stored := by
    show ((filesWith session content none).attempt _).1 = stored
    rw [same, FileTree.attempt, written]
  rw [files]
  exact ⟨grown, place, made, Action.run_writeFile_eq_ok.mpr ⟨stored, written, rfl⟩, fresh⟩

/-! ## Tools that read a written source -/

theorem comes_of_written {name : String} (plain : tool ≠ Shaderc.tool) (ready : HasScratch session)
    (isShort : IsShort name) (apart : "output.spv" ≠ name) (content : Bytes)
    (arguments : String → List String) (input? : Option String) :
    Comes tool searchPath
      (Tool.endingOf session (filesWith session content (some name)) executable?
        (arguments session.scratch) input?)
      (filesWith session content (some name)) (inside session.scratch "output.spv")
      ((Action.withScratch fun dir =>
        Action.writeFile (inside dir name) content >>= fun _ =>
          tool.run executable? (arguments dir) input? >>= fun _ =>
            tool.readOutput (inside dir "output.spv")).run.run session).1 := by
  obtain ⟨grown, place, made, writes, fresh⟩ := run_writeFile_source ready isShort content
  rw [Action.run_withScratch made, Outcome.run_bind, writes]
  exact comes_of_run { session with tree := filesWith session content (some name) }
    plain fresh (by simpa using apart) (arguments session.scratch) input?

theorem compile_naga (request : Request) :
    (Naga.compile executable? request : Action σ (List Int)) =
      Action.ofRequest (Naga.arguments request.config) >>= fun flags => Action.withScratch fun dir =>
        Action.writeFile (inside dir "input.wgsl") (Text.Utf8.encode request.source) >>= fun _ =>
          Naga.tool.run executable? (flags ++ [inside dir "input.wgsl", inside dir "output.spv"])
            (some request.source) >>= fun _ =>
            Naga.tool.readOutput (inside dir "output.spv") := by
  simp only [Naga.compile, inside, String.append_assoc, String.reduceAppend]

theorem compile_assembler (request : Request) :
    (SpirvAssembler.compile executable? request : Action σ (List Int)) =
      Action.ofRequest (SpirvAssembler.arguments request.config) >>= fun flags =>
        Action.withScratch fun dir =>
          Action.writeFile (inside dir "input.spvasm") (Text.Utf8.encode request.source) >>= fun _ =>
            SpirvAssembler.tool.run executable?
              (flags ++ ["-o", inside dir "output.spv", inside dir "input.spvasm"])
              (some request.source) >>= fun _ =>
              SpirvAssembler.tool.readOutput (inside dir "output.spv") := by
  simp only [SpirvAssembler.compile, inside, String.append_assoc, String.reduceAppend]

/-! ## The tool with depfiles -/

theorem explain_cases (request : Request) (text : String) :
    (∃ name wanted, Shaderc.NamesMissing text.toList name ∧
        Shaderc.explain request (Shaderc.tool.complaint text).fault =
          (RequestError.inclusion (Include.notFound wanted request.searchPath)).fault) ∨
      (∀ name, ¬Shaderc.NamesMissing text.toList name) ∧
        Shaderc.explain request (Shaderc.tool.complaint text).fault =
          (Shaderc.tool.complaint text).fault := by
  unfold Shaderc.explain Tool.complaint RequestError.fault
  dsimp only
  cases found : Shaderc.missingInclude? text.toList with
  | none => exact .inr ⟨Shaderc.not_namesMissing_of_none found, rfl⟩
  | some name => exact .inl ⟨name, _, Shaderc.namesMissing_of_found found, rfl⟩

theorem run_recordListed (depfile source : String) (session : Session σ)
    (readable : ∀ content, session.tree.read depfile = .ok content →
      ∃ text, Text.Utf8.decode content = .ok text) :
    ∃ after, (Shaderc.recordListed depfile source).run.run session = (.ok (), after) ∧
      after.tree = session.tree := by
  obtain ⟨paths, lists⟩ : ∃ paths, Shaderc.Lists session.tree depfile paths := by
    by_cases present : session.tree.isFile depfile
    · obtain ⟨content, read⟩ := isFile_iff.mp present
      obtain ⟨text, decodes⟩ := readable content read
      exact ⟨_, .text read decodes⟩
    · exact ⟨[], .absent present⟩
  exact ⟨_, Shaderc.run_recordListed_eq_ok.mpr ⟨paths, lists, rfl⟩, rfl⟩

/-- Whether whatever a run leaves as a depfile is a text. -/
def TextDepfile (ending : Tool.Ending) (tree : FileTree) (depfile : String) : Prop :=
  ∀ run content, ending = .finished run → run.content? tree depfile = some content →
    ∃ text, Text.Utf8.decode content = .ok text

theorem comes_of_explained (session : Session σ) {dir source : String} {place : Location}
    {taken : List String} (fresh : Fresh dir place taken session.tree)
    (free : "output.spv" ∉ taken ∧ "output.spv.d" ∉ taken) (arguments : List String) (input? : Option String)
    (readable : TextDepfile (Tool.endingOf session session.tree executable? arguments input?) session.tree
      (inside dir "output.spv.d")) :
    Comes Shaderc.tool request.searchPath
      (Tool.endingOf session session.tree executable? arguments input?) session.tree
      (inside dir "output.spv")
      ((Action.outcome (Shaderc.tool.run executable? arguments input?) >>= fun
        | .error fault => throw (Shaderc.explain request fault)
        | .ok _ => Shaderc.recordListed (inside dir "output.spv.d") source >>= fun _ =>
          Shaderc.tool.readOutput (inside dir "output.spv")).run.run session).1 := by
  have isShort : IsShort "output.spv.d" := ⟨.of_long (by decide) (by decide), by decide, by decide⟩
  rw [Outcome.run_bind, Action.run_outcome]
  rcases Tool.run_cases Shaderc.tool session executable? arguments input? with
    ⟨text, after, fails, same⟩ | ⟨after, ends, same⟩ | ⟨run, after, ends, clean, same, left⟩
  · rw [same]
    dsimp only
    rw [Action.run_throw]
    rcases explain_cases request text with ⟨name, wanted, names, explained⟩ | ⟨other, explained⟩
    · rw [explained]
      exact .missing wanted rfl fails names
    · rw [explained]
      exact .failed fails fun _ => other
  -- This is not put down to the tool, so there is nothing to explain.
  · rw [same]
    exact .nul ends
  · rw [same]
    dsimp only
    obtain ⟨noted, ran, tree⟩ := run_recordListed _ source after fun content read =>
      readable run content ends ((Tool.read_leave fresh isShort free.2 run content).mp (left ▸ read))
    rw [Outcome.run_bind, ran]
    exact comes_of_clean fresh free.1 ends clean (tree.trans left)

/-! ## The known tools -/

theorem eq_of_mem_tools (known : tool ∈ tools) :
    tool = Naga.tool ∨ tool = Shaderc.tool ∨ tool = SpirvAssembler.tool := by
  simpa only [tools, List.mem_cons, List.not_mem_nil, or_false] using known

theorem argumentsOf_eq_ok (known : tool ∈ tools) (supports : Supports tool request) :
    argumentsOf tool request = .ok (flagsOf tool request) := by
  obtain ⟨target, isTarget, knows⟩ := supports.target
  have accepted : ∃ flags, argumentsOf tool request = .ok flags := by
    rcases eq_of_mem_tools known with rfl | rfl | rfl
    · rw [argumentsOf, if_pos rfl, Naga.arguments, isTarget]
      exact ⟨_, rfl⟩
    · have named : ∃ flag, Shaderc.targetFlag request.config = .ok flag := by
        rw [Shaderc.targetFlag, isTarget]
        cases target with
        | webgpu => exact absurd rfl (knows rfl)
        | vulkan1_0 | vulkan1_1 | vulkan1_2 | opengl4_5 => exact ⟨_, rfl⟩
      obtain ⟨flag, named⟩ := named
      rw [argumentsOf, if_neg (by decide), if_pos rfl, Shaderc.arguments, named]
      exact ⟨_, rfl⟩
    · rw [argumentsOf, if_neg (by decide), if_neg (by decide), SpirvAssembler.arguments, isTarget]
      exact ⟨_, rfl⟩
  obtain ⟨flags, accepted⟩ := accepted
  rw [flagsOf, accepted]
  rfl

theorem naga_comes (supports : Supports Naga.tool request) (ready : HasScratch session) :
    Comes Naga.tool request.searchPath (endingFor Naga.tool executable? request session)
      (filesFor Naga.tool request session) (inside session.scratch "output.spv")
      ((Naga.compile executable? request).run.run session).1 := by
  have accepted : Naga.arguments request.config = .ok (flagsOf Naga.tool request) :=
    argumentsOf_eq_ok (by decide) supports
  rw [compile_naga, Action.run_ofRequest_bind accepted, endingFor, filesFor, planOf, if_pos rfl]
  exact comes_of_written (by decide) ready ⟨.of_long (by decide) (by decide), by decide, by decide⟩
    (by decide) _ (fun dir => _ ++ [inside dir "input.wgsl", inside dir "output.spv"]) _

theorem assembler_comes (supports : Supports SpirvAssembler.tool request) (ready : HasScratch session) :
    Comes SpirvAssembler.tool request.searchPath
      (endingFor SpirvAssembler.tool executable? request session)
      (filesFor SpirvAssembler.tool request session) (inside session.scratch "output.spv")
      ((SpirvAssembler.compile executable? request).run.run session).1 := by
  have accepted : SpirvAssembler.arguments request.config = .ok (flagsOf SpirvAssembler.tool request) :=
    argumentsOf_eq_ok (by decide) supports
  rw [compile_assembler, Action.run_ofRequest_bind accepted, endingFor, filesFor, planOf,
    if_neg (by decide), if_neg (by decide)]
  exact comes_of_written (by decide) ready ⟨.of_long (by decide) (by decide), by decide, by decide⟩
    (by decide) _ (fun dir => _ ++ ["-o", inside dir "output.spv", inside dir "input.spvasm"]) _

theorem isShort_inline (config : Config) : IsShort ("inline." ++ Shaderc.languageWord config) := by
  unfold Shaderc.languageWord
  split
  · exact ⟨.of_long (by decide) (by decide), by decide, by decide⟩
  · exact ⟨.of_long (by decide) (by decide), by decide, by decide⟩

theorem sourceFile_inline {dir : String} (inline : request.origin? = none) :
    (Shaderc.sourceFile request dir : Action σ (String × Option String)) =
      Action.writeFile (inside dir ("inline." ++ Shaderc.languageWord request.config))
        (Text.Utf8.encode request.source) >>= fun _ =>
        pure (inside dir ("inline." ++ Shaderc.languageWord request.config), some request.source) := by
  have path : s!"{dir}/inline.{Shaderc.languageWord request.config}" =
      inside dir ("inline." ++ Shaderc.languageWord request.config) := by
    show dir ++ "/inline." ++ Shaderc.languageWord request.config = _
    rw [inside, @String.append_assoc dir "/", ← @String.append_assoc "/"]
    simp only [String.reduceAppend, String.append_assoc]
  rw [Shaderc.sourceFile, inline]
  dsimp only
  rw [path]

theorem checkSource_eq_ok (supports : Supports Shaderc.tool request) :
    Shaderc.checkSource request = .ok () := by
  cases origin : request.origin? with
  | some path => rw [Shaderc.checkSource, origin]
  | none =>
      rw [Shaderc.checkSource, origin, supports.inline rfl origin]
      rfl

theorem planOf_shaderc (request : Request) (dir : String) :
    planOf Shaderc.tool request dir =
      match request.origin? with
      | some path =>
        ⟨none, flagsOf Shaderc.tool request ++ fileFlags dir (Path.ofString path).toString⟩
      | none =>
        ⟨some ("inline." ++ Shaderc.languageWord request.config), flagsOf Shaderc.tool request ++
          fileFlags dir (inside dir ("inline." ++ Shaderc.languageWord request.config))⟩ := by
  rw [planOf, if_neg (by decide), if_pos rfl]

theorem outputs_ne_inline (config : Config) :
    "output.spv" ∉ ["inline." ++ Shaderc.languageWord config] ∧
      "output.spv.d" ∉ ["inline." ++ Shaderc.languageWord config] := by
  unfold Shaderc.languageWord
  split
  · decide
  · decide

theorem shaderc_comes (supports : Supports Shaderc.tool request) (ready : HasScratch session)
    (readable : TextDepfile (endingFor Shaderc.tool executable? request session)
      (filesFor Shaderc.tool request session) (inside session.scratch "output.spv.d")) :
    Comes Shaderc.tool request.searchPath (endingFor Shaderc.tool executable? request session)
      (filesFor Shaderc.tool request session) (inside session.scratch "output.spv")
      ((Shaderc.compile executable? request).run.run session).1 := by
  have accepted : Shaderc.arguments request.config request.origin? request.searchPath =
      .ok (flagsOf Shaderc.tool request) := argumentsOf_eq_ok (by decide) supports
  have output : session.scratch ++ "/output.spv" = inside session.scratch "output.spv" :=
    inside_eq session.scratch rfl
  have depfile : session.scratch ++ "/output.spv.d" = inside session.scratch "output.spv.d" :=
    inside_eq session.scratch rfl
  rw [Shaderc.compile, Action.run_ofRequest_bind (checkSource_eq_ok supports),
    Action.run_ofRequest_bind accepted]
  rw [endingFor, filesFor, planOf_shaderc] at readable ⊢
  cases origin : request.origin? with
  | some path =>
      -- The tool reads the file itself, so nothing is written before it starts.
      obtain ⟨grown, place, made, files, fresh⟩ := exists_fresh ready (Text.Utf8.encode request.source)
      rw [origin] at readable
      rw [Action.run_withScratch made, Shaderc.sourceFile, origin]
      dsimp only at readable ⊢
      rw [files] at readable ⊢
      rw [output, depfile]
      exact comes_of_explained { session with tree := grown } fresh (by simp) _ _ readable
  | none =>
      obtain ⟨grown, place, made, writes, fresh⟩ := run_writeFile_source ready
        (isShort_inline request.config) (Text.Utf8.encode request.source)
      rw [origin] at readable
      rw [Action.run_withScratch made, sourceFile_inline origin, Outcome.run_bind, Outcome.run_bind,
        writes, output, depfile]
      exact comes_of_explained { session with tree := filesWith session _ (some _) } fresh
        (outputs_ne_inline request.config) _ _ readable

theorem name_ofTool (known : tool ∈ tools) (executable? : Option String) :
    (ofTool tool executable? : Backend σ).name = tool.backend := by
  rcases eq_of_mem_tools known with rfl | rfl | rfl <;> rfl

theorem comes_of_known (known : tool ∈ tools) (executable? : Option String)
    (supports : Supports tool request) (ready : HasScratch session)
    (readable : tool = Shaderc.tool → TextDepfile (endingFor tool executable? request session)
      (filesFor tool request session) (inside session.scratch "output.spv.d")) :
    Comes tool request.searchPath (endingFor tool executable? request session)
      (filesFor tool request session) (inside session.scratch "output.spv")
      (((ofTool tool executable?).compile request).run.run session).1 := by
  rcases eq_of_mem_tools known with rfl | rfl | rfl
  · exact naga_comes supports ready
  · exact shaderc_comes supports ready (readable rfl)
  · exact assembler_comes supports ready

/-- A compilation by a known tool gives words if and only if the tool was started and ended with status
    zero, without a warning, and has left a module, and then its words. It is a missing include if and only
    if the tool's diagnostics say so, and else a refusal by the backend, unless the command cannot be handed
    to the system. As that is so for a null character in any word of it, there is nothing but words and
    refusals if and only if no word holds one. -/
theorem compile_answers (known : tool ∈ tools) (executable? : Option String)
    (supports : Supports tool request) (ready : HasScratch session)
    (readable : tool = Shaderc.tool → TextDepfile (endingFor tool executable? request session)
      (filesFor tool request session) (inside session.scratch "output.spv.d")) :
    (ofTool tool executable? : Backend σ).name = tool.backend ∧
      Answers tool request.searchPath (endingFor tool executable? request session)
        (filesFor tool request session) (inside session.scratch "output.spv")
        (((ofTool tool executable?).compile request).run.run session).1 ∧
      (session.launcher.Guards →
        ((∀ fault, (((ofTool tool executable?).compile request).run.run session).1 = .error fault →
          Refuses tool request.searchPath fault) ↔
        ∀ executable ∈ executable?, ∀ word ∈ executable :: (planOf tool request session.scratch).arguments,
          '\x00' ∉ word.toList)) := by
  have answers := (comes_of_known known executable? supports ready readable).answers
  refine ⟨name_ofTool known executable?, answers, fun guards => ?_⟩
  rw [answers.refuses_iff, Ne, endingFor, guards.endingOf_eq_nul_iff, not_not]

def inlineRequest : Request where
  source := "#include <a.h>"
  origin? := none
  config := { language := .hlsl }
  searchPath := []

/-- A run that writes its module twice, under two names of one file, and a depfile in between. -/
def rewritingRun : ToolRun where
  status := 0
  stdout := []
  stderr := [0x57, 0x61, 0x52, 0x4E]
  written := [("scratch/output.spv", [1]), ("scratch/output.spv.d", [0x6F, 0x3A, 0x20, 0x61]),
    ("./scratch/../scratch/output.spv", [7, 0x23, 2, 3])]

def rewritingSession : Session Unit where
  tree := .empty
  environment := []
  launcher := Launcher.guarded fun _ _ _ => .finished rewritingRun
  scratch := "scratch"
  calls := []
  log := []
  dependencies := []
  extra := ()

theorem rewritingSession_ready : HasScratch rewritingSession := ⟨rooted_empty, ⟨_, rfl⟩, by decide⟩

/-- The words are the ones that were written last. -/
theorem last_module_read :
    Supports Shaderc.tool inlineRequest ∧ HasScratch rewritingSession ∧ rewritingSession.launcher.Guards ∧
      (((ofTool Shaderc.tool (some "glslc")).compile inlineRequest).run.run rewritingSession).1 =
        .ok [0x07230203] := by
  have supports : Supports Shaderc.tool inlineRequest := ⟨⟨.vulkan1_0, rfl, nofun⟩, fun _ _ => rfl⟩
  have clean : rewritingRun.Clean := ⟨rfl, (Tool.hasWarning_diagnostics _).not.mp (by decide)⟩
  have ends : endingFor Shaderc.tool (some "glslc") inlineRequest rewritingSession =
      .finished rewritingRun := by decide +kernel
  have answers := compile_answers (by decide) (some "glslc") supports rewritingSession_ready fun _ => by
    rintro run content finished written
    cases ends.symm.trans finished
    cases written
    exact ⟨_, rfl⟩
  exact ⟨supports, rewritingSession_ready, Launcher.guards_guarded nofun,
    (answers.2.1.words _).mpr ⟨_, _, [0x07230203], ends, clean, rfl, rfl, rfl⟩⟩

def nulRequest : Request where
  source := ""
  origin? := none
  config := { language := .glsl, entryPoint := "a\x00b" }
  searchPath := []

/-- A null character in the name of an entry point stops the compilation, and it is no refusal. -/
theorem nul_in_entry_point :
    Directive.parseConfig {} (.text "glsl, entry=\"a\x00b\"") = .ok nulRequest.config ∧
      Supports Shaderc.tool nulRequest ∧ HasScratch rewritingSession ∧
      rewritingSession.launcher.Guards ∧
      ∃ fault, (((ofTool Shaderc.tool (some "glslc")).compile nulRequest).run.run rewritingSession).1 =
          .error fault ∧
        fault.message = "embedded null byte" ∧ ¬Refuses Shaderc.tool nulRequest.searchPath fault := by
  have supports : Supports Shaderc.tool nulRequest := ⟨⟨.vulkan1_0, rfl, nofun⟩, fun _ _ => rfl⟩
  have ends : endingFor Shaderc.tool (some "glslc") nulRequest rewritingSession = .nul := by
    decide +kernel
  have comes := shaderc_comes supports rewritingSession_ready fun run content finished => by
    cases ends.symm.trans finished
  exact ⟨by decide +kernel, supports, rewritingSession_ready, Launcher.guards_guarded nofun,
    _, comes.answers.nul.mpr ends, rfl, nofun⟩

end Backend

end ShaderBuild
