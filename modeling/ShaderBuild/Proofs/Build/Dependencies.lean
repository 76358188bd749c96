import ShaderBuild.Proofs.Backend.Compilation
import ShaderBuild.Proofs.Build.FirstSuccess

/-! # The files that a compilation has read

The shader's own file comes first. The tool for GLSL and HLSL lists it once more, with the files that it
includes, under the name it was given; under that name it is not noted again. The file that a source on its
own is written to is never noted. The other tools add nothing.
-/

namespace ShaderBuild

variable {σ : Type} {session after : Session σ} {executable? : Option String} {request : Request}

namespace Tool

variable {tool : Tool} {arguments : List String} {input? : Option String}

theorem exists_run_of_ok {bytes : Bytes}
    (ran : (tool.run executable? arguments input?).run.run session = (.ok bytes, after)) :
    ∃ executable run, executable? = some executable ∧
      session.launcher session.tree session.calls ⟨executable :: arguments, input?⟩ = .finished run ∧
      { started session ⟨executable :: arguments, input?⟩ with
        tree := leave session.tree run.written } = after := by
  cases executable? with
  | none => cases ran
  | some executable =>
      rw [run_run_some] at ran
      cases ended : session.launcher session.tree session.calls ⟨executable :: arguments, input?⟩ with
      | cannotStart fault =>
          rw [ended] at ran
          cases ran
      | nul =>
          rw [ended] at ran
          cases ran
      | finished run =>
          rw [ended] at ran
          exact ⟨executable, run, rfl, ended, congrArg Prod.snd ran⟩

theorem run_readOutput_eq_ok {path : String} {words : List Int}
    (ran : (tool.readOutput path).run.run session = (.ok words, after)) : session = after := by
  unfold readOutput at ran
  rw [Outcome.run_get_bind] at ran
  cases read : session.tree.read path with
  | error fault =>
      rw [read] at ran
      cases ran
  | ok bytes =>
      rw [read] at ran
      dsimp only at ran
      rw [Action.run_ofRequest] at ran
      exact congrArg Prod.snd ran

/-- Tools that get the source as a file of their own note nothing. -/
theorem runOn_dependencies {source output : String} {text : Bytes} {words : List Int}
    (ran : (Action.writeFile source text >>= fun _ => tool.run executable? arguments input? >>= fun _ =>
      tool.readOutput output).run.run session = (.ok words, after)) :
    after.dependencies = session.dependencies := by
  obtain ⟨_, written, writes, ran⟩ := Action.run_bind_eq_ok.mp ran
  obtain ⟨_, ended, runs, reads⟩ := Action.run_bind_eq_ok.mp ran
  obtain ⟨_, -, rfl⟩ := Action.run_writeFile_eq_ok.mp writes
  obtain ⟨_, _, -, -, rfl⟩ := exists_run_of_ok runs
  cases run_readOutput_eq_ok reads
  rfl

end Tool

theorem Naga.compile_dependencies {words : List Int}
    (ran : (compile executable? request).run.run session = (.ok words, after)) :
    after.dependencies = session.dependencies := by
  rw [Backend.compile_naga] at ran
  obtain ⟨_, -, ran⟩ := Action.run_ofRequest_bind_eq_ok.mp ran
  obtain ⟨_, _, -, works, rfl⟩ := Action.exists_inner_of_ok ran
  exact (Tool.runOn_dependencies works :)

theorem SpirvAssembler.compile_dependencies {words : List Int}
    (ran : (compile executable? request).run.run session = (.ok words, after)) :
    after.dependencies = session.dependencies := by
  rw [Backend.compile_assembler] at ran
  obtain ⟨_, -, ran⟩ := Action.run_ofRequest_bind_eq_ok.mp ran
  obtain ⟨_, _, -, works, rfl⟩ := Action.exists_inner_of_ok ran
  exact (Tool.runOn_dependencies works :)

namespace Shaderc

open FileTree Backend

/-- The name under which the tool is given a source. -/
def sourceName (request : Request) (dir : String) : String :=
  match request.origin? with
  | some origin => (Path.ofString origin).toString
  | none => inside dir ("inline." ++ languageWord request.config)

/-- A run of the tool for a request, and the paths that its depfile lists afterwards. -/
structure Listing (executable? : Option String) (request : Request) (before : Session σ) where
  executable : String
  input? : Option String
  run : ToolRun
  paths : List String
  given : executable? = some executable
  ran : before.launcher (filesFor tool request before) before.calls
    ⟨executable :: (flagsOf tool request ++ fileFlags before.scratch (sourceName request before.scratch)),
      input?⟩ = .finished run
  lists : Lists (Tool.leave (filesFor tool request before) run.written)
    (inside before.scratch "output.spv.d") paths

/-- The name under which it was given the source. -/
def Listing.source {before : Session σ} (_ : Listing executable? request before) : String :=
  sourceName request before.scratch

/-- The call that has started the tool. -/
def Listing.call {before : Session σ} (listing : Listing executable? request before) : ToolCall :=
  ⟨listing.executable ::
    (flagsOf tool request ++ fileFlags before.scratch (sourceName request before.scratch)), listing.input?⟩

theorem run_sourceFile_eq_ok {grown : FileTree} {file : String × Option String}
    (made : session.tree.makeDirectory session.scratch = .ok grown)
    (ran : (sourceFile request session.scratch).run.run { session with tree := grown } =
      (.ok file, after)) :
    file.1 = sourceName request session.scratch ∧
      { session with tree := filesFor tool request session } = after := by
  have attempted : (session.tree.attempt (·.makeDirectory session.scratch)).1 = grown := by
    rw [FileTree.attempt, made]
  cases origin : request.origin? with
  | some path =>
      rw [sourceFile, origin] at ran
      cases ran
      rw [sourceName, filesFor, planOf_shaderc, origin]
      exact ⟨rfl, by rw [← attempted]; rfl⟩
  | none =>
      rw [sourceFile_inline origin] at ran
      obtain ⟨_, _, writes, ⟨⟩⟩ := Action.run_bind_eq_ok.mp ran
      obtain ⟨stored, written, rfl⟩ := Action.run_writeFile_eq_ok.mp writes
      rw [sourceName, filesFor, planOf_shaderc, origin]
      refine ⟨rfl, ?_⟩
      dsimp only [filesWith]
      rw [attempted, FileTree.attempt, written]

theorem exists_run_of_ok {arguments : List String} {input? : Option String} {depfile source output : String}
    {words : List Int}
    (ran : (Action.outcome (tool.run executable? arguments input?) >>= fun
      | .error fault => throw (explain request fault)
      | .ok _ => recordListed depfile source >>= fun _ => tool.readOutput output).run.run session =
        (.ok words, after)) :
    ∃ executable run paths, executable? = some executable ∧
      session.launcher session.tree session.calls ⟨executable :: arguments, input?⟩ = .finished run ∧
      Lists (Tool.leave session.tree run.written) depfile paths ∧
      after.calls = session.calls ++ [⟨executable :: arguments, input?⟩] ∧
      after.dependencies = session.dependencies ++ paths.filter (· ≠ source) := by
  rw [Outcome.run_bind, Action.run_outcome] at ran
  rcases runs : (tool.run executable? arguments input?).run.run session with ⟨_ | bytes, ended⟩
  · rw [runs] at ran
    cases ran
  · rw [runs] at ran
    obtain ⟨executable, run, given, launched, rfl⟩ := Tool.exists_run_of_ok runs
    obtain ⟨_, _, notes, reads⟩ := Action.run_bind_eq_ok.mp ran
    obtain ⟨paths, lists, rfl⟩ := run_recordListed_eq_ok.mp notes
    cases Tool.run_readOutput_eq_ok reads
    exact ⟨executable, run, paths, given, launched, lists, rfl, rfl⟩

/-- A compilation that gives words has noted what the tool lists, without the name of the source. -/
theorem exists_listing {words : List Int}
    (ran : (compile executable? request).run.run session = (.ok words, after)) :
    ∃ listing : Listing executable? request session,
      after.calls = session.calls ++ [listing.call] ∧
      after.dependencies = session.dependencies ++ listing.paths.filter (· ≠ listing.source) := by
  obtain ⟨_, -, ran⟩ := Action.run_ofRequest_bind_eq_ok.mp ran
  obtain ⟨flags, accepted, ran⟩ := Action.run_ofRequest_bind_eq_ok.mp ran
  obtain ⟨grown, inner, made, works, left⟩ := Action.exists_inner_of_ok ran
  obtain ⟨⟨source, input?⟩, between, prepares, compiles⟩ := Action.run_bind_eq_ok.mp works
  obtain ⟨rfl, rfl⟩ := run_sourceFile_eq_ok made prepares
  obtain ⟨executable, run, paths, given, launched, lists, calls, noted⟩ := exists_run_of_ok compiles
  have accepts : flagsOf tool request = flags := by
    rw [flagsOf, argumentsOf, if_neg (by decide), if_pos rfl, accepted]
    rfl
  have output : session.scratch ++ "/output.spv" = inside session.scratch "output.spv" :=
    inside_eq session.scratch rfl
  have depfile : session.scratch ++ "/output.spv.d" = inside session.scratch "output.spv.d" :=
    inside_eq session.scratch rfl
  rw [output, depfile, ← accepts] at launched calls
  rw [depfile] at lists
  rw [← left]
  exact ⟨⟨executable, input?, run, paths, given, launched, lists⟩, calls, noted⟩

end Shaderc

namespace Dispatch

theorem settled_calls (failures : List Failure) (backend : Backend σ) (ended : Session σ) :
    (settled failures backend ended).calls = ended.calls := by
  unfold settled
  split <;> rfl

theorem count_origin {origin source : String} {paths : List String} :
    (origin :: paths.filter (· ≠ source)).count origin = 1 ↔ (origin ∈ paths → origin = source) := by
  rw [List.count_cons_self, Nat.add_eq_right, List.count_eq_zero, List.mem_filter]
  simp only [decide_eq_true_eq, not_and, ne_eq, not_not]

/-- What a request has read when it succeeds: its own file, and what the tool for GLSL and HLSL lists in a
    depfile if that tool has compiled it, in order and with repeats. The name under which the tool was
    given the source is left out, so a source on its own does not show, and a file shows once, unless its
    own name is another one and is listed as well. What was read in earlier attempts does not count. -/
theorem dispatch_dependencies {backends : List (Backend σ)} {feedback : Feedback}
    (ran : (dispatch backends request).run.run session = (.ok feedback, after)) :
    ∃ success : Success backends request session,
      success.yields = feedback ∧ success.leaves [] = after ∧
      (∀ executable?, success.backend = Shaderc.backend executable? →
        ∃ listing : Shaderc.Listing executable? request (success.between.afresh request),
          after.calls = success.between.calls ++ [listing.call] ∧
          feedback.dependencies =
            request.origin?.toList ++ listing.paths.filter (· ≠ listing.source) ∧
          (∀ origin, request.origin? = some origin → feedback.dependencies.head? = some origin ∧
            (feedback.dependencies.count origin = 1 ↔
              (origin ∈ listing.paths → origin = listing.source))) ∧
          (request.origin? = none → listing.source ∉ feedback.dependencies)) ∧
      ∀ executable?, success.backend = Naga.backend executable? ∨
        success.backend = SpirvAssembler.backend executable? →
        feedback.dependencies = request.origin?.toList := by
  obtain ⟨success, rfl, rfl⟩ := run_dispatch_eq_ok_iff.mp ran
  have compiled := success.compiled
  refine ⟨success, rfl, rfl, fun executable? isShaderc => ?_, ?_⟩
  · rw [isShaderc] at compiled
    obtain ⟨listing, calls, noted⟩ := Shaderc.exists_listing compiled
    have dependencies : success.yields.dependencies =
        request.origin?.toList ++ listing.paths.filter (· ≠ listing.source) := noted
    refine ⟨listing, (settled_calls _ _ _).trans calls, dependencies, fun origin is => ?_, fun none => ?_⟩
    · rw [dependencies, is]
      exact ⟨rfl, count_origin⟩
    · rw [dependencies, none]
      simp
  · rintro executable? (isNaga | isAssembler)
    · rw [isNaga] at compiled
      exact Naga.compile_dependencies compiled
    · rw [isAssembler] at compiled
      exact SpirvAssembler.compile_dependencies compiled

def dottedRequest : Request := ⟨"", some "./a.frag", { language := .glsl }, []⟩

/-- A run that lists its source twice and a header twice. -/
def listingSession : Session Unit := { idle with
  launcher := fun _ _ _ => .finished {
    status := 0
    stdout := []
    stderr := []
    written := [("scratch/output.spv", [3, 2, 0x23, 7]),
      ("scratch/output.spv.d", Text.Utf8.encode "o: a.frag b.h a.frag b.h")] } }

/-- A backend that takes in a file and fails, and the tool. -/
def second : List (Backend Unit) :=
  [recording "first" .glsl "a.h" (.error (.backend "first" "no")), Shaderc.backend (some "glslc")]

theorem source_noted_once :
    ∃ after, (dispatch second dottedRequest).run.run listingSession =
        (.ok ⟨[0x07230203], ["./a.frag", "b.h", "b.h"]⟩, after) ∧
      ∃ (before : Session Unit) (listing : Shaderc.Listing (some "glslc") dottedRequest before),
        ["b.h", "b.h"] = listing.paths.filter (· ≠ listing.source) := by
  have value : ((dispatch second dottedRequest).run.run listingSession).1.toOption =
      some ⟨[0x07230203], ["./a.frag", "b.h", "b.h"]⟩ := by decide +kernel
  obtain ⟨after, ran⟩ : ∃ after, (dispatch second dottedRequest).run.run listingSession =
      (.ok ⟨[0x07230203], ["./a.frag", "b.h", "b.h"]⟩, after) :=
    ⟨_, Prod.ext (Outcome.toOption_eq_some.mp value) rfl⟩
  obtain ⟨success, -, -, listed, -⟩ := dispatch_dependencies ran
  have isShaderc : success.backend = Shaderc.backend (some "glslc") := by
    have member : success.backend ∈ success.before ++ success.backend :: success.behind :=
      List.mem_append_cons_self
    rw [← success.stands] at member
    simp only [second, List.mem_cons, List.not_mem_nil, or_false] at member
    refine member.resolve_left fun isFirst => ?_
    have compiled := success.compiled
    rw [isFirst] at compiled
    cases compiled
  obtain ⟨listing, -, dependencies, -⟩ := listed _ isShaderc
  exact ⟨after, ran, _, listing, (List.cons.inj dependencies).2⟩

end Dispatch

end ShaderBuild
