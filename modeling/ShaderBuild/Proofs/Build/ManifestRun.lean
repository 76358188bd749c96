import Mathlib.Data.List.Nodup
import ShaderBuild.Proofs.Artifact.Writing
import ShaderBuild.Proofs.Manifest.Validated

/-! # Building a manifest

A build writes the files of its shaders one after another. None of them is lost and none is mixed up
with another one, and a build that stops half way has written the files of the shaders before and
nothing of the others.
-/

namespace ShaderBuild

namespace Artifact

theorem enterAll_of_nodup {written more : Written} (distinct : ((written ++ more).map (·.1)).Nodup) :
    enterAll written more = written ++ more := by
  induction more generalizing written with
  | nil => exact (List.append_nil _).symm
  | cons entry more ih =>
      -- An entry would take the place of another one only if its name were there already.
      have fresh : (written.any fun old => old.1 == entry.1) = false := by
        rw [List.map_append, List.map_cons] at distinct
        have absent := (List.nodup_middle.mp distinct)
        rw [List.nodup_cons, ← List.map_append, List.map_append] at absent
        rw [Bool.eq_false_iff]
        intro taken
        obtain ⟨old, member, same⟩ := List.any_eq_true.mp taken
        refine absent.1 (List.mem_append_left _ ?_)
        exact List.mem_map.mpr ⟨old, member, eq_of_beq same⟩
      have entered : enter written entry.1 entry.2 = written ++ [entry] := by
        rw [enter, fresh]
        rfl
      have rest := @ih (written ++ [entry]) (by simpa using distinct)
      rw [enterAll, List.foldl_cons, entered]
      simpa [enterAll] using rest

theorem enterAll_enterAll (written more others : Written) :
    enterAll (enterAll written more) others = enterAll written (more ++ others) :=
  (List.foldl_append ..).symm

end Artifact

namespace Build

open Artifact FileTree

variable {σ : Type} {build : Build σ} {outDir : Path} {total position : Nat}
  {start session after : Session σ}

/-! ## Runs -/

/-- The files of a shader, by name. -/
def filesOf (build : Build σ) (outDir : Path) (shader : Shader) : Written :=
  entries outDir shader.name (build.formatOf shader)

/-- A session in which a shader is announced. -/
def announced (session : Session σ) (position total : Nat) (shader : Shader) : Session σ :=
  { session with log := session.log ++ [.step (position + 1 : Nat) total shader.name] }

def begun (build : Build σ) (outDir : Path) (session : Session σ) : Session σ :=
  { session with log := session.log ++ [.header "Build" s!"{build.manifest.shaders.length} shaders"] ++
    [.path outDir.toString "output"] }

theorem run_eq (target : build.target? = some outDir) :
    build.run.run.run session =
      (build.runFrom outDir build.manifest.shaders.length 0 [] build.manifest.shaders).run.run
        (build.begun outDir session) := by
  rw [run, target]
  rfl

/-- Shaders that were compiled and written one after another, each with what was made of it. -/
inductive Built (build : Build σ) (outDir : Path) (total : Nat) :
    Nat → Session σ → List (Shader × Feedback) → Session σ → Prop where
  | none {position : Nat} {session : Session σ} : Built build outDir total position session [] session
  | next {position : Nat} {session compiled written after : Session σ} {shader feedback files rest}
      (compiles : (build.compileShader shader).run.run (announced session position total shader) =
        (.ok feedback, compiled))
      (writes : (write outDir shader.name feedback (build.formatOf shader) none none).run.run compiled =
        (.ok files, written))
      (others : Built build outDir total (position + 1) written rest after) :
      Built build outDir total position session ((shader, feedback) :: rest) after

theorem run_runFrom_cons {written : Written} {shader : Shader} {shaders : List Shader} :
    (build.runFrom outDir total position written (shader :: shaders)).run.run session =
      (build.compileShader shader >>= fun feedback =>
        write outDir shader.name feedback (build.formatOf shader) none none >>= fun files =>
          build.runFrom outDir total (position + 1) (enterAll written files) shaders).run.run
        (announced session position total shader) := rfl

/-- A run goes on from where the shaders before have left it. -/
theorem run_runFrom_of_built {mid : Session σ} {done : List (Shader × Feedback)}
    (built : Built build outDir total position session done mid)
    (named : ∀ item ∈ done, isIdentifier item.1.name = true) (written : Written)
    (shaders : List Shader) :
    (build.runFrom outDir total position written (done.map (·.1) ++ shaders)).run.run session =
      (build.runFrom outDir total (position + done.length)
        (enterAll written (done.flatMap fun item => build.filesOf outDir item.1)) shaders).run.run mid := by
  -- By induction on what was built, with whatever files are in the table before.
  induction built generalizing written with
  | none => rfl
  | @next position session compiled stored after shader feedback files rest compiles writes _ ih =>
      obtain ⟨first, others⟩ := List.forall_mem_cons.mp named
      obtain ⟨rfl, _⟩ := write_spec first writes
      rw [List.map_cons, List.cons_append, run_runFrom_cons, Outcome.run_bind, compiles]
      dsimp only
      rw [Outcome.run_bind, writes]
      dsimp only
      rw [ih others, enterAll_enterAll, List.length_cons, List.flatMap_cons, filesOf,
        Nat.add_right_comm, Nat.add_assoc position]

theorem exists_built_of_run {written all : Written} {shaders : List Shader}
    (ran : (build.runFrom outDir total position written shaders).run.run session = (.ok all, after)) :
    ∃ done : List (Shader × Feedback), done.map (·.1) = shaders ∧
      Built build outDir total position session done after := by
  induction shaders generalizing position written session with
  | nil =>
      cases ran
      exact ⟨[], rfl, .none⟩
  | cons shader shaders ih =>
      rw [run_runFrom_cons] at ran
      obtain ⟨feedback, compiled, compiles, ran⟩ := Action.run_bind_eq_ok.mp ran
      obtain ⟨files, stored, writes, ran⟩ := Action.run_bind_eq_ok.mp ran
      obtain ⟨done, rfl, others⟩ := ih ran
      exact ⟨(shader, feedback) :: done, rfl, .next compiles writes others⟩

/-! ## What a run leaves -/

/-- What shaders that were built have left: all their files, and nothing else. -/
structure Leaves (build : Build σ) (outDir : Path) (start session : Session σ)
    (done : List (Shader × Feedback)) (after : Session σ) : Prop where
  world : start.SameWorld after
  touches : Touches ((done.flatMap fun item => build.filesOf outDir item.1).map
    fun entry => entry.2.toString) session.tree after.tree
  holds : ∀ item ∈ done, Holds outDir item.1.name (build.formatOf item.1) item.2 after.tree

theorem files_apart {one other : Shader} (isOne : isIdentifier one.name = true)
    (isOther : isIdentifier other.name = true) (differ : one.name ≠ other.name) {tree : FileTree} :
    ∀ first ∈ build.filesOf outDir one, ∀ second ∈ build.filesOf outDir other, ∀ place,
      tree.locate first.2.toString = .ok place → tree.locate second.2.toString ≠ .ok place := by
  intro first inOne second inOther place leads
  obtain ⟨file, isFile, rfl⟩ := List.mem_map.mp inOne
  obtain ⟨another, isAnother, rfl⟩ := List.mem_map.mp inOther
  have isEntry {shader : Shader} (named : isIdentifier shader.name = true) :
      ∀ file ∈ [fileName shader.name (build.formatOf shader),
          depfileName shader.name (build.formatOf shader)],
        IsEntry file := by
    simp only [List.forall_mem_cons]
    exact ⟨isEntry_fileName named _, isEntry_depfileName named _,
      fun _ none => absurd none List.not_mem_nil⟩
  exact entry_leads_elsewhere (isEntry isOne file isFile) (isEntry isOther another isAnother)
    (entries_apart isOne isOther differ file isFile another isAnother) leads

theorem Built.leaves {done : List (Shader × Feedback)}
    (built : Built build outDir total position session done after)
    (tidy : ∀ backend ∈ build.compiler.backends, ∀ request, (backend.compile request).Tidy start)
    (named : ∀ item ∈ done, isIdentifier item.1.name = true)
    (distinct : (done.map (·.1.name)).Nodup) (same : start.SameWorld session)
    (rooted : session.tree.Rooted) : Leaves build outDir start session done after := by
  induction built with
  | none => exact ⟨same, .refl _, fun _ none => absurd none List.not_mem_nil⟩
  | @next position session compiled stored after shader feedback files rest compiles writes _ ih =>
      obtain ⟨first, others⟩ := List.forall_mem_cons.mp named
      obtain ⟨fresh, distinct⟩ := List.nodup_cons.mp distinct
      have kept := compileShader_tidy tidy shader (announced session position total shader)
        same.moved rooted
      rw [compiles] at kept
      have compiling : Touches [] session.tree compiled.tree :=
        .of_same (fun rooted => rooted.of_same kept.2) kept.2
      obtain ⟨_, world, writing, holds⟩ := write_spec first writes
      have later := ih others distinct (kept.1.trans world) (writing.rooted (compiling.rooted rooted))
      refine ⟨later.world, ?_, List.forall_mem_cons.mpr ⟨?_, later.holds⟩⟩
      · have whole := (compiling.trans writing).trans later.touches
        simpa [filesOf] using whole
      -- Later shaders have other names, so their files stand elsewhere.
      · refine holds.of_touches later.touches fun file isFile path member place leads => ?_
        obtain ⟨entry, inRest, rfl⟩ := List.mem_map.mp member
        obtain ⟨item, isItem, inItem⟩ := List.mem_flatMap.mp inRest
        have differ : shader.name ≠ item.1.name := fun meet =>
          fresh (List.mem_map.mpr ⟨item, isItem, meet.symm⟩)
        exact files_apart first (others item isItem) differ (file, outDir.entry file)
          (List.mem_map_of_mem isFile) entry inItem place leads

/-! ## The files of a manifest -/

theorem nodup_files (build : Build σ) (outDir : Path) {shaders : List Shader}
    (named : ∀ shader ∈ shaders, isIdentifier shader.name = true)
    (distinct : (shaders.map (·.name)).Nodup) :
    ((shaders.flatMap (build.filesOf outDir)).map (·.1)).Nodup := by
  have names (shader : Shader) : (build.filesOf outDir shader).map (·.1) =
      [fileName shader.name (build.formatOf shader),
        depfileName shader.name (build.formatOf shader)] := rfl
  rw [List.map_flatMap, List.nodup_flatMap]
  refine ⟨fun shader _ => ?_, ?_⟩
  · rw [names]
    exact List.nodup_cons.mpr ⟨by simpa using fileName_ne_depfileName _ _, List.nodup_singleton _⟩
  · refine (List.pairwise_map.mp distinct).imp_of_mem fun {one other} isOne isOther differ => ?_
    intro file inOne inOther
    exact entries_apart (named one isOne) (named other isOther) differ file inOne file inOther rfl

theorem paths_of_files (shaders : List Shader) :
    (shaders.flatMap (build.filesOf outDir)).map (·.2) =
      ((shaders.flatMap (build.filesOf outDir)).map (·.1)).map outDir.entry := by
  rw [List.map_map]
  refine List.map_congr_left fun entry member => ?_
  obtain ⟨shader, _, inShader⟩ := List.mem_flatMap.mp member
  obtain ⟨file, _, rfl⟩ := List.mem_map.mp inShader
  rfl

theorem length_files (shaders : List Shader) :
    (shaders.flatMap (build.filesOf outDir)).length = 2 * shaders.length := by
  induction shaders with
  | nil => rfl
  | cons shader shaders ih =>
      rw [List.flatMap_cons, List.length_append, ih, List.length_cons]
      simp only [filesOf, entries, List.length_map, List.length_cons, List.length_nil]
      omega

section Tidy

variable (tidy : ∀ backend ∈ build.compiler.backends, ∀ request, (backend.compile request).Tidy start)
  (same : start.SameWorld session) (rooted : session.tree.Rooted)

include tidy same rooted

theorem run_runFrom_ok {shaders : List Shader} {written : Written}
    (named : ∀ shader ∈ shaders, isIdentifier shader.name = true)
    (distinct : (shaders.map (·.name)).Nodup)
    (ran : (build.runFrom outDir total 0 [] shaders).run.run session = (.ok written, after)) :
    ∃ done : List (Shader × Feedback), done.map (·.1) = shaders ∧
      Built build outDir total 0 session done after ∧
      written = shaders.flatMap (build.filesOf outDir) ∧
      ∀ item ∈ done, Holds outDir item.1.name (build.formatOf item.1) item.2 after.tree := by
  obtain ⟨done, rfl, built⟩ := exists_built_of_run ran
  have isNamed : ∀ item ∈ done, isIdentifier item.1.name = true := List.forall_mem_map.mp named
  have files := nodup_files build outDir named distinct
  have passed := run_runFrom_of_built built isNamed [] []
  rw [List.append_nil, ran] at passed
  rw [List.map_map] at distinct
  refine ⟨done, rfl, built, ?_, (built.leaves tidy isNamed distinct same rooted).holds⟩
  rw [List.flatMap_map] at files ⊢
  rw [enterAll_of_nodup (by simpa using files), List.nil_append] at passed
  cases passed
  rfl

theorem run_runFrom_fails {done : List (Shader × Feedback)} {shader : Shader} {others : List Shader}
    {fault : Fault} {before stopped : Session σ}
    (named : ∀ one ∈ done.map (·.1) ++ shader :: others, isIdentifier one.name = true)
    (distinct : ((done.map (·.1) ++ shader :: others).map (·.name)).Nodup)
    (built : Built build outDir total 0 session done before)
    (fails : (build.compileShader shader).run.run (announced before done.length total shader) =
      (.error fault, stopped)) :
    (build.runFrom outDir total 0 [] (done.map (·.1) ++ shader :: others)).run.run session =
        (.error fault, stopped) ∧
      (∀ item ∈ done, Holds outDir item.1.name (build.formatOf item.1) item.2 stopped.tree) ∧
      ∀ other ∈ shader :: others, ∀ entry ∈ build.filesOf outDir other, ∀ place,
        stopped.tree.locate entry.2.toString = .ok place → ∀ content executable,
          (stopped.tree.node? place = some (.file content executable) ↔
            session.tree.node? place = some (.file content executable)) := by
  obtain ⟨doneNamed, restNamed⟩ := List.forall_mem_append.mp named
  have isNamed : ∀ item ∈ done, isIdentifier item.1.name = true := List.forall_mem_map.mp doneNamed
  rw [List.map_append, List.nodup_append, List.map_map] at distinct
  obtain ⟨differ, _, apart⟩ := distinct
  have leaves := built.leaves tidy isNamed differ same rooted
  have world := leaves.world
  have kept := compileShader_tidy tidy shader (announced before done.length total shader)
    world.moved (leaves.touches.rooted rooted)
  rw [fails] at kept
  have compiling : Touches [] before.tree stopped.tree :=
    .of_same (fun rooted => rooted.of_same kept.2) kept.2
  refine ⟨?_, fun item member => ?_, fun other isOther entry inOther place leads content executable => ?_⟩
  · rw [run_runFrom_of_built built isNamed, run_runFrom_cons, Outcome.run_bind, Nat.zero_add, fails]
  · exact (leaves.holds item member).of_touches compiling fun _ _ _ none => absurd none List.not_mem_nil
  -- The shaders before have no file at this place, and the one that fails has written none.
  · refine (leaves.touches.trans compiling).file place content executable fun path member => ?_
    rw [List.append_nil] at member
    obtain ⟨earlier, inDone, rfl⟩ := List.mem_map.mp member
    obtain ⟨item, isItem, inItem⟩ := List.mem_flatMap.mp inDone
    have distinct : other.name ≠ item.1.name :=
      (apart _ (List.mem_map_of_mem isItem) _ (List.mem_map_of_mem isOther)).symm
    exact files_apart (restNamed other isOther) (isNamed item isItem) distinct entry inOther earlier
      inItem place leads

end Tidy

/-- A build that ends well gives the artifact and the depfile of every shader in the order of the
    manifest, under names and paths of their own, and in the end each holds what the shader's own
    feedback makes. A build that cannot compile a shader ends with the fault of that shader: the files of
    the shaders before stand and hold what their own feedback makes, and at the places of the other
    shaders' files stands what stood there before. -/
theorem run_keeps_files_apart {payload : Value} {build : Build σ} {session : Session σ}
    (passes : Manifest.check payload = .ok build.manifest)
    (tidy : ∀ backend ∈ build.compiler.backends, ∀ request, (backend.compile request).Tidy session)
    (rooted : session.tree.Rooted) :
    (∀ written after, build.run.run.run session = (.ok written, after) →
      ∃ outDir done, build.target? = some outDir ∧ done.map (·.1) = build.manifest.shaders ∧
        Built build outDir build.manifest.shaders.length 0 (build.begun outDir session) done after ∧
        written = build.manifest.shaders.flatMap (build.filesOf outDir) ∧
        written.length = 2 * build.manifest.shaders.length ∧
        (written.map (·.1)).Nodup ∧ (written.map (·.2)).Nodup ∧
        ∀ item ∈ done, Holds outDir item.1.name (build.formatOf item.1) item.2 after.tree) ∧
    (∀ outDir done shader others fault before stopped, build.target? = some outDir →
      build.manifest.shaders = done.map (·.1) ++ shader :: others →
      Built build outDir build.manifest.shaders.length 0 (build.begun outDir session) done before →
      (build.compileShader shader).run.run
        (announced before done.length build.manifest.shaders.length shader) = (.error fault, stopped) →
      build.run.run.run session = (.error fault, stopped) ∧
      (∀ item ∈ done, Holds outDir item.1.name (build.formatOf item.1) item.2 stopped.tree) ∧
      ∀ other ∈ shader :: others, ∀ entry ∈ build.filesOf outDir other, ∀ place,
        stopped.tree.locate entry.2.toString = .ok place → ∀ content executable,
          (stopped.tree.node? place = some (.file content executable) ↔
            session.tree.node? place = some (.file content executable))) := by
  obtain ⟨_, named, distinct, _⟩ := Manifest.validated_of_check passes
  have start (outDir : Path) : session.SameWorld (build.begun outDir session) := ⟨rfl, rfl, rfl⟩
  have run (outDir : Path) (target : build.target? = some outDir) :
      build.run.run.run session =
        (build.runFrom outDir build.manifest.shaders.length 0 [] build.manifest.shaders).run.run
          (build.begun outDir session) := by
    rw [Build.run, target]
    rfl
  constructor
  · intro written after ran
    cases target : build.target? with
    | none =>
        rw [Build.run, target] at ran
        cases ran
    | some outDir =>
        rw [run outDir target] at ran
        obtain ⟨done, shaders, built, rfl, holds⟩ :=
          run_runFrom_ok tidy (start outDir) rooted named distinct ran
        have files := nodup_files build outDir named distinct
        refine ⟨outDir, done, rfl, shaders, built, rfl, length_files _, files, ?_, holds⟩
        rw [paths_of_files]
        exact files.map outDir.entry_injective
  · intro outDir done shader others fault before stopped target divides built fails
    rw [run outDir target]
    rw [divides] at named distinct
    have stops := run_runFrom_fails tidy (start outDir) rooted named distinct built fails
    rwa [← divides] at stops

/-- A backend that gives the length of a source, and refuses an empty one. -/
def measuring : Backend Unit :=
  ⟨"measuring", [.glsl], fun request =>
    if request.source = "" then Action.refuse (.backend "measuring" "empty")
    else return [request.source.length]⟩

theorem measuring_tidy (start : Session Unit) (request : Request) :
    (measuring.compile request).Tidy start := by
  show (ite _ _ _ : Action Unit (List Int)).Tidy start
  split
  · exact .throw _
  · exact .pure _

def bare : Session Unit where
  tree := .empty
  environment := []
  launcher := fun _ _ _ => .cannotStart (.missing "tool")
  scratch := "scratch"
  calls := []
  log := []
  dependencies := []
  extra := ()

def pairPayload (second : String) : Value :=
  .map [(.str "version", .int 1), (.str "shaders", .list [
    .map [(.str "name", .str "a"), (.str "inline", .str "x"), (.str "format", .str "c")],
    .map [(.str "name", .str "b"), (.str "inline", .str second)]])]

def pair (second : String) : Build Unit where
  manifest := ⟨1, {}, [⟨"a", none, some "x", .text "", some .header⟩,
    ⟨"b", none, some second, .text "", none⟩]⟩
  compiler := ⟨.directory (Path.ofString "proj"), [measuring]⟩
  outDir? := some (Path.ofString "out/gen")

def headerText : String :=
  "/* Generated by shaderbake. Do not edit.\n *\n * Dependencies:\n */\n" ++
  "#ifndef SHADERBAKE_A_H\n#define SHADERBAKE_A_H\n\n#include <stddef.h>\n#include <stdint.h>\n\n" ++
  "static const uint32_t a[] = \x7b\n    0x00000001,\n\x7d;\nstatic const size_t a_len = 1;\n\n" ++
  "#endif /* SHADERBAKE_A_H */\n"

/-- Two shaders that can be compiled, and two of which the second cannot. The header of the first is there
    then, and it is the text of its one word. -/
theorem pair_kept_apart :
    (∃ written after, (pair "y").run.run.run bare = (.ok written, after) ∧
      written.map (·.1) = ["a.h", "a.h.d", "b.py", "b.py.d"] ∧ (written.map (·.2)).Nodup) ∧
    ∃ stopped, (pair "").run.run.run bare =
        (.error (.refused (.backend "measuring" "empty") []), stopped) ∧
      Holds (Path.ofString "out/gen") "a" .header ⟨[1], []⟩ stopped.tree ∧
      stopped.tree.read "out/gen/a.h" = .ok (Text.Utf8.encode headerText) := by
  have tidy (second : String) : ∀ backend ∈ (pair second).compiler.backends, ∀ request,
      (backend.compile request).Tidy bare := by
    intro backend member request
    rw [List.mem_singleton.mp member]
    exact measuring_tidy bare request
  obtain ⟨written, after, ran⟩ : ∃ written after, (pair "y").run.run.run bare = (.ok written, after) :=
    ⟨_, _, rfl⟩
  have passes : Manifest.check (pairPayload "y") = .ok (pair "y").manifest := rfl
  have emptyPasses : Manifest.check (pairPayload "") = .ok (pair "").manifest := rfl
  have first := run_keeps_files_apart passes (tidy "y") rooted_empty
  have second := run_keeps_files_apart emptyPasses (tidy "") rooted_empty
  obtain ⟨outDir, _, target, _, _, all, _, _, paths, _⟩ := first.1 written after ran
  cases target
  obtain ⟨stops, holds, _⟩ := second.2 _ [(_, _)] _ [] _ _ _ rfl rfl (.next rfl rfl .none) rfl
  have kept := holds _ List.mem_cons_self
  obtain ⟨_, _ | _, stands⟩ := kept.artifact
  have text : String.ofList (renderHeader "a" ⟨[1], []⟩) = headerText := by decide +kernel
  exact ⟨⟨written, after, ran, by rw [all]; rfl, paths⟩, _, stops, kept, text ▸ stands⟩

end Build

end ShaderBuild
