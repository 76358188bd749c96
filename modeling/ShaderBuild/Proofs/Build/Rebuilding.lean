import ShaderBuild.Proofs.Build.ManifestRun
import ShaderBuild.Proofs.Build.Recompiling

/-! # Building again

A build that runs again on the tree that it has left makes the same artifacts, if its backends read
through the include search only and no path that a compilation has looked at shows something else by now.
Without the latter it need not: the artifacts of a build lie in the tree that is searched next time.
-/

namespace ShaderBuild

open Artifact FileTree

variable {σ : Type} {start session again after : Session σ}

/-! ## Writing again -/

namespace Artifact

variable {dir : Path} {name : String} {format : Format} {feedback : Feedback} {written : Written}

theorem Holds.of_samePlaces {tree grown : FileTree} (holds : Holds dir name format feedback tree)
    (same : SamePlaces tree grown) : Holds dir name format feedback grown := by
  obtain ⟨bytes, made, stands⟩ := holds.artifact
  exact ⟨⟨bytes, made, (same.sameAt _).read.trans stands⟩, (same.sameAt _).read.trans holds.depfile⟩

/-- Once a shader's files are written their directory is there. -/
theorem isDirectory_of_write (named : isIdentifier name = true)
    (ran : (write dir name feedback format none none).run.run session = (.ok written, after)) :
    after.tree.isDirectory dir.toString = true := by
  rw [write_eq named] at ran
  obtain ⟨_, _, first, ran⟩ := Action.run_bind_eq_ok.mp ran
  obtain ⟨_, _, second, ran⟩ := Action.run_bind_eq_ok.mp ran
  obtain ⟨_, _, rendered, ran⟩ := Action.run_bind_eq_ok.mp ran
  rw [Action.run_ofExcept] at rendered
  obtain ⟨_, rfl⟩ := Prod.mk.inj rendered
  obtain ⟨_, _, artifact, ran⟩ := Action.run_bind_eq_ok.mp ran
  obtain ⟨_, _, rule, ran⟩ := Action.run_bind_eq_ok.mp ran
  cases ran
  have later := ((touches_makeParent second).2.trans (touches_writeFile artifact).2.1).trans
    (touches_writeFile rule).2.1
  refine isDirectory_keeps ?_ later.keeps
  obtain ⟨made, rfl⟩ := Action.run_changeTree_eq_ok.mp first
  rw [Path.parent_entry] at made ⊢
  exact isDirectory_of_makeDirectories (Prod.ext rfl made)

theorem run_makeParent_again {file : String} (there : session.tree.isDirectory dir.toString = true) :
    (makeParent (dir.entry file)).run.run session = (.ok (), session) := by
  rw [makeParent, Action.run_changeTree, Path.parent_entry, makeDirectories_of_isDirectory there]
  rfl

theorem run_writeFile_again {path : String} {content : Bytes}
    (stands : session.tree.read path = .ok content) :
    ∃ after, (Action.writeFile path content).run.run session = (.ok (), after) ∧
      session.SameWorld after ∧ SamePlaces session.tree after.tree := by
  obtain ⟨grown, written, same⟩ := write_of_read stands
  exact ⟨_, Action.run_writeFile_eq_ok.mpr ⟨grown, written, rfl⟩, ⟨rfl, rfl, rfl⟩, same⟩

/-- Files that hold what a feedback makes already are left as they are. -/
theorem write_again (named : isIdentifier name = true)
    (holds : Holds dir name format feedback session.tree)
    (there : session.tree.isDirectory dir.toString = true) :
    ∃ after, (write dir name feedback format none none).run.run session =
        (.ok (entries dir name format), after) ∧
      session.SameWorld after ∧ SamePlaces session.tree after.tree := by
  obtain ⟨bytes, made, stands⟩ := holds.artifact
  obtain ⟨between, artifact, world, same⟩ := run_writeFile_again stands
  obtain ⟨last, rule, moreWorld, moreSame⟩ := run_writeFile_again (holds.of_samePlaces same).depfile
  refine ⟨last, ?_, world.trans moreWorld, same.trans moreSame⟩
  have rendered : (Action.ofExcept (content name feedback format)).run.run session =
      (.ok bytes, session) := by rw [content_eq_ok_iff.mpr made, Action.run_ofExcept]
  rw [write_eq named, writeAt]
  refine Action.run_bind_eq_ok.mpr ⟨_, _, run_makeParent_again there, ?_⟩
  refine Action.run_bind_eq_ok.mpr ⟨_, _, run_makeParent_again there, ?_⟩
  refine Action.run_bind_eq_ok.mpr ⟨_, _, rendered, ?_⟩
  refine Action.run_bind_eq_ok.mpr ⟨_, _, artifact, Action.run_bind_eq_ok.mpr ⟨_, _, rule, ?_⟩⟩
  rw [Path.name_entry, Path.name_entry, enter]
  simp [fileName_ne_depfileName, entries]
  rfl

end Artifact

/-! ## Building again -/

namespace Build

variable {build : Build σ} {reading : Backend σ → Request → Reading} {outDir : Path}
  {total position : Nat} {done : List (Shader × Feedback)} {final : FileTree}

/-- A tree that shows what some shaders have looked at as they have seen it when they were compiled. -/
def UndisturbedFrom (build : Build σ) (reading : Backend σ → Request → Reading) (outDir : Path)
    (total position : Nat) (session : Session σ) (shaders : List Shader) (final : FileTree) : Prop :=
  ∀ before shader behind ready, shaders = before.map Prod.fst ++ shader :: behind →
    Built build outDir total position session before ready →
    ∀ path ∈ build.looks reading shader (announced ready (position + before.length) total shader),
      SameAt path ready.tree final

/-- A tree that shows what the compilations of a build have looked at as they have seen it. -/
def Undisturbed (build : Build σ) (reading : Backend σ → Request → Reading) (session : Session σ)
    (final : FileTree) : Prop :=
  ∀ outDir, build.target? = some outDir →
    build.UndisturbedFrom reading outDir build.manifest.shaders.length 0 (build.begun outDir session)
      build.manifest.shaders final

section Steps

variable {shader : Shader} {feedback : Feedback} {files : Written} {compiled stored : Session σ}
  (tidy : ∀ backend ∈ build.compiler.backends, ∀ request, (backend.compile request).Tidy start)

include tidy

theorem like_of_built (named : isIdentifier shader.name = true) (like : start.Like session)
    (compiles : (build.compileShader shader).run.run (announced session position total shader) =
      (.ok feedback, compiled))
    (writes : (write outDir shader.name feedback (build.formatOf shader) none none).run.run compiled =
      (.ok files, stored)) : start.Like stored := by
  have kept := compileShader_tidy tidy shader (announced session position total shader)
    like.world.moved like.rooted
  rw [compiles] at kept
  obtain ⟨_, world, writing, _⟩ := write_spec named writes
  exact ⟨kept.1.trans world, writing.rooted (like.rooted.of_same kept.2)⟩

theorem Built.isDirectory (built : Built build outDir total position session done after)
    (named : ∀ item ∈ done, isIdentifier item.1.name = true)
    (distinct : (done.map (·.1.name)).Nodup) (like : start.Like session) (some : done ≠ []) :
    after.tree.isDirectory outDir.toString = true := by
  cases built with
  | none => exact absurd rfl some
  | next compiles writes others =>
      obtain ⟨first, rest⟩ := List.forall_mem_cons.mp named
      have stored := like_of_built tidy first like compiles writes
      have later := others.leaves tidy rest (List.nodup_cons.mp distinct).2 stored.world stored.rooted
      exact isDirectory_keeps (isDirectory_of_write first writes) later.touches.keeps

end Steps

/-- What was built is built again where all that was looked at is as it was seen. -/
theorem Built.repeats (built : Built build outDir total position session done after)
    (reads : ∀ backend ∈ build.compiler.backends, backend.ReadsBy start (reading backend))
    (named : ∀ item ∈ done, isIdentifier item.1.name = true)
    (undisturbed : build.UndisturbedFrom reading outDir total position session (done.map (·.1)) final)
    (holds : ∀ item ∈ done, Holds outDir item.1.name (build.formatOf item.1) item.2 final)
    (there : done ≠ [] → final.isDirectory outDir.toString = true)
    (like : start.Like session) (likeAgain : start.Like again) (same : SamePlaces final again.tree) :
    ∃ last, Built build outDir total position again done last ∧ SamePlaces final last.tree := by
  have tidy : ∀ backend ∈ build.compiler.backends, ∀ request, (backend.compile request).Tidy start :=
    fun backend member => (reads backend member).tidy
  -- By induction on what the first run has built, from wherever the second one has come to.
  induction built generalizing again with
  | none => exact ⟨again, .none, same⟩
  | @next position session compiled stored after shader feedback files rest compiles writes _ ih =>
      obtain ⟨first, others⟩ := List.forall_mem_cons.mp named
      obtain ⟨firstHolds, othersHold⟩ := List.forall_mem_cons.mp holds
      have ready : start.Like (announced session position total shader) :=
        ⟨like.world.moved, like.rooted⟩
      have readyAgain : start.Like (announced again position total shader) :=
        ⟨likeAgain.world.moved,
          likeAgain.rooted⟩
      have looked := undisturbed [] shader (rest.map (·.1)) session rfl .none
      obtain ⟨compiledAgain, compilesAgain⟩ := compileShader_again reads ready readyAgain
        (fun path member => (looked path member).trans (same.sameAt path)) compiles
      have keptAgain := compileShader_tidy tidy shader _ readyAgain.world readyAgain.rooted
      rw [compilesAgain] at keptAgain
      have seen : SamePlaces final compiledAgain.tree := same.trans keptAgain.2
      obtain ⟨storedAgain, writesAgain, world, unchanged⟩ := write_again first
        (firstHolds.of_samePlaces seen)
        (isDirectory_keeps (there nofun) fun place => (seen place).trans)
      have moved : start.Like stored := like_of_built tidy first like compiles writes
      have movedAgain : start.Like storedAgain :=
        readyAgain.of_samePlaces (keptAgain.1.trans world) (SamePlaces.trans keptAgain.2 unchanged)
      have later : build.UndisturbedFrom reading outDir total (position + 1) stored (rest.map (·.1))
          final := by
        intro before other behind reached divides builtBefore
        have whole := undisturbed ((shader, feedback) :: before) other behind reached
          (congrArg (shader :: ·) divides) (.next compiles writes builtBefore)
        rwa [List.length_cons, Nat.add_comm before.length, ← Nat.add_assoc] at whole
      obtain ⟨last, builtAgain, lastSame⟩ := ih others later othersHold (fun _ => there nofun) moved
        movedAgain (seen.trans unchanged)
      exact ⟨last, .next compilesAgain writesAgain builtAgain, lastSame⟩

/-- A build that has ended well and that runs again on what it has left ends well again, with the same
    artifacts, and leaves everything as it is: if the backends do nothing but read through the include
    search, and what the compilations have looked at shows the same in the end as when they saw it. -/
theorem run_again_changes_nothing {payload : Value} {written : Written}
    (passes : Manifest.check payload = .ok build.manifest)
    (reads : ∀ backend ∈ build.compiler.backends, backend.ReadsBy session (reading backend))
    (rooted : session.tree.Rooted) (ran : build.run.run.run session = (.ok written, after))
    (undisturbed : build.Undisturbed reading session after.tree) :
    session.SameWorld after ∧
      ∀ again, session.SameWorld again → again.tree = after.tree →
        ∃ last, build.run.run.run again = (.ok written, last) ∧ SamePlaces after.tree last.tree := by
  obtain ⟨_, named, distinct, _⟩ := Manifest.validated_of_check passes
  have tidy : ∀ backend ∈ build.compiler.backends, ∀ request, (backend.compile request).Tidy session :=
    fun backend member => (reads backend member).tidy
  cases target : build.target? with
  | none =>
      rw [run, target] at ran
      cases ran
  | some outDir =>
      rw [run_eq target] at ran
      obtain ⟨done, divides, built⟩ := exists_built_of_run ran
      have looked := undisturbed outDir target
      have runs (session : Session σ) : build.run.run.run session =
          (build.runFrom outDir build.manifest.shaders.length 0 [] build.manifest.shaders).run.run
            (build.begun outDir session) := run_eq target
      generalize build.manifest.shaders.length = total at ran built looked runs
      rw [← divides] at named distinct looked ran runs
      have isNamed : ∀ item ∈ done, isIdentifier item.1.name = true := List.forall_mem_map.mp named
      rw [List.map_map] at distinct
      have begun : session.Like (build.begun outDir session) := ⟨⟨rfl, rfl, rfl⟩, rooted⟩
      have leaves := built.leaves tidy isNamed distinct begun.world rooted
      refine ⟨leaves.world, fun again world tree => ?_⟩
      have same : SamePlaces after.tree (build.begun outDir again).tree := fun place =>
        congrArg (·.node? place) tree
      have likeAgain : session.Like (build.begun outDir again) :=
        ⟨world.moved,
          (leaves.touches.rooted rooted).of_same same⟩
      obtain ⟨last, builtAgain, lastSame⟩ := built.repeats reads isNamed looked leaves.holds
        (built.isDirectory tidy isNamed distinct begun) begun likeAgain same
      refine ⟨last, ?_, lastSame⟩
      -- Both runs go through the same shaders, and enter the same files.
      have passed := run_runFrom_of_built built isNamed [] []
      have passedAgain := run_runFrom_of_built builtAgain isNamed [] []
      rw [List.append_nil] at passed passedAgain
      rw [runs, passedAgain]
      rw [passed] at ran
      cases ran
      rfl

/-- A reading that asks for a file, and needs no more of it than that it is there. -/
def probe (name : String) : Reading :=
  .ask ⟨⟨name, .standard⟩, none⟩ fun
    | .ok _ => .stop (.ok [1])
    | .error fault => .stop (.error fault)

def probing (name : String) : Backend Unit :=
  ⟨"probing", [.glsl], fun request => (probe name).action request.searchPath⟩

theorem probing_readsBy (start : Session Unit) (name : String) :
    (probing name).ReadsBy start fun _ => probe name where
  result _ _ _ := rfl
  dependencies _ _ _ := rfl
  tidy request session same _ := by
    show start.SameWorld (((probe name).action request.searchPath).run.run session).2 ∧ _
    rw [probing, Reading.run_action]
    exact ⟨same.moved, fun _ => rfl⟩

/-- A header in a directory below the root. -/
def shelf : Session Unit :=
  let proj := Location.here.down "proj"
  let lib := proj.down "lib"
  { bare with
    tree := ((FileTree.empty.put proj .directory).put lib .directory).put (lib.down "b.h") (.file [] false) }

theorem rooted_shelf : shelf.tree.Rooted := by
  refine ((rooted_empty.put ?_ rfl fun _ => rfl).put ?_ rfl fun _ => rfl).put ?_ rfl nofun
  all_goals exact List.cons_ne_nil _ _

def shelvedPayload : Value :=
  .map [(.str "version", .int 1), (.str "shaders", .list [
    .map [(.str "name", .str "b"), (.str "inline", .str "#include <b.h>"),
      (.str "directives", .str "I \"lib\""), (.str "format", .str "c")]])]

/-- A build of a shader that takes in the header, and whose artifact has the name of the header. -/
def shelved (outDir : String) : Build Unit where
  manifest := ⟨1, {}, [⟨"b", none, some "#include <b.h>", .text "I \"lib\"", some .header⟩]⟩
  compiler := ⟨.directory (Path.ofString "proj"), [probing "b.h"]⟩
  outDir? := some (Path.ofString outDir)

/-- The run of a build in a session, as its result and the session that it leaves. -/
theorem run_of_result {build : Build Unit} {session : Session Unit} {written : Written}
    (result : (build.run.run.run session).1 = .ok written) :
    build.run.run.run session = (.ok written, (build.run.run.run session).2) :=
  Prod.ext result rfl

def firstRun (outDir : String) : Session Unit := ((shelved outDir).run.run.run shelf).2

def secondRun (outDir : String) : Session Unit := ((shelved outDir).run.run.run (firstRun outDir)).2

def shelvedFiles (outDir : String) : Written :=
  [("b.h", (Path.ofString outDir).entry "b.h"), ("b.h.d", (Path.ofString outDir).entry "b.h.d")]

/-- The artifacts stand apart from what is looked at: the second run changes nothing. -/
theorem shelved_apart :
    (shelved "out").run.run.run shelf = (.ok (shelvedFiles "out"), firstRun "out") ∧
      ∃ last, (shelved "out").run.run.run (firstRun "out") = (.ok (shelvedFiles "out"), last) ∧
        SamePlaces (firstRun "out").tree last.tree := by
  have passes : Manifest.check shelvedPayload = .ok (shelved "out").manifest := rfl
  have reads : ∀ backend ∈ (shelved "out").compiler.backends,
      backend.ReadsBy shelf fun _ => probe "b.h" := by
    intro backend member
    rw [List.mem_singleton.mp member]
    exact probing_readsBy shelf "b.h"
  have ran : (shelved "out").run.run.run shelf = (.ok (shelvedFiles "out"), firstRun "out") :=
    run_of_result (by decide +kernel)
  have undisturbed : (shelved "out").Undisturbed (fun _ _ => probe "b.h") shelf (firstRun "out").tree := by
    intro outDir target before shader behind ready divides built
    obtain rfl : Path.ofString "out" = outDir := Option.some.inj target
    obtain rfl : before = [] := by
      have sizes := congrArg List.length divides
      simp only [shelved, List.length_append, List.length_map, List.length_cons, List.length_nil] at sizes
      exact List.eq_nil_of_length_eq_zero (by omega)
    obtain ⟨rfl, -⟩ := List.cons.inj divides
    cases built
    have looked : (shelved "out").looks (fun _ _ => probe "b.h") ⟨"b", none, some "#include <b.h>",
        .text "I \"lib\"", some .header⟩ shelf = ["proj/b.h", "proj/lib/b.h"] := by decide +kernel
    show ∀ path ∈ (shelved "out").looks (fun _ _ => probe "b.h") ⟨"b", none, some "#include <b.h>",
      .text "I \"lib\"", some .header⟩ shelf, SameAt path shelf.tree (firstRun "out").tree
    rw [looked]
    simp only [List.forall_mem_cons]
    exact ⟨⟨by decide +kernel, by decide +kernel⟩, ⟨by decide +kernel, by decide +kernel⟩, nofun⟩
  obtain ⟨world, repeats⟩ := run_again_changes_nothing passes reads rooted_shelf ran undisturbed
  exact ⟨ran, repeats _ world rfl⟩

/-- The artifact stands where the header is looked for first: the second run takes in the artifact of
    the first one, and its own artifacts are others. -/
theorem shelved_shadowed :
    Manifest.check shelvedPayload = .ok (shelved "proj").manifest ∧ shelf.tree.Rooted ∧
      (∀ start, ∀ backend ∈ (shelved "proj").compiler.backends,
        backend.ReadsBy start fun _ => probe "b.h") ∧
      (shelved "proj").run.run.run shelf = (.ok (shelvedFiles "proj"), firstRun "proj") ∧
      (shelved "proj").run.run.run (firstRun "proj") = (.ok (shelvedFiles "proj"), secondRun "proj") ∧
      (secondRun "proj").tree.read "proj/b.h.d" ≠ (firstRun "proj").tree.read "proj/b.h.d" := by
  refine ⟨rfl, rooted_shelf, fun start backend member => ?_, ?_⟩
  · rw [List.mem_singleton.mp member]
    exact probing_readsBy start "b.h"
  · have evaluated :
        ((shelved "proj").run.run.run shelf).1 = .ok (shelvedFiles "proj") ∧
        ((shelved "proj").run.run.run (firstRun "proj")).1 = .ok (shelvedFiles "proj") ∧
        (secondRun "proj").tree.read "proj/b.h.d" ≠ (firstRun "proj").tree.read "proj/b.h.d" := by
      decide +kernel
    obtain ⟨ran, ranAgain, differ⟩ := evaluated
    refine ⟨?_, ?_, differ⟩
    · rw [firstRun]
      exact run_of_result ran
    · rw [secondRun]
      exact run_of_result ranAgain

end Build

end ShaderBuild
