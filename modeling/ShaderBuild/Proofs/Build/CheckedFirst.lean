import ShaderBuild.CommandLine.Run
import ShaderBuild.Proofs.Backend.Confinement
import ShaderBuild.Proofs.Build.DirectiveFaults
import ShaderBuild.Proofs.Build.Writes

/-! # Manifests that are checked before they are built

A check reads the directives of all shaders and compiles nothing. If it passes, no build of the manifest
stops for its directives, wherever and with whatever tools it runs. If it fails at some shader, every
build of the manifest stops there at the latest, and has written no file for that shader or a later one.
-/

namespace ShaderBuild

open Artifact FileTree

variable {σ τ : Type}

/-! ## Checks -/

open ShaderBuild.Action

namespace CommandLine

variable {manifest : Manifest} {showPlans : Bool}

/-- The check of all shaders of a list, one after another. -/
abbrev checkAll (manifest : Manifest) (showPlans : Bool) (shaders : List Shader) : Action τ Unit :=
  shaders.forM (checkShader manifest showPlans)

theorem run_checkShader_of_accepted {shader : Shader} {target : Target}
    (accepted : shader.verdict manifest.defaults = .ok target) (session : Session τ) :
    ∃ after, (checkShader manifest showPlans shader).run.run session = (.ok (), after) := by
  obtain ⟨config, parses, valid⟩ := Shader.verdict_eq_ok.mp accepted
  unfold checkShader Compiler.configOf
  dsimp only
  rw [run_ofRequest_bind (a := config) (by rw [parses]; rfl),
    run_ofRequest_bind (by rw [Config.plan, valid]; rfl)]
  cases showPlans <;> exact ⟨_, rfl⟩

theorem run_checkShader_of_refused {shader : Shader} {error : RequestError}
    (refused : shader.verdict manifest.defaults = .error error) (session : Session τ) :
    (checkShader manifest showPlans shader).run.run session = (.error error.fault, session) := by
  unfold checkShader Compiler.configOf
  dsimp only
  rcases Shader.verdict_eq_error.mp refused with ⟨e, fails, rfl⟩ | ⟨config, pair, parses, bad, rfl⟩
  · rw [fails]
    rfl
  · rw [run_ofRequest_bind (a := config) (by rw [parses]; rfl), Outcome.run_bind, run_ofRequest,
      Config.plan, bad]
    rfl

/-- A check passes all shaders, or the first one whose directives are wrong ends it. -/
theorem run_checkAll (manifest : Manifest) (showPlans : Bool) (shaders : List Shader)
    (checking : Session τ) :
    (∃ after, (checkAll manifest showPlans shaders).run.run checking = (.ok (), after) ∧
        ∀ shader ∈ shaders, ∃ target, shader.verdict manifest.defaults = .ok target) ∨
      ∃ before shader behind error reached, shaders = before ++ shader :: behind ∧
        (checkAll manifest showPlans before).run.run checking = (.ok (), reached) ∧
        shader.verdict manifest.defaults = .error error ∧
        (checkAll manifest showPlans shaders).run.run checking = (.error error.fault, reached) := by
  induction shaders generalizing checking with
  | nil => exact .inl ⟨checking, rfl, List.forall_mem_nil _⟩
  | cons shader shaders ih =>
      have loop (shaders : List Shader) :
          (checkAll manifest showPlans (shader :: shaders)).run.run checking =
            (checkShader manifest showPlans shader >>= fun _ =>
              checkAll manifest showPlans shaders).run.run checking := rfl
      cases verdict : shader.verdict manifest.defaults with
      | error error =>
          refine .inr ⟨[], shader, shaders, error, checking, rfl, rfl, verdict, ?_⟩
          rw [loop, Outcome.run_bind, run_checkShader_of_refused verdict]
      | ok target =>
          obtain ⟨between, passes⟩ : ∃ between,
              (checkShader manifest showPlans shader).run.run checking = (.ok (), between) :=
            run_checkShader_of_accepted verdict checking
          rcases ih between with ⟨after, others, accepted⟩ |
            ⟨before, found, behind, error, reached, rfl, passed, refused, fails⟩
          · refine .inl ⟨after, ?_, List.forall_mem_cons.mpr ⟨⟨target, verdict⟩, accepted⟩⟩
            rw [loop, Outcome.run_bind, passes]
            exact others
          · refine .inr ⟨shader :: before, found, behind, error, reached, rfl, ?_, refused, ?_⟩
            · rw [loop, Outcome.run_bind, passes]
              exact passed
            · rw [loop, Outcome.run_bind, passes]
              exact fails

end CommandLine

namespace Build

open CommandLine

variable {build : Build σ} {session : Session σ} {before behind : List Shader} {shader : Shader}

/-- A build that does not come past a shader. It does what a build of the shaders before does, and if
    that goes well the shader is announced and nothing more is done. -/
structure StopsBefore (build : Build σ) (session : Session σ) (before : List Shader) (shader : Shader)
    (behind : List Shader) (found : Fault) : Prop where
  fails : ∀ written after, build.run.run.run session ≠ (.ok written, after)
  /-- Without a root the build does not even begin. -/
  rootless : build.target? = none → build.run.run.run session = (.error .rootless, session)
  earlier : ∀ outDir fault stopped, build.target? = some outDir →
    (build.runFrom outDir build.manifest.shaders.length 0 [] before).run.run
      (build.begun outDir session) = (.error fault, stopped) →
    build.run.run.run session = (.error fault, stopped)
  reached : ∀ outDir written ready, build.target? = some outDir →
    (build.runFrom outDir build.manifest.shaders.length 0 [] before).run.run
      (build.begun outDir session) = (.ok written, ready) →
    ∃ fault, (fault.InDirectives → fault = found) ∧ build.run.run.run session =
      (.error fault, announced ready before.length build.manifest.shaders.length shader)
  /-- At the places of the files of this shader and of later ones stands what stood there before. -/
  files : session.launcher.StaysIn session.scratch → session.tree.Rooted →
    ∀ outDir, build.target? = some outDir →
      ∀ other ∈ shader :: behind, ∀ entry ∈ build.filesOf outDir other, ∀ place,
        (build.run.run.run session).2.tree.locate entry.2.toString = .ok place →
        ∀ content executable,
          ((build.run.run.run session).2.tree.node? place = some (.file content executable) ↔
            session.tree.node? place = some (.file content executable))

section Refused

variable {error : RequestError} (divides : build.manifest.shaders = before ++ shader :: behind)
  (refused : shader.verdict build.manifest.defaults = .error error)

include divides refused

/-- A run up to a shader whose directives are wrong. -/
theorem run_of_refused {outDir : Path} (target : build.target? = some outDir) (session : Session σ) :
    ∃ fault, (fault.InDirectives → fault = error.fault) ∧ build.run.run.run session =
      match (build.runFrom outDir build.manifest.shaders.length 0 [] before).run.run
          (build.begun outDir session) with
      | (.ok _, ready) =>
        (.error fault, announced ready before.length build.manifest.shaders.length shader)
      | (.error cause, stopped) => (.error cause, stopped) := by
  rw [run_eq target]
  generalize build.manifest.shaders.length = total
  rw [divides, runFrom_append, Outcome.run_bind]
  rcases (build.runFrom outDir total 0 [] before).run.run (build.begun outDir session) with
    ⟨cause | written, ready⟩
  · exact ⟨error.fault, fun _ => rfl, rfl⟩
  · obtain ⟨fault, fails, same⟩ :=
      run_compileShader_of_refused refused (announced ready (0 + before.length) total shader)
    refine ⟨fault, same, ?_⟩
    dsimp only
    rw [run_runFrom_cons, Outcome.run_bind, fails, Nat.zero_add]

/-- Whatever comes of a build, it has written for the shaders before only. -/
theorem touches_of_refused (named : ∀ one ∈ before, isIdentifier one.name = true)
    (tidy : ∀ backend ∈ build.compiler.backends, ∀ request, (backend.compile request).Tidy session)
    (rooted : session.tree.Rooted) {outDir : Path} (target : build.target? = some outDir) :
    Touches ((before.flatMap (build.filesOf outDir)).map fun entry => entry.2.toString)
      session.tree (build.run.run.run session).2.tree := by
  obtain ⟨fault, _, run⟩ := run_of_refused divides refused target session
  have writesTo : (build.runFrom outDir build.manifest.shaders.length 0 [] before).WritesTo session
      ((before.flatMap (build.filesOf outDir)).map fun entry => entry.2.toString) :=
    runFrom_writesTo tidy named []
  have writes := writesTo (build.begun outDir session) ⟨rfl, rfl, rfl⟩ rooted
  rw [run]
  revert writes
  rcases (build.runFrom outDir build.manifest.shaders.length 0 [] before).run.run
    (build.begun outDir session) with ⟨cause | written, ready⟩
  · exact fun writes => writes.2
  · exact fun writes => writes.2

theorem stopsBefore_of_refused (validated : Manifest.Validated build.manifest)
    (known : ∀ backend ∈ build.compiler.backends, ∃ tool executable?,
      backend = Backend.ofTool tool executable?) :
    StopsBefore build session before shader behind error.fault := by
  have named := validated.named
  have distinct := validated.distinct
  rw [divides] at named distinct
  obtain ⟨namedBefore, namedRest⟩ := List.forall_mem_append.mp named
  rw [List.map_append, List.nodup_append] at distinct
  have rootless (none : build.target? = none) : build.run.run.run session = (.error .rootless, session) := by
    rw [run, none]
    rfl
  refine { fails := ?_, rootless, earlier := ?_, reached := ?_, files := ?_ }
  · intro written after ran
    cases target : build.target? with
    | none =>
        rw [rootless target] at ran
        cases ran
    | some outDir =>
        obtain ⟨fault, _, run⟩ := run_of_refused divides refused target session
        rw [run] at ran
        split at ran <;> cases ran
  · intro outDir cause stopped target stops
    obtain ⟨fault, _, run⟩ := run_of_refused divides refused target session
    rw [run, stops]
  · intro outDir written ready target ran
    obtain ⟨fault, same, run⟩ := run_of_refused divides refused target session
    exact ⟨fault, same, by rw [run, ran]⟩
  · intro stays rooted outDir target other isOther entry inOther place leads content executable
    have tidy : ∀ backend ∈ build.compiler.backends, ∀ request, (backend.compile request).Tidy session := by
      intro backend member request
      obtain ⟨tool, executable?, rfl⟩ := known backend member
      exact Backend.ofTool_tidy stays tool executable? request
    have touches := touches_of_refused divides refused namedBefore tidy rooted target
    refine touches.file place content executable fun path member => ?_
    -- The shaders before have other names, so their files stand elsewhere.
    obtain ⟨earlier, inBefore, rfl⟩ := List.mem_map.mp member
    obtain ⟨one, isOne, inOne⟩ := List.mem_flatMap.mp inBefore
    have differ : other.name ≠ one.name :=
      (distinct.2.2 _ (List.mem_map_of_mem isOne) _ (List.mem_map_of_mem isOther)).symm
    exact files_apart (namedRest other isOther) (namedBefore one isOne) differ entry inOther earlier
      inOne place leads

end Refused

/-- If a check of a manifest passes, no build of the manifest stops for its directives, wherever and with
    whatever known tools it runs. If the check fails, it fails first at some shader, and every build of
    the manifest stops before that shader or at it. -/
theorem check_sound_for_build {payload : Value} {build : Build σ}
    (passes : Manifest.check payload = .ok build.manifest)
    (known : ∀ backend ∈ build.compiler.backends, ∃ tool executable?,
      backend = Backend.ofTool tool executable?)
    (showPlans : Bool) (checking : Session τ) (session : Session σ) :
    (∀ checked, (checkAll build.manifest showPlans build.manifest.shaders).run.run checking =
        (.ok (), checked) →
      ∀ fault after, build.run.run.run session = (.error fault, after) → ¬fault.InDirectives) ∧
    (∀ found checked, (checkAll build.manifest showPlans build.manifest.shaders).run.run checking =
        (.error found, checked) →
      ∃ before shader behind, build.manifest.shaders = before ++ shader :: behind ∧
        (checkAll build.manifest showPlans before).run.run checking = (.ok (), checked) ∧
        (checkShader build.manifest showPlans shader).run.run checked = (.error found, checked) ∧
        StopsBefore build session before shader behind found) := by
  have validated := Manifest.validated_of_check passes
  have take : ∀ backend ∈ build.compiler.backends, backend.TakesTargets := by
    intro backend member
    obtain ⟨tool, executable?, rfl⟩ := known backend member
    exact Backend.ofTool_takesTargets tool executable?
  rcases run_checkAll build.manifest showPlans build.manifest.shaders checking with ⟨after, passed, accepted⟩ |
      ⟨before, shader, behind, error, reached, divides, passed, refused, fails⟩
  · rw [passed]
    refine ⟨fun _ _ fault after ran => ?_, nofun⟩
    exact run_undirected take accepted session fault (congrArg Prod.fst ran)
  · rw [fails]
    refine ⟨nofun, ?_⟩
    rintro _ _ ⟨⟩
    exact ⟨before, shader, behind, divides, passed, run_checkShader_of_refused refused reached,
      stopsBefore_of_refused divides refused validated known⟩

/-- A manifest with two shaders, of which the second has these directives. -/
def twoPayload (second : String) : Value :=
  .map [(.str "version", .int 1), (.str "shaders", .list [
    .map [(.str "name", .str "a"), (.str "inline", .str "x")],
    .map [(.str "name", .str "b"), (.str "inline", .str "y"), (.str "directives", .str second)]])]

def two (second : String) : Build Unit where
  manifest := ⟨1, {}, [⟨"a", none, some "x", .text "", none⟩, ⟨"b", none, some "y", .text second, none⟩]⟩
  compiler := ⟨.directory (Path.ofString "proj"), [Backend.ofTool Shaderc.tool (some "glslc")]⟩
  outDir? := some (Path.ofString "out")

/-- A session whose scratch directory cannot be made. -/
def cramped : Session Unit := { bare with scratch := "" }

/-- With right directives a build stops for the scratch directory. With wrong ones it does so as well, at
    the shader before, and never comes to the wrong ones that the check has found. -/
theorem oops_found_first :
    (∃ fault after, (two "").run.run.run cramped = (.error fault, after) ∧ ¬fault.InDirectives) ∧
    ∃ before shader behind, (two "oops").manifest.shaders = before ++ shader :: behind ∧
      StopsBefore (two "oops") cramped before shader behind
        (RequestError.directives ⟨.unknownKeyword, "oops", 0, 0⟩).fault := by
  have known (second : String) : ∀ backend ∈ (two second).compiler.backends, ∃ tool executable?,
      backend = Backend.ofTool tool executable? := fun _ member => ⟨_, _, List.mem_singleton.mp member⟩
  have passes : Manifest.check (twoPayload "") = .ok (two "").manifest := rfl
  have alsoPasses : Manifest.check (twoPayload "oops") = .ok (two "oops").manifest := rfl
  have fails : (checkAll (two "oops").manifest false (two "oops").manifest.shaders).run.run cramped =
      (.error (RequestError.directives ⟨.unknownKeyword, "oops", 0, 0⟩).fault, cramped) := by
    let first : Shader := ⟨"a", none, some "x", .text "", none⟩
    let second : Shader := ⟨"b", none, some "y", .text "oops", none⟩
    have parses : Directive.parseConfig {} (.items ["oops"]) =
        .error ⟨.unknownKeyword, "oops", 0, 0⟩ := by decide +kernel
    have accepted : (checkShader (two "oops").manifest false first).run.run cramped = (.ok (), cramped) := rfl
    have refused : second.verdict (two "oops").manifest.defaults =
        .error (.directives ⟨.unknownKeyword, "oops", 0, 0⟩) :=
      Shader.verdict_eq_error.mpr (.inl ⟨_, parses, rfl⟩)
    show (checkShader (two "oops").manifest false first >>= fun _ =>
      checkShader (two "oops").manifest false second >>= fun _ => pure ()).run.run cramped = _
    rw [Outcome.run_bind, accepted]
    dsimp only
    rw [Outcome.run_bind, run_checkShader_of_refused refused]
  obtain ⟨before, shader, behind, divides, _, _, stops⟩ :=
    (check_sound_for_build alsoPasses (known "oops") false cramped cramped).2 _ _ fails
  refine ⟨⟨_, _, rfl, ?_⟩, before, shader, behind, divides, stops⟩
  exact (check_sound_for_build passes (known "") false cramped cramped).1 _ rfl _ _ rfl

end Build

end ShaderBuild
