import ShaderBuild.Proofs.Build.CheckedFirst
import ShaderBuild.Proofs.Build.Foreseen

/-! # How commands end

A command is done, or it fails and the log says why, or it ends in a way that nobody has foreseen. What
goes wrong while shaders are compiled and written is always reported. What is not are a few faults of the
manifest file, and a build root that was given and taken back.
-/

namespace ShaderBuild

open Outcome

namespace Manifest

/-! ## Faults of the manifest file -/

/-- A fault in the text of a manifest, before anything is made of what it says. -/
def LoadFault.InText (fault : LoadFault) : Prop :=
  (∃ cause, fault = .json cause) ∨ ∃ cause, fault = .yaml cause

theorem not_inText_of_validate {value : Value} {fault : LoadFault} (fails : validate value = .error fault) :
    ¬ fault.InText := by
  obtain ⟨problems, -, rfl⟩ := mapError_eq_error.mp fails
  simp [LoadFault.InText]

theorem not_inText_of_substituteAll {vars : Variables} {value : Value} {fault : LoadFault}
    (fails : substituteAll vars value = .error fault) : ¬ fault.InText := by
  obtain ⟨cause, -, rfl⟩ := mapError_eq_error.mp fails
  simp [LoadFault.InText]

theorem not_inText_of_ofValue {value : Value} {fault : LoadFault} (fails : ofValue value = .error fault) :
    ¬ fault.InText := by
  unfold ofValue at fails
  split at fails
  · cases fails
    simp [LoadFault.InText]
  · obtain expanding | ⟨_, _, validating⟩ := bind_eq_error.mp fails
    · unfold expandVariables at expanding
      dsimp only at expanding
      split at expanding
      · cases expanding
      · cases expanding
      · exact not_inText_of_substituteAll expanding
      · cases expanding
        simp [LoadFault.InText]
    · exact not_inText_of_validate validating
  · cases fails
    simp [LoadFault.InText]

theorem not_inText_of_ofDocument {document : Yaml.Document} {fault : LoadFault}
    (fails : ofDocument document = .error fault) : ¬ fault.InText := by
  have validating : ∀ {document : Yaml.Document}, validateDocument document = .error fault →
      ¬ fault.InText := by
    intro document validating
    obtain ⟨problems, -, rfl⟩ := mapError_eq_error.mp validating
    simp [LoadFault.InText]
  unfold ofDocument at fails
  split at fails
  · exact not_inText_of_ofValue fails
  · exact not_inText_of_ofValue fails
  · split at fails
    · unfold ofEntries at fails
      dsimp only at fails
      split at fails
      · exact validating fails
      · exact validating fails
      · split at fails
        · obtain expanding | ⟨_, _, checking⟩ := bind_eq_error.mp fails
          · exact not_inText_of_substituteAll expanding
          · exact not_inText_of_validate checking
        · cases fails
          simp [LoadFault.InText]
    · cases fails
      simp [LoadFault.InText]

/-- The faults of a manifest that are not foreseen, by the suffix of its file. -/
inductive Unforeseen : String → LoadFault → Prop where
  /-- Objects and arrays are nested deeper than can be read. -/
  | nested : Unforeseen ".json" (.json .nested)
  /-- The text is not well formed, or some value in it cannot be made. -/
  | yaml {suffix : String} {cause : Yaml.Fault} (isYaml : suffix = ".yml" ∨ suffix = ".yaml")
      (listed : cause ∈ [.malformed, .unboundedPlace, .emptyNumber, .notMoment, .mappedMoment, .endless,
        .nested]) : Unforeseen suffix (.yaml cause)
  | truth {suffix text : String} (isYaml : suffix = ".yml" ∨ suffix = ".yaml") :
      Unforeseen suffix (.yaml (.truth text))
  /-- An escape names a code that does not even fit in a signed word. -/
  | codePoint {suffix : String} {code : Nat} (isYaml : suffix = ".yml" ∨ suffix = ".yaml")
      (oversized : 0x80000000 ≤ code) : Unforeseen suffix (.yaml (.codePoint code))
  /-- The variables cannot be listed, or what they stand for goes down too far. -/
  | variables {suffix : String} {cause : ExpansionFault}
      (known : suffix = ".json" ∨ suffix = ".yml" ∨ suffix = ".yaml")
      (listed : cause ∈ [.unlisted, .tooDeep]) : Unforeseen suffix (.expansion cause)

/-- The suffix decides how a text is read, so a fault tells what suffix there was. -/
structure LoadFault.Befits (suffix : String) (fault : LoadFault) : Prop where
  json : ∀ cause, fault = .json cause → suffix = ".json"
  yaml : ∀ cause, fault = .yaml cause → suffix = ".yml" ∨ suffix = ".yaml"
  expansion : ∀ cause, fault = .expansion cause → suffix = ".json" ∨ suffix = ".yml" ∨ suffix = ".yaml"

variable {readYaml : YamlReader}

theorem befits_of_ofText {suffix : String} {text : List Char} {fault : LoadFault}
    (fails : ofText readYaml suffix text = .error fault) : fault.Befits suffix := by
  unfold ofText at fails
  split at fails
  · next json =>
      obtain reading | ⟨_, _, making⟩ := bind_eq_error.mp fails
      · obtain ⟨_, -, rfl⟩ := mapError_eq_error.mp reading
        exact ⟨fun _ _ => json, nofun, nofun⟩
      · have said := not_inText_of_ofValue making
        exact ⟨fun _ _ => json, fun cause same => (said (.inr ⟨cause, same⟩)).elim, fun _ _ => .inl json⟩
  · split at fails
    · next yaml =>
        obtain reading | ⟨_, _, making⟩ := bind_eq_error.mp fails
        · obtain ⟨_, -, rfl⟩ := mapError_eq_error.mp reading
          exact ⟨nofun, fun _ _ => yaml, nofun⟩
        · have said := not_inText_of_ofDocument making
          exact ⟨fun cause same => (said (.inl ⟨cause, same⟩)).elim, fun _ _ => yaml, fun _ _ => .inr yaml⟩
    · cases fails
      exact ⟨nofun, nofun, nofun⟩

theorem befits_of_loadWith {tree : FileTree} {path : Path} {fault : LoadFault}
    (fails : loadWith readYaml tree path = .error fault) : fault.Befits (lowerSuffix path) := by
  obtain reading | ⟨text, _, making⟩ := bind_eq_error.mp fails
  · obtain opening | ⟨_, _, more⟩ := bind_eq_error.mp reading
    · obtain ⟨_, -, rfl⟩ := mapError_eq_error.mp opening
      exact ⟨nofun, nofun, nofun⟩
    · obtain decoding | ⟨_, _, done⟩ := bind_eq_error.mp more
      · obtain ⟨_, -, rfl⟩ := mapError_eq_error.mp decoding
        exact ⟨nofun, nofun, nofun⟩
      · cases done
  · exact befits_of_ofText making

end Manifest

namespace CommandLine

open Manifest (LoadFault Unforeseen YamlReader)

theorem isForeseen_eq_false {cause : Yaml.Fault} :
    Failure.isForeseen cause = false ↔
      cause ∈ [.malformed, .unboundedPlace, .emptyNumber, .notMoment, .mappedMoment, .endless, .nested] ∨
      (∃ text, cause = .truth text) ∨ ∃ code, cause = .codePoint code ∧ 0x80000000 ≤ code := by
  cases cause <;> simp [Failure.isForeseen, Yaml.isOversized]

variable {readYaml : YamlReader} (manual? : Option String)

/-- What a manifest is reported for, or not, is decided by its fault and its suffix. -/
theorem reportManifest_eq_unforeseen_iff {tree : FileTree} {path : Path} {fault : LoadFault}
    (fails : Manifest.loadWith readYaml tree path = .error fault) :
    Failure.reportManifest manual? fault = .unforeseen ↔ Unforeseen (lowerSuffix path) fault := by
  have befits := Manifest.befits_of_loadWith fails
  generalize lowerSuffix path = suffix at befits ⊢
  cases fault with
  | json cause =>
      obtain rfl := befits.json cause rfl
      cases cause with
      | nested => exact iff_of_true rfl .nested
      | misread | longInteger => exact iff_of_false nofun nofun
  | yaml cause =>
      have isYaml := befits.yaml cause rfl
      have reports : Failure.reportManifest manual? (.yaml cause) = .unforeseen ↔
          Failure.isForeseen cause = false := by
        simp [Failure.reportManifest]
      rw [reports, isForeseen_eq_false]
      constructor
      · rintro (listed | ⟨text, rfl⟩ | ⟨code, rfl, oversized⟩)
        · exact .yaml isYaml listed
        · exact .truth isYaml
        · exact .codePoint isYaml oversized
      · intro unforeseen
        cases unforeseen with
        | yaml _ listed => exact .inl listed
        | truth _ => exact .inr (.inl ⟨_, rfl⟩)
        | codePoint _ oversized => exact .inr (.inr ⟨_, rfl, oversized⟩)
  | expansion cause =>
      have known := befits.expansion cause rfl
      cases cause with
      | unlisted => exact iff_of_true rfl (.variables known (by simp))
      | tooDeep => exact iff_of_true rfl (.variables known (by simp))
      | «variable» => exact iff_of_false nofun fun | .variables _ listed => by simp at listed
      | unwritable => exact iff_of_false nofun fun | .variables _ listed => by simp at listed
  | access | encoding | suffix | empty | notMapping | variablesNotMapping | invalid =>
      exact iff_of_false nofun nofun

/-- The report on a fault of a build says nothing only if the fault is not foreseen. -/
theorem reportBuild_eq_unforeseen_iff {fault : Fault} :
    Failure.reportBuild fault = .unforeseen ↔ ¬ fault.Foreseen := by
  cases fault with
  | refused | access | encoding | nameless | sourceless =>
      refine iff_of_false nofun (not_not_intro ?_)
      constructor
  | unstorable | rootless | foreign => exact iff_of_true rfl nofun

/-! ## Commands as they run -/

variable {σ α : Type} {session : Session σ}

/-- What a command comes to, without what it leaves. -/
def Command.result (command : Command) (readYaml : YamlReader) (session : Session σ) :
    Except Failure Unit :=
  ((command.execute readYaml).run.run session).1

theorem run_ofAction (action : Action σ α) :
    (ofAction action).run.run session =
      ((action.run.run session).1.mapError .build, (action.run.run session).2) := rfl

theorem run_loadManifest (path : Path) :
    (loadManifest readYaml path).run.run session =
      ((Manifest.loadWith readYaml session.tree path).mapError .manifest, session) := by
  rw [loadManifest, run_get_bind]
  cases Manifest.loadWith readYaml session.tree path <;> rfl

theorem ending_runWith {libraries : Libraries} {words : List String} {command : Command}
    (read : Command.read words = .ok (some command)) :
    (runWith libraries words session).1 = match command.result libraries.readYaml session with
      | .ok () => .done
      | .error failure => (conclude libraries.manual? failure).2 := by
  unfold runWith Command.run Command.result
  rw [read]
  dsimp only
  rcases (command.execute libraries.readYaml).run.run session with ⟨_ | _, _⟩ <;> rfl

theorem conclude_cases (failure : Failure) :
    (failure.report manual? = .unforeseen ∧ (conclude manual? failure).2 = .unforeseen failure) ∨
      failure.report manual? ≠ .unforeseen ∧ (conclude manual? failure).2 = .failed := by
  unfold conclude
  cases failure.report manual? <;> simp

/-- The root that a build goes by: the one that is given, else the one that the environment names. -/
def BuildCommand.rootIn? (command : BuildCommand) (session : Session σ) : Option BuildRoot :=
  command.root?.or (BuildRoot.ofEnvironment? session.environment)

/-- The build that a command asks for, with the compilers that are installed. -/
def BuildCommand.builds (command : BuildCommand) (manifest : Manifest) (root : BuildRoot)
    (session : Session σ) : Build σ where
  manifest := manifest
  compiler := ⟨root, Backend.available session.tree session.environment⟩
  outDir? := command.outDir?
  format? := command.format?

theorem run_buildRoot (command : BuildCommand) :
    (buildRoot command.root?).run.run session =
      ((command.rootIn? session).elim (.error RequestError.missingRoot.fault) .ok, session) := by
  unfold buildRoot BuildCommand.rootIn?
  cases command.root? with
  | some root => rfl
  | none =>
      dsimp only
      rw [run_get_bind]
      cases BuildRoot.ofEnvironment? session.environment <;> rfl

theorem run_installedCompiler (root : BuildRoot) :
    (installedCompiler root).run.run session =
      (.ok ⟨root, Backend.available session.tree session.environment⟩, session) := rfl

theorem BuildCommand.result_of_unloaded {command : BuildCommand} {fault : LoadFault}
    (fails : Manifest.loadWith readYaml session.tree command.manifest = .error fault) :
    (Command.build command).result readYaml session = .error (.manifest fault) := by
  rw [Command.result, Command.execute, execute, run_bind, run_loadManifest, fails]
  rfl

theorem BuildCommand.result_of_loaded {command : BuildCommand} {manifest : Manifest}
    (loads : Manifest.loadWith readYaml session.tree command.manifest = .ok manifest) :
    (Command.build command).result readYaml session = match command.rootIn? session with
      | none => .error (.build RequestError.missingRoot.fault)
      | some root =>
        match ((command.builds manifest root session).run.run.run session).1 with
        | .ok _ => .ok ()
        | .error fault => .error (.build fault) := by
  rw [Command.result, Command.execute, execute, run_bind, run_loadManifest, loads]
  dsimp only [mapError_ok]
  rw [run_ofAction, run_bind, run_buildRoot]
  cases command.rootIn? session with
  | none => rfl
  | some root =>
      dsimp only [Option.elim_some]
      rw [run_bind, run_installedCompiler]
      dsimp only
      rw [run_bind, builds]
      rcases (Build.run _).run.run session with ⟨_ | _, _⟩ <;> rfl

theorem CheckCommand.result_of_unloaded {command : CheckCommand} {fault : LoadFault}
    (fails : Manifest.loadWith readYaml session.tree command.manifest = .error fault) :
    (Command.check command).result readYaml session = .error (.manifest fault) := by
  rw [Command.result, Command.execute, execute, run_bind, run_loadManifest, fails]
  rfl

theorem CheckCommand.result_of_loaded {command : CheckCommand} {manifest : Manifest}
    (loads : Manifest.loadWith readYaml session.tree command.manifest = .ok manifest) :
    (Command.check command).result readYaml session =
      ((checkAll manifest command.showPlans manifest.shaders).run.run session).1.mapError .build := by
  rw [Command.result, Command.execute, execute, run_bind, run_loadManifest, loads]
  dsimp only [mapError_ok]
  rw [run_ofAction, run_bind]
  unfold checkAll
  rcases (manifest.shaders.forM (checkShader manifest command.showPlans)).run.run session with
    ⟨_ | _, _⟩ <;> rfl

/-! ## How they end -/

/-- A command that ends in a way that is not foreseen: for its manifest, or because paths are looked up
    below a root that was taken back. -/
inductive Command.Escapes (readYaml : YamlReader) (session : Session σ) : Command → Prop where
  | build {command : BuildCommand} {fault : LoadFault}
      (fails : Manifest.loadWith readYaml session.tree command.manifest = .error fault)
      (unforeseen : Unforeseen (lowerSuffix command.manifest) fault) :
      Escapes readYaml session (.build command)
  | check {command : CheckCommand} {fault : LoadFault}
      (fails : Manifest.loadWith readYaml session.tree command.manifest = .error fault)
      (unforeseen : Unforeseen (lowerSuffix command.manifest) fault) :
      Escapes readYaml session (.check command)
  | rootless {command : BuildCommand} {manifest : Manifest}
      (loads : Manifest.loadWith readYaml session.tree command.manifest = .ok manifest)
      (void : command.root? = some .void)
      (lost : ((command.builds manifest .void session).run.run.run session).1 = .error .rootless) :
      Escapes readYaml session (.build command)

/-- A command that has done what it was asked for, shader by shader. -/
inductive Command.Completed (readYaml : YamlReader) (session : Session σ) : Command → Prop where
  | build {command : BuildCommand} {manifest : Manifest} {root : BuildRoot} {outDir : Path}
      {done : List (Shader × Feedback)} {after : Session σ}
      (loads : Manifest.loadWith readYaml session.tree command.manifest = .ok manifest)
      (rooted : command.rootIn? session = some root)
      (target : (command.builds manifest root session).target? = some outDir)
      (all : done.map (·.1) = manifest.shaders)
      (built : (command.builds manifest root session).Built outDir manifest.shaders.length 0
        ((command.builds manifest root session).begun outDir session) done after) :
      Completed readYaml session (.build command)
  | check {command : CheckCommand} {manifest : Manifest}
      (loads : Manifest.loadWith readYaml session.tree command.manifest = .ok manifest)
      (accepted : ∀ shader ∈ manifest.shaders, ∃ target, shader.verdict manifest.defaults = .ok target) :
      Completed readYaml session (.check command)

theorem rootIn?_eq_void {command : BuildCommand} :
    command.rootIn? session = some .void ↔ command.root? = some .void := by
  unfold BuildCommand.rootIn? BuildRoot.ofEnvironment?
  cases command.root? with
  | some root => simp
  | none =>
      dsimp only [Option.none_or]
      split
      · split <;> simp
      · simp

/-- A build reports its fault, but for a path that it cannot look up below its root. -/
theorem unforeseen_of_builds {command : BuildCommand} {manifest : Manifest} {root : BuildRoot}
    {fault : Fault}
    (fails : ((command.builds manifest root session).run.run.run session).1 = .error fault) :
    Failure.reportBuild fault = .unforeseen ↔ root = .void ∧ fault = .rootless := by
  have ends : (command.builds manifest root session).run.Ends (fun _ => True) (Fault.Under root) :=
    Build.run_ends (Backend.available_giveWords session.tree session.environment)
  have under := (ends session).2 fault fails
  rw [reportBuild_eq_unforeseen_iff]
  constructor
  · exact fun unforeseen => under.resolve_left unforeseen
  · rintro ⟨-, rfl⟩
    exact nofun

/-- The failure of a command that nothing reports. -/
def Command.Unreported (command : Command) (readYaml : YamlReader) (manual? : Option String)
    (session : Session σ) : Prop :=
  ∃ failure, command.result readYaml session = .error failure ∧ failure.report manual? = .unforeseen

theorem BuildCommand.unreported_iff (command : BuildCommand) :
    (Command.build command).Unreported readYaml manual? session ↔
      (Command.build command).Escapes readYaml session := by
  cases loads : Manifest.loadWith readYaml session.tree command.manifest with
  | error fault =>
      have reports := reportManifest_eq_unforeseen_iff manual? loads
      rw [Command.Unreported, result_of_unloaded loads]
      constructor
      · rintro ⟨_, ⟨⟩, unforeseen⟩
        exact .build loads (reports.mp unforeseen)
      · intro escapes
        refine ⟨_, rfl, reports.mpr ?_⟩
        cases escapes with
        | build fails unforeseen =>
            cases loads.symm.trans fails
            exact unforeseen
        | rootless other => cases loads.symm.trans other
  | ok manifest =>
      have same {other} (again : Manifest.loadWith readYaml session.tree command.manifest = .ok other) :
          other = manifest := Except.ok.inj (again.symm.trans loads)
      rw [Command.Unreported, result_of_loaded loads]
      constructor
      · rintro ⟨failure, fails, unforeseen⟩
        split at fails
        · cases fails
          cases unforeseen
        · next root rooted =>
            split at fails
            · cases fails
            · next fault stops =>
                cases fails
                obtain ⟨rfl, rfl⟩ := (unforeseen_of_builds stops).mp unforeseen
                exact .rootless loads (rootIn?_eq_void.mp rooted) stops
      · intro escapes
        cases escapes with
        | build fails => cases loads.symm.trans fails
        | rootless other void lost =>
            obtain rfl := same other
            rw [rootIn?_eq_void.mpr void]
            dsimp only
            rw [lost]
            exact ⟨_, rfl, rfl⟩

theorem CheckCommand.unreported_iff (command : CheckCommand) :
    (Command.check command).Unreported readYaml manual? session ↔
      (Command.check command).Escapes readYaml session := by
  cases loads : Manifest.loadWith readYaml session.tree command.manifest with
  | error fault =>
      have reports := reportManifest_eq_unforeseen_iff manual? loads
      rw [Command.Unreported, result_of_unloaded loads]
      constructor
      · rintro ⟨_, ⟨⟩, unforeseen⟩
        exact .check loads (reports.mp unforeseen)
      · rintro (_ | ⟨fails, unforeseen⟩ | _)
        cases loads.symm.trans fails
        exact ⟨_, rfl, reports.mpr unforeseen⟩
  | ok manifest =>
      refine iff_of_false ?_ ?_
      · rintro ⟨failure, fails, unforeseen⟩
        rw [result_of_loaded loads] at fails
        rcases run_checkAll manifest command.showPlans manifest.shaders session with
          ⟨_, passes, -⟩ | ⟨_, _, _, error, _, -, -, -, stops⟩
        · rw [passes] at fails
          cases fails
        · rw [stops] at fails
          cases fails
          cases unforeseen
      · rintro (_ | ⟨fails, _⟩ | _)
        cases loads.symm.trans fails

theorem BuildCommand.completed_of_result {command : BuildCommand}
    (done : (Command.build command).result readYaml session = .ok ()) :
    (Command.build command).Completed readYaml session := by
  cases loads : Manifest.loadWith readYaml session.tree command.manifest with
  | error fault =>
      rw [result_of_unloaded loads] at done
      cases done
  | ok manifest =>
      rw [result_of_loaded loads] at done
      split at done
      · cases done
      · next root rooted =>
          split at done
          · next written ran =>
              cases target : (command.builds manifest root session).target? with
              | none =>
                  rw [Build.run, target] at ran
                  cases ran
              | some outDir =>
                  rw [Build.run_eq target] at ran
                  obtain ⟨items, all, built⟩ := Build.exists_built_of_run (Prod.ext ran rfl)
                  exact .build loads rooted target all built
          · cases done

theorem CheckCommand.completed_of_result {command : CheckCommand}
    (done : (Command.check command).result readYaml session = .ok ()) :
    (Command.check command).Completed readYaml session := by
  cases loads : Manifest.loadWith readYaml session.tree command.manifest with
  | error fault =>
      rw [result_of_unloaded loads] at done
      cases done
  | ok manifest =>
      rw [result_of_loaded loads] at done
      rcases run_checkAll manifest command.showPlans manifest.shaders session with
        ⟨_, -, accepted⟩ | ⟨_, _, _, error, _, -, -, -, stops⟩
      · exact .check loads accepted
      · rw [stops] at done
        cases done

/-- A command that builds or checks a manifest ends with the status zero or one, whatever the manifest
    file holds, however YAML is read and whatever the tools do, and it is done or reports its failure
    unless it escapes. The status is zero only if every shader of the manifest was built or checked. -/
theorem run_returns_unless_escapes (libraries : Libraries) {words : List String} {command : Command}
    (read : Command.read words = .ok (some command)) (asked : ∀ other, command ≠ .compile other)
    (session : Session σ) :
    ((runWith libraries words session).1.status = 0 ∨ (runWith libraries words session).1.status = 1) ∧
      (((runWith libraries words session).1 = .done ∨ (runWith libraries words session).1 = .failed) ↔
        ¬ command.Escapes libraries.readYaml session) ∧
      ((runWith libraries words session).1.status = 0 →
        command.Completed libraries.readYaml session) := by
  obtain ⟨readYaml, manual?⟩ := libraries
  have unreported : command.Unreported readYaml manual? session ↔ command.Escapes readYaml session := by
    cases command with
    | build command => exact command.unreported_iff manual?
    | check command => exact command.unreported_iff manual?
    | compile command => exact (asked command rfl).elim
  have completed : command.result readYaml session = .ok () → command.Completed readYaml session := by
    cases command with
    | build command => exact BuildCommand.completed_of_result
    | check command => exact CheckCommand.completed_of_result
    | compile command => exact (asked command rfl).elim
  rw [ending_runWith read, ← unreported]
  cases result : command.result readYaml session with
  | ok => exact ⟨.inl rfl, by simp [Command.Unreported, result], fun _ => completed result⟩
  | error failure =>
      dsimp only
      rcases conclude_cases manual? failure with ⟨unforeseen, ends⟩ | ⟨reported, ends⟩ <;> rw [ends]
      · exact ⟨.inr rfl, by simp [Command.Unreported, result, unforeseen], nofun⟩
      · exact ⟨.inr rfl, by simp [Command.Unreported, result, reported], nofun⟩

/-- A session in whose working directory there is one file. -/
def holding (name text : String) : Session Unit :=
  { Build.bare with tree := ⟨[(⟨.above 0, [name]⟩, .file (Text.Utf8.encode text) false)]⟩ }

def oneShader : Session Unit :=
  holding "m.json" "\x7b\"version\": 1, \"shaders\": [\x7b\"name\": \"a\", \"inline\": \"x\"\x7d]\x7d"

theorem one_shader_checked :
    Command.read ["check", "m.json"] = .ok (some (.check ⟨Path.ofString "m.json", false⟩)) ∧
      (∀ other, Command.check ⟨Path.ofString "m.json", false⟩ ≠ .compile other) ∧
      (run ["check", "m.json"] oneShader).1.status = 0 ∧
      (Command.check ⟨Path.ofString "m.json", false⟩).Completed Yaml.read oneShader := by
  have read : Command.read ["check", "m.json"] =
      .ok (some (.check ⟨Path.ofString "m.json", false⟩)) := by rfl
  have status : (run ["check", "m.json"] oneShader).1.status = 0 := by decide +kernel
  exact ⟨read, nofun, status, (run_returns_unless_escapes {} read nofun oneShader).2.2 status⟩

/-- A file that is no YAML at all is not reported. -/
theorem broken_text_escapes :
    Command.read ["check", "m.yaml"] = .ok (some (.check ⟨Path.ofString "m.yaml", false⟩)) ∧
      (run ["check", "m.yaml"] (holding "m.yaml" "@")).1 =
        .unforeseen (.manifest (.yaml .malformed)) := by
  refine ⟨by rfl, ?_⟩
  with_unfolding_all rfl

end CommandLine

end ShaderBuild
