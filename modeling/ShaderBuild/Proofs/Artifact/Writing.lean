import ShaderBuild.Artifact.Write
import ShaderBuild.Proofs.Artifact.Symbols
import ShaderBuild.Proofs.Build.Steps
import ShaderBuild.Proofs.Build.Tidiness
import ShaderBuild.Proofs.Files.Touching

/-! # What writing an artifact leaves

The artifact and the depfile of a shader stand in one directory under names of their own: no other
shader has a file of such a name, whatever the formats are. Once both are written they hold what the
shader's feedback makes, and all other files are as they were.
-/

namespace ShaderBuild.Artifact

open FileTree

variable {dir : Path} {name : String} {format : Format} {feedback : Feedback}

/-! ## Names -/

def fileName (name : String) (format : Format) : String := name ++ format.suffix

def depfileName (name : String) (format : Format) : String := fileName name format ++ ".d"

theorem not_mem_of_isIdentifier (named : isIdentifier name = true) {c : Char}
    (other : isNamePart c = false) (notEnd : c ≠ '\n') : c ∉ name.toList := by
  intro member
  rcases isIdentifier_iff.mp named with whole | ⟨text, divides, whole⟩
  · rw [isNamePart_of_mem whole c member] at other
    cases other
  · rw [divides, List.mem_append, List.mem_singleton] at member
    rcases member with inName | ends
    · rw [isNamePart_of_mem whole c inName] at other
      cases other
    · exact notEnd ends

theorem length_pos_of_isIdentifier (named : isIdentifier name = true) : 0 < name.toList.length := by
  rcases isIdentifier_iff.mp named with whole | ⟨text, divides, _⟩
  · cases inside : name.toList with
    | nil => rw [inside] at whole; cases whole
    | cons => simp
  · simp [divides]

theorem isEntry_fileName (named : isIdentifier name = true) (format : Format) :
    IsEntry (fileName name format) := by
  have some := length_pos_of_isIdentifier named
  refine .of_long ?_ ?_
  · rw [fileName, String.toList_append, List.mem_append]
    rintro (inName | inSuffix)
    · exact not_mem_of_isIdentifier named (by decide) (by decide) inName
    · cases format <;> revert inSuffix <;> decide
  · rw [fileName, String.toList_append, List.length_append]
    have two : 2 ≤ format.suffix.toList.length := by cases format <;> decide
    omega

theorem isEntry_depfileName (named : isIdentifier name = true) (format : Format) :
    IsEntry (depfileName name format) := by
  have isEntry := isEntry_fileName named format
  have some := length_pos_of_isIdentifier named
  refine .of_long ?_ ?_
  · rw [depfileName, String.toList_append, List.mem_append]
    exact not_or.mpr ⟨isEntry.noSeparator, by decide⟩
  · rw [depfileName, String.toList_append, List.length_append, fileName, String.toList_append,
      List.length_append]
    have two : 2 ≤ format.suffix.toList.length := by cases format <;> decide
    omega

theorem stem_fileName (named : isIdentifier name = true) (format : Format) (more : List Char) :
    ((fileName name format).toList ++ more).takeWhile (· ≠ '.') = name.toList := by
  have noDot : ∀ c ∈ name.toList, decide (c ≠ '.') = true := by
    intro c member
    rw [decide_eq_true_eq]
    rintro rfl
    exact not_mem_of_isIdentifier named (by decide) (by decide) member
  have dotted : ∃ rest, format.suffix.toList = '.' :: rest := by cases format <;> exact ⟨_, rfl⟩
  obtain ⟨rest, dotted⟩ := dotted
  rw [fileName, String.toList_append, dotted, List.append_assoc, List.cons_append]
  exact Text.takeWhile_upTo noDot (by decide) _

/-- Files of shaders with different names have different names. -/
theorem entries_apart {other : String} {otherFormat : Format} (named : isIdentifier name = true)
    (isOther : isIdentifier other = true) (differ : name ≠ other) :
    ∀ one ∈ [fileName name format, depfileName name format],
      ∀ another ∈ [fileName other otherFormat, depfileName other otherFormat], one ≠ another := by
  have stem {name : String} {format : Format} (named : isIdentifier name = true) :
      ∀ file ∈ [fileName name format, depfileName name format],
        file.toList.takeWhile (· ≠ '.') = name.toList := by
    simp only [List.forall_mem_cons]
    refine ⟨?_, ?_, fun _ none => absurd none List.not_mem_nil⟩
    · simpa using stem_fileName named format []
    · rw [depfileName, String.toList_append, stem_fileName named]
  intro one isOne another isAnother same
  refine differ (String.toList_injective ?_)
  rw [← stem named one isOne, same, stem isOther another isAnother]

theorem fileName_ne_depfileName (name : String) (format : Format) :
    fileName name format ≠ depfileName name format := by
  intro same
  have lengths := congrArg (fun text => text.toList.length) same
  simp [depfileName] at lengths

/-! ## Paths -/

theorem pathIn_eq (named : isIdentifier name = true) (format : Format) :
    pathIn dir name format = dir.entry (fileName name format) :=
  dir.below_entry (isEntry_fileName named format)

theorem depfileFor_entry {file : String} (some : file ≠ "") :
    depfileFor (dir.entry file) = .ok (dir.entry (file ++ ".d")) := by
  simp [depfileFor, some]

/-- Different entries of a directory lead to different places. -/
theorem entry_leads_elsewhere {tree : FileTree} {one other : String} (isOne : IsEntry one)
    (isOther : IsEntry other) (differ : one ≠ other) {place : Location}
    (leads : tree.locate (dir.entry one).toString = .ok place) :
    tree.locate (dir.entry other).toString ≠ .ok place := by
  rw [Path.toString_entry] at leads ⊢
  intro meets
  exact locate_append_ne dir.isFolder_folder isOne isOther differ leads meets rfl

/-! ## Writing -/

def entries (dir : Path) (name : String) (format : Format) : Written :=
  [fileName name format, depfileName name format].map fun file => (file, dir.entry file)

/-- The bytes of an artifact: a Python module or a C header as text, or the words themselves, each of
    which has to fit into four bytes then. -/
inductive IsArtifact (name : String) (feedback : Feedback) : Format → Bytes → Prop where
  | python : IsArtifact name feedback .python
      (Text.Utf8.encode (String.ofList (renderPython name feedback)))
  | header : IsArtifact name feedback .header
      (Text.Utf8.encode (String.ofList (renderHeader name feedback)))
  | binary {bytes : Bytes} (encoded : Spirv.encode? feedback.words = some bytes) :
      IsArtifact name feedback .binary bytes

theorem content_eq_ok_iff {bytes : Bytes} :
    content name feedback format = .ok bytes ↔ IsArtifact name feedback format bytes := by
  cases format with
  | python => exact ⟨fun | rfl => .python, fun | .python => rfl⟩
  | header => exact ⟨fun | rfl => .header, fun | .header => rfl⟩
  | binary =>
      unfold content
      dsimp only
      constructor
      · intro made
        split at made
        · next encoded =>
            cases made
            exact .binary encoded
        · cases made
      · rintro (_ | _ | encoded)
        rw [encoded]

/-- The two files of a shader hold what its feedback makes. -/
structure Holds (dir : Path) (name : String) (format : Format) (feedback : Feedback)
    (tree : FileTree) : Prop where
  artifact : ∃ bytes, IsArtifact name feedback format bytes ∧
    tree.read (dir.entry (fileName name format)).toString = .ok bytes
  depfile : tree.read (dir.entry (depfileName name format)).toString =
    .ok (Text.Utf8.encode (String.ofList
      (renderDepfile (dir.entry (fileName name format)) feedback.dependencies)))

theorem Holds.of_touches {tree grown : FileTree} {paths : List String}
    (holds : Holds dir name format feedback tree) (touches : Touches paths tree grown)
    (apart : ∀ file ∈ [fileName name format, depfileName name format], ∀ other ∈ paths, ∀ place,
      grown.locate (dir.entry file).toString = .ok place → grown.locate other ≠ .ok place) :
    Holds dir name format feedback grown := by
  simp only [List.forall_mem_cons] at apart
  obtain ⟨artifactApart, depfileApart, _⟩ := apart
  obtain ⟨bytes, made, stands⟩ := holds.artifact
  exact ⟨⟨bytes, made, touches.read stands artifactApart⟩, touches.read holds.depfile depfileApart⟩

theorem touches_makeParent {σ : Type} {session after : Session σ} {path : Path}
    (made : (makeParent path).run.run session = (.ok (), after)) :
    session.SameWorld after ∧ Touches [] session.tree after.tree := by
  obtain ⟨_, rfl⟩ := Action.run_changeTree_eq_ok.mp made
  exact ⟨⟨rfl, rfl, rfl⟩, .of_grows (grows_makeDirectories session.tree path.parent)⟩

theorem touches_writeFile {σ : Type} {session after : Session σ} {path : String} {content : Bytes}
    (written : (Action.writeFile path content).run.run session = (.ok (), after)) :
    session.SameWorld after ∧ Touches [path] session.tree after.tree ∧
      after.tree.read path = .ok content := by
  obtain ⟨grown, grows, rfl⟩ := Action.run_writeFile_eq_ok.mp written
  obtain ⟨place, located, wrote⟩ := write_eq_ok grows
  exact ⟨⟨rfl, rfl, rfl⟩, .of_wrote located wrote, wrote.read located⟩

/-- The paths of two files that are not the same one. -/
def Apart (tree : FileTree) (artifact depfile : Path) : Prop :=
  ∀ place, tree.locate artifact.toString = .ok place → tree.locate depfile.toString ≠ .ok place

/-- What writing to given paths leaves. -/
structure Leaves {σ : Type} (name : String) (feedback : Feedback) (format : Format)
    (artifact depfile : Path) (session after : Session σ) : Prop where
  world : session.SameWorld after
  touches : Touches [artifact.toString, depfile.toString] session.tree after.tree
  stored : Apart after.tree artifact depfile →
    ∃ bytes, IsArtifact name feedback format bytes ∧ after.tree.read artifact.toString = .ok bytes
  rule : after.tree.read depfile.toString =
    .ok (Text.Utf8.encode (String.ofList (renderDepfile artifact feedback.dependencies)))

theorem writeAt_leaves {σ : Type} {session after : Session σ} {artifact depfile : Path} {written : Written}
    (ran : (writeAt name feedback format artifact depfile).run.run session = (.ok written, after)) :
    written = enter [(artifact.name, artifact)] depfile.name depfile ∧
      Leaves name feedback format artifact depfile session after := by
  -- One step after another: two directories, the content, the artifact and the depfile.
  obtain ⟨_, _, first, ran⟩ := Action.run_bind_eq_ok.mp ran
  obtain ⟨_, _, second, ran⟩ := Action.run_bind_eq_ok.mp ran
  obtain ⟨bytes, _, rendered, ran⟩ := Action.run_bind_eq_ok.mp ran
  rw [Action.run_ofExcept] at rendered
  obtain ⟨made, rfl⟩ := Prod.mk.inj rendered
  obtain ⟨_, _, stored, ran⟩ := Action.run_bind_eq_ok.mp ran
  obtain ⟨_, _, rule, ran⟩ := Action.run_bind_eq_ok.mp ran
  cases ran
  obtain ⟨firstWorld, firstTouches⟩ := touches_makeParent first
  obtain ⟨secondWorld, secondTouches⟩ := touches_makeParent second
  obtain ⟨storedWorld, storedTouches, storedRead⟩ := touches_writeFile stored
  obtain ⟨ruleWorld, ruleTouches, ruleRead⟩ := touches_writeFile rule
  refine ⟨rfl, ((firstWorld.trans secondWorld).trans storedWorld).trans ruleWorld,
    ((firstTouches.trans secondTouches).trans storedTouches).trans ruleTouches, fun apart => ?_, ruleRead⟩
  -- The depfile is written last, to a place of its own.
  refine ⟨bytes, content_eq_ok_iff.mp made, ruleTouches.read storedRead fun other isRule place leads => ?_⟩
  rw [List.mem_singleton.mp isRule]
  exact apart place leads

theorem write_eq {σ : Type} (named : isIdentifier name = true) :
    (write dir name feedback format none none : Action σ Written) =
      writeAt name feedback format (dir.entry (fileName name format))
        (dir.entry (depfileName name format)) := by
  show (Action.ofExcept (depfileFor (pathIn dir name format)) >>= fun depfile =>
    writeAt name feedback format (pathIn dir name format) depfile) = _
  rw [pathIn_eq named, depfileFor_entry (isEntry_fileName named format).notEmpty, Action.ofExcept,
    pure_bind]
  rfl

/-- A shader's files are written under its name, hold what its feedback makes, and are the only ones
    that are written. -/
theorem write_spec {σ : Type} {session after : Session σ} {written : Written}
    (named : isIdentifier name = true)
    (ran : (write dir name feedback format none none).run.run session = (.ok written, after)) :
    written = entries dir name format ∧ session.SameWorld after ∧
      Touches ((entries dir name format).map fun entry => entry.2.toString) session.tree after.tree ∧
      Holds dir name format feedback after.tree := by
  rw [write_eq named] at ran
  obtain ⟨entered, leaves⟩ := writeAt_leaves ran
  refine ⟨?_, leaves.world, leaves.touches, leaves.stored fun place leads => ?_, leaves.rule⟩
  · rw [entered, Path.name_entry, Path.name_entry, enter]
    simp [fileName_ne_depfileName, entries]
  · exact entry_leads_elsewhere (isEntry_fileName named format) (isEntry_depfileName named format)
      (fileName_ne_depfileName name format) leads

end ShaderBuild.Artifact
