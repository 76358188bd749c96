import Mathlib.Data.List.Forall2
import ShaderBuild.Include.Resolver
import ShaderBuild.Proofs.Build.Recording
import ShaderBuild.Proofs.Build.Steps
import ShaderBuild.Proofs.Files.Touching

/-! # Taking in one file after another

Files are asked for one after another, and some of the calls fail. What is on the list of read files in
the end are the files of the others, in their order. A standard include is the one that the first
directory holds, whatever the directories behind it hold; a relative one stands next to the file that
asks for it.
-/

namespace ShaderBuild

open FileTree

variable {σ : Type} {tree : FileTree} {path name : String} {dirs : List Path}

/-! ## Paths that the system looks up -/

namespace FileTree

/-- A path that is short enough for the system to look it up, whether anything is there or not. -/
structure Acceptable (path : String) : Prop where
  fits : path.utf8ByteSize ≤ longestPath
  short : ∀ part ∈ components path.toList, part.utf8ByteSize ≤ longestName

theorem exists_long_of_walk {subject : String} {place : Location} {parts : List String}
    {fault : SystemFault} (stops : tree.walk subject place parts = .error fault)
    (tooLong : fault.code = 36) : ∃ part ∈ parts, longestName < part.utf8ByteSize := by
  fun_induction walk tree subject place parts with
  | case1 => cases stops
  | case2 => cases stops; cases tooLong
  | case3 => cases stops; cases tooLong
  | case4 _ _ _ _ _ ih | case5 _ _ _ _ ih | case7 _ _ _ _ _ _ _ ih =>
      obtain ⟨part, member, long⟩ := ih stops
      exact ⟨part, List.mem_cons_of_mem _ member, long⟩
  | case6 _ part _ _ _ _ long => exact ⟨part, List.mem_cons_self, long⟩

theorem code_ne_of_locate {fault : SystemFault} (acceptable : Acceptable path)
    (stops : tree.locate path = .error (.system fault)) : fault.code ≠ 36 := by
  intro tooLong
  unfold locate at stops
  split at stops
  · cases stops
  split at stops
  · cases stops
    cases tooLong
  split at stops
  · next long => exact Nat.not_lt.mpr acceptable.fits long
  dsimp only at stops
  split at stops
  · cases stops
  · next walked =>
      cases stops
      obtain ⟨part, member, long⟩ := exists_long_of_walk walked tooLong
      exact Nat.not_lt.mpr (acceptable.short part member) long

theorem isFile_of_findFile {found : Bool} (looked : tree.findFile path = .ok found) :
    tree.isFile path = found := by
  unfold findFile at looked
  unfold isFile at?
  split at looked
  · next located =>
      rw [located]
      dsimp only
      split at looked <;> cases looked <;> simp_all
  · next nul =>
      cases looked
      rw [nul]
  · next fault stopped =>
      rw [stopped]
      split at looked <;> cases looked
      rfl

theorem findFile_of_acceptable (acceptable : Acceptable path) :
    tree.findFile path = .ok (tree.isFile path) := by
  cases looked : tree.findFile path with
  | ok found => rw [isFile_of_findFile looked]
  | error fault =>
      unfold findFile at looked
      split at looked
      · split at looked <;> cases looked
      · cases looked
      · next stops => rw [if_neg (code_ne_of_locate acceptable stops)] at looked; cases looked

theorem findFile_of_isFile (isFile : tree.isFile path = true) : tree.findFile path = .ok true := by
  obtain ⟨content, stands⟩ := isFile_iff.mp isFile
  obtain ⟨place, executable, located, found⟩ := read_eq_ok_iff.mp stands
  simp [findFile, located, found]

end FileTree

/-- A session in which a list of read files starts, with a file or empty. -/
def Session.seeded (session : Session σ) (seed? : Option String) : Session σ :=
  { session with dependencies := seed?.toList }

/-- A session in which more files have been read. -/
def Session.reading (session : Session σ) (paths : List String) : Session σ :=
  { session with dependencies := session.dependencies ++ paths }

theorem Session.reading_nil (session : Session σ) : session.reading [] = session := by
  simp only [reading, List.append_nil]

theorem Session.reading_reading (session : Session σ) (paths more : List String) :
    (session.reading paths).reading more = session.reading (paths ++ more) := by
  simp only [reading, List.append_assoc]

/-! ## Single calls -/

namespace Include

/-- The text of a file, as it is taken in. -/
def HasText (tree : FileTree) (path content : String) : Prop :=
  ∃ bytes text, tree.read path = .ok bytes ∧ Text.Utf8.decode bytes = .ok text ∧
    content = String.ofList (Text.universalNewlines text)

theorem readLocated_eq_ok_iff {wanted : Include} {place : Path} {file : IncludedFile} :
    readLocated tree wanted place = .ok file ↔
      file.path = place.toString ∧ HasText tree place.toString file.content := by
  obtain ⟨path, content⟩ := file
  dsimp only [readLocated, HasText]
  cases tree.read place.toString with
  | error fault => cases fault <;> simp [fail]
  | ok bytes =>
      dsimp only
      cases decoded : Text.Utf8.decode bytes with
      | error => simp [fail, decoded]
      | ok text => simp [decoded, eq_comm]

section

-- How a path is looked up does not matter here, only what comes of it.
attribute [local irreducible] FileTree.findFile

theorem search_cons (tree : FileTree) (name : String) (dir : Path) (dirs : List Path) :
    search tree name (dir :: dirs) =
      match tree.findFile (dir.below name).toString with
      | .error fault => .error fault
      | .ok true => .ok (some (dir.below name))
      | .ok false => search tree name dirs := rfl

/-- The paths that a search looks at, up to the one that is taken. -/
def searched (tree : FileTree) (name : String) : List Path → List String
  | [] => []
  | dir :: dirs =>
    (dir.below name).toString ::
      match tree.findFile (dir.below name).toString with
      | .ok false => searched tree name dirs
      | _ => []

theorem searched_cons (tree : FileTree) (name : String) (dir : Path) (dirs : List Path) :
    searched tree name (dir :: dirs) = (dir.below name).toString ::
      match tree.findFile (dir.below name).toString with
      | .ok false => searched tree name dirs
      | _ => [] := rfl

end

/-- The first directory that holds a file is the one that is found. -/
theorem search_eq_some_iff {place : Path} :
    search tree name dirs = .ok (some place) ↔ ∃ before dir behind,
      dirs = before ++ dir :: behind ∧ place = dir.below name ∧
      (∀ other ∈ before, tree.findFile (other.below name).toString = .ok false) ∧
      tree.isFile (dir.below name).toString = true := by
  induction dirs with
  | nil =>
      refine iff_of_false nofun ?_
      rintro ⟨before, dir, behind, divides, _⟩
      exact List.append_ne_nil_of_right_ne_nil before (List.cons_ne_nil dir behind) divides.symm
  | cons first others ih =>
      rw [search_cons]
      cases looked : tree.findFile (first.below name).toString with
      | error fault =>
          refine iff_of_false nofun ?_
          rintro ⟨_ | ⟨_, _⟩, dir, behind, ⟨⟩, rfl, passed, holds⟩
          · exact absurd (looked.symm.trans (findFile_of_isFile holds)) nofun
          · exact absurd (looked.symm.trans (passed _ List.mem_cons_self)) nofun
      | ok found =>
          cases found with
          | true =>
              constructor
              · rintro ⟨⟩
                exact ⟨[], first, others, rfl, rfl, fun _ none => absurd none List.not_mem_nil,
                  isFile_of_findFile looked⟩
              · rintro ⟨_ | ⟨_, _⟩, dir, behind, ⟨⟩, rfl, passed, holds⟩
                · rfl
                · exact absurd (looked.symm.trans (passed _ List.mem_cons_self)) nofun
          | false =>
              dsimp only
              rw [ih]
              constructor
              · rintro ⟨before, dir, behind, rfl, rfl, passed, holds⟩
                exact ⟨first :: before, dir, behind, rfl, rfl,
                  List.forall_mem_cons.mpr ⟨looked, passed⟩, holds⟩
              · rintro ⟨_ | ⟨_, before⟩, dir, behind, ⟨⟩, rfl, passed, holds⟩
                · exact absurd (looked.symm.trans (findFile_of_isFile holds)) nofun
                · exact ⟨before, dir, behind, rfl, rfl, (List.forall_mem_cons.mp passed).2, holds⟩

theorem search_eq_none (missing : ∀ dir ∈ dirs, tree.findFile (dir.below name).toString = .ok false) :
    search tree name dirs = .ok none := by
  induction dirs with
  | nil => rfl
  | cons first others ih =>
      obtain ⟨here, elsewhere⟩ := List.forall_mem_cons.mp missing
      rw [search_cons, here]
      exact ih elsewhere

theorem find_beside (origin : String) :
    find tree dirs ⟨name, .relative⟩ (some origin) =
      readLocated tree ⟨name, .relative⟩ ((Path.ofString origin).parent.below name) := by
  simp only [find, locate, Include.besides, Outcome.ok_bind]

theorem find_standard (origin? : Option String) :
    find tree dirs ⟨name, .standard⟩ origin? =
      match search tree name dirs with
      | .ok (some place) => readLocated tree ⟨name, .standard⟩ place
      | .ok none => fail (notFound ⟨name, .standard⟩ dirs)
      | .error fault => .error (.access (.system fault)) := by
  simp only [find, locate]
  cases search tree name dirs with
  | error fault => rfl
  | ok found => cases found <;> rfl

/-- A call for a file. -/
structure Call where
  wanted : Include
  /-- The file that asks for it. -/
  origin? : Option String

/-- The path of a file below a directory. -/
def Call.candidate (call : Call) (dir : Path) : String := (dir.below call.wanted.name).toString

def Call.besides (call : Call) (origin : String) : String := call.candidate (Path.ofString origin).parent

/-- What a call is answered. -/
structure Answers (tree : FileTree) (dirs : List Path) (call : Call)
    (answer : Except Fault IncludedFile) : Prop where
  /-- A standard include is taken from the first directory that holds it. -/
  first : call.wanted.kind = .standard → ∀ file, answer = .ok file → ∃ before dir behind,
    dirs = before ++ dir :: behind ∧ (∀ other ∈ before, tree.isFile (call.candidate other) = false) ∧
    tree.isFile (call.candidate dir) = true ∧ file.path = call.candidate dir ∧
    HasText tree file.path file.content
  /-- The directories behind that one do not matter. -/
  taken : call.wanted.kind = .standard → ∀ before dir behind content, dirs = before ++ dir :: behind →
    (∀ other ∈ before, Acceptable (call.candidate other) ∧ tree.isFile (call.candidate other) = false) →
    HasText tree (call.candidate dir) content → answer = .ok ⟨call.candidate dir, content⟩
  besides : call.wanted.kind = .relative → ∀ file, answer = .ok file ↔
    ∃ origin, call.origin? = some origin ∧ file.path = call.besides origin ∧
      HasText tree file.path file.content
  missing : call.wanted.kind = .standard →
    (∀ dir ∈ dirs, Acceptable (call.candidate dir) ∧ tree.isFile (call.candidate dir) = false) →
    answer = .error (.refused (.inclusion ⟨call.wanted, .notFound (dirs.map Path.toString)⟩) [])
  adrift : call.wanted.kind = .relative → call.origin? = none →
    answer = .error (.refused (.inclusion ⟨call.wanted, .noDirectory⟩) [])

theorem find_answers (tree : FileTree) (dirs : List Path) (call : Call) :
    Answers tree dirs call (find tree dirs call.wanted call.origin?) := by
  obtain ⟨⟨name, kind⟩, origin?⟩ := call
  cases kind with
  | relative =>
      refine ⟨nofun, nofun, fun _ file => ?_, nofun, ?_⟩
      · cases origin? with
        | none => exact iff_of_false nofun (by rintro ⟨_, ⟨⟩, _⟩)
        | some origin =>
            rw [find_beside, readLocated_eq_ok_iff]
            constructor
            · rintro ⟨path, text⟩
              refine ⟨origin, rfl, path, ?_⟩
              rwa [path]
            · rintro ⟨_, ⟨⟩, path, text⟩
              rw [path] at text
              exact ⟨path, text⟩
      · rintro - rfl
        rfl
  | standard =>
      refine ⟨fun _ file ran => ?_, fun _ before dir behind content divides passed text => ?_, nofun,
        fun _ missing => ?_, nofun⟩
      · rw [find_standard] at ran
        cases searched : search tree name dirs with
        | error fault => rw [searched] at ran; cases ran
        | ok found =>
            cases found with
            | none => rw [searched] at ran; cases ran
            | some place =>
                rw [searched] at ran
                obtain ⟨before, dir, behind, divides, rfl, passed, holds⟩ :=
                  search_eq_some_iff.mp searched
                obtain ⟨path, text⟩ := readLocated_eq_ok_iff.mp ran
                refine ⟨before, dir, behind, divides,
                  fun other member => isFile_of_findFile (passed other member), holds, path, ?_⟩
                rwa [path]
      · obtain ⟨bytes, _, stands, _⟩ := id text
        have found : search tree name dirs = .ok (some (dir.below name)) :=
          search_eq_some_iff.mpr ⟨before, dir, behind, divides, rfl,
            fun other member => by
              obtain ⟨acceptable, absent⟩ := passed other member
              exact (findFile_of_acceptable acceptable).trans (congrArg Except.ok absent),
            isFile_iff.mpr ⟨bytes, stands⟩⟩
        rw [find_standard, found]
        exact readLocated_eq_ok_iff.mpr ⟨rfl, text⟩
      · rw [find_standard, search_eq_none fun dir member => ?_]
        · rfl
        · obtain ⟨acceptable, absent⟩ := missing dir member
          exact (findFile_of_acceptable acceptable).trans (congrArg Except.ok absent)

/-! ## Sequences of calls -/

/-- Ask for files one after another, whatever comes of each call. -/
def resolveAll (dirs : List Path) (calls : List Call) : Action σ (List (Except Fault IncludedFile)) :=
  calls.mapM fun call => Action.outcome (resolve dirs call.wanted call.origin?)

/-- The path of a file that was taken in. -/
def pathOf? (answer : Except Fault IncludedFile) : Option String := answer.toOption.map (·.path)

def taken (answers : List (Except Fault IncludedFile)) : List String := answers.filterMap pathOf?

theorem taken_cons (answer : Except Fault IncludedFile) (answers : List (Except Fault IncludedFile)) :
    taken (answer :: answers) = (pathOf? answer).toList ++ taken answers := by
  unfold taken
  cases found : pathOf? answer with
  | none => rw [List.filterMap_cons_none found]; rfl
  | some path => rw [List.filterMap_cons_some found]; rfl

/-- A call records the file that it takes in, and nothing if it fails. -/
theorem run_resolve (dirs : List Path) (call : Call) (session : Session σ) :
    (resolve dirs call.wanted call.origin?).run.run session =
      (find session.tree dirs call.wanted call.origin?,
        session.reading (pathOf? (find session.tree dirs call.wanted call.origin?)).toList) := by
  rw [resolve, Outcome.run_get_bind, Outcome.run_bind, Action.run_ofExcept]
  cases find session.tree dirs call.wanted call.origin? with
  | error fault => exact congrArg (Prod.mk _) session.reading_nil.symm
  | ok file => rfl

/-- Each call is answered as if it were the only one. -/
theorem run_resolveAll (dirs : List Path) (calls : List Call) (session : Session σ) :
    (resolveAll dirs calls).run.run session =
      (.ok (calls.map fun call => find session.tree dirs call.wanted call.origin?),
        session.reading (taken (calls.map fun call =>
          find session.tree dirs call.wanted call.origin?))) := by
  induction calls generalizing session with
  | nil => exact congrArg (Prod.mk _) session.reading_nil.symm
  | cons call calls ih =>
      have others := ih
        (session.reading (pathOf? (find session.tree dirs call.wanted call.origin?)).toList)
      rw [resolveAll] at others
      rw [resolveAll, List.mapM_cons, Outcome.run_bind, Action.run_outcome, run_resolve]
      dsimp only
      rw [Outcome.run_bind, others, Session.reading_reading, List.map_cons, taken_cons]
      rfl

/-- After any calls the list holds the file that it started with and those that were taken in, one for
    each call that has succeeded, in the order of the calls. A standard include is taken from the
    first directory that holds it, a relative one from the directory of the file that asks for it.
    What no directory holds is reported missing, and so is a relative include in no file. -/
theorem resolveAll_records_what_is_taken (session : Session σ) (seed? : Option String)
    (dirs : List Path) (calls : List Call) :
    ∃ answers after, (resolveAll dirs calls).run.run (session.seeded seed?) = (.ok answers, after) ∧
      after.dependencies = seed?.toList ++ taken answers ∧ after.tree = session.tree ∧
      List.Forall₂ (Answers session.tree dirs) calls answers := by
  refine ⟨_, _, run_resolveAll dirs calls (session.seeded seed?), rfl, rfl, ?_⟩
  rw [List.forall₂_map_right_iff]
  exact List.forall₂_same.mpr fun call _ => find_answers session.tree dirs call

/-- Two directories, of which the second holds a file. -/
def secondHolds : Session Unit :=
  { tree := ⟨[(Location.here.down "A", .directory), (Location.here.down "B", .directory),
      ((Location.here.down "B").down "x.h", .file [0x79, 0x0D] false)]⟩
    environment := []
    launcher := fun _ _ _ => .cannotStart (.missing "tool")
    scratch := "scratch"
    calls := []
    log := []
    dependencies := []
    extra := () }

/-- A file that is found, one that is missing, and one that is asked for without and with a place. -/
def fourCalls : List Call :=
  [⟨⟨"x.h", .standard⟩, none⟩, ⟨⟨"y.h", .standard⟩, none⟩, ⟨⟨"x.h", .relative⟩, none⟩,
   ⟨⟨"x.h", .relative⟩, some "B/main.frag"⟩]

theorem found_missing_adrift_and_beside :
    ∃ after, (resolveAll [Path.ofString "A", Path.ofString "B"] fourCalls).run.run
        (secondHolds.seeded (some "B/main.frag")) =
      (.ok [.ok ⟨"B/x.h", "y\n"⟩,
        .error (.refused (.inclusion ⟨⟨"y.h", .standard⟩, .notFound ["A", "B"]⟩) []),
        .error (.refused (.inclusion ⟨⟨"x.h", .relative⟩, .noDirectory⟩) []),
        .ok ⟨"B/x.h", "y\n"⟩], after) ∧
      after.dependencies = ["B/main.frag", "B/x.h", "B/x.h"] := by
  obtain ⟨answers, after, ran, listed, -, answered⟩ := resolveAll_records_what_is_taken secondHolds
    (some "B/main.frag") [Path.ofString "A", Path.ofString "B"] fourCalls
  have acceptable {name : String} (isName : name ∈ ["x.h", "y.h"]) :
      Acceptable ((Path.ofString "A").below name).toString ∧
        Acceptable ((Path.ofString "B").below name).toString := by
    simp only [List.mem_cons, List.not_mem_nil, or_false] at isName
    rcases isName with rfl | rfl <;>
      exact ⟨⟨by decide, by decide⟩, ⟨by decide, by decide⟩⟩
  have text : HasText secondHolds.tree "B/x.h" "y\n" := ⟨_, _, rfl, rfl, rfl⟩
  obtain ⟨_, _, found, three, rfl⟩ := List.forall₂_cons_left_iff.mp answered
  obtain ⟨_, _, missing, two, rfl⟩ := List.forall₂_cons_left_iff.mp three
  obtain ⟨_, _, adrift, one, rfl⟩ := List.forall₂_cons_left_iff.mp two
  obtain ⟨_, _, beside, none, rfl⟩ := List.forall₂_cons_left_iff.mp one
  obtain rfl := List.forall₂_nil_left_iff.mp none
  obtain rfl := found.taken rfl [Path.ofString "A"] (Path.ofString "B") [] "y\n" rfl
    (List.forall_mem_singleton.mpr ⟨(acceptable (by decide)).1, rfl⟩) text
  obtain rfl := missing.missing rfl (List.forall_mem_cons.mpr ⟨⟨(acceptable (by decide)).1, rfl⟩,
    List.forall_mem_singleton.mpr ⟨(acceptable (by decide)).2, rfl⟩⟩)
  obtain rfl := adrift.adrift rfl rfl
  obtain rfl := (beside.besides rfl ⟨"B/x.h", "y\n"⟩).mpr ⟨"B/main.frag", rfl, rfl, text⟩
  exact ⟨after, ran, listed⟩

end Include

end ShaderBuild
