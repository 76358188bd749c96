import ShaderBuild.Proofs.Files.SamePlaces
import ShaderBuild.Proofs.Include.Resolution

/-! # What is read on the way

A computation that takes in files depends on a tree only through the paths that it looks at: for a
standard include these are the candidates up to the one that is taken. Where two trees show the same at
these paths, it comes to the same in both.
-/

namespace ShaderBuild

open FileTree

variable {σ : Type} {tree grown : FileTree} {name : String} {dirs : List Path}

/-! ## Single calls -/

namespace Include

/-- The paths that a call looks at. -/
def Call.looks (call : Call) (tree : FileTree) (dirs : List Path) : List String :=
  match call.wanted.kind with
  | .relative => (call.origin?.map call.besides).toList
  | .standard => searched tree call.wanted.name dirs

theorem mem_searched {found : Path} (taken : search tree name dirs = .ok (some found)) :
    found.toString ∈ searched tree name dirs := by
  induction dirs with
  | nil => cases taken
  | cons dir dirs ih =>
      rw [search_cons] at taken
      rw [searched_cons]
      cases looked : tree.findFile (dir.below name).toString with
      | error fault => rw [looked] at taken; cases taken
      | ok isFound =>
          rw [looked] at taken
          cases isFound with
          | true => cases taken; exact List.mem_cons_self
          | false => exact List.mem_cons_of_mem _ (ih taken)

theorem search_of_sameAt (same : ∀ path ∈ searched tree name dirs, SameAt path tree grown) :
    search grown name dirs = search tree name dirs := by
  induction dirs with
  | nil => rfl
  | cons dir dirs ih =>
      rw [searched_cons] at same
      obtain ⟨here, others⟩ := List.forall_mem_cons.mp same
      rw [search_cons, search_cons, here.found]
      cases looked : tree.findFile (dir.below name).toString with
      | error fault => rfl
      | ok isFound =>
          rw [looked] at others
          cases isFound with
          | true => rfl
          | false => exact ih others

theorem readLocated_of_sameAt {found : Path} (same : SameAt found.toString tree grown)
    (wanted : Include) : readLocated grown wanted found = readLocated tree wanted found := by
  simp only [readLocated, same.read]

/-- What a call is answered, in a tree with some include directories. -/
def Call.answer (call : Call) (tree : FileTree) (dirs : List Path) : Except Fault IncludedFile :=
  find tree dirs call.wanted call.origin?

theorem Call.answer_of_sameAt {call : Call} (same : ∀ path ∈ call.looks tree dirs, SameAt path tree grown) :
    call.answer grown dirs = call.answer tree dirs := by
  obtain ⟨⟨name, kind⟩, origin?⟩ := call
  unfold answer
  cases kind with
  | relative =>
      cases origin? with
      | none => rfl
      | some origin =>
          rw [find_beside, find_beside]
          exact readLocated_of_sameAt (same _ (List.mem_singleton_self _)) _
  | standard =>
      rw [find_standard, find_standard, search_of_sameAt same]
      cases taken : search tree name dirs with
      | error fault => rfl
      | ok found? =>
          cases found? with
          | none => rfl
          | some found => exact readLocated_of_sameAt (same _ (mem_searched taken)) _

end Include

/-! ## Readings -/

/-- A computation of words that asks for included files on the way and goes on with what it is answered,
    be it a file or a fault. -/
inductive Reading where
  | stop (result : Except Fault (List Int))
  | ask (call : Include.Call) (next : Except Fault IncludedFile → Reading)

namespace Reading

/-- A reading as a step of a build. -/
def action (dirs : List Path) : Reading → Action σ (List Int)
  | .stop result => Action.ofExcept result
  | .ask call next => do
    let answer ← Action.outcome (Include.resolve dirs call.wanted call.origin?)
    (next answer).action dirs

/-- What a reading comes to in a tree. -/
def result (tree : FileTree) (dirs : List Path) : Reading → Except Fault (List Int)
  | .stop result => result
  | .ask call next => (next (call.answer tree dirs)).result tree dirs

/-- The files that a reading takes in. -/
def records (tree : FileTree) (dirs : List Path) : Reading → List String
  | .stop _ => []
  | .ask call next =>
    (Include.pathOf? (call.answer tree dirs)).toList ++ (next (call.answer tree dirs)).records tree dirs

/-- The paths that a reading looks at. -/
def looks (tree : FileTree) (dirs : List Path) : Reading → List String
  | .stop _ => []
  | .ask call next => call.looks tree dirs ++ (next (call.answer tree dirs)).looks tree dirs

theorem run_action (reading : Reading) (dirs : List Path) (session : Session σ) :
    (reading.action dirs).run.run session =
      (reading.result session.tree dirs, session.reading (reading.records session.tree dirs)) := by
  induction reading generalizing session with
  | stop result =>
      rw [action, Action.run_ofExcept, records, Session.reading_nil]
      rfl
  | ask call next ih =>
      rw [action, Outcome.run_bind, Action.run_outcome, Include.run_resolve]
      dsimp only
      rw [ih, Session.reading_reading]
      rfl

/-- Trees that show the same where a reading looks are the same to it. -/
theorem of_sameAt {reading : Reading} (same : ∀ path ∈ reading.looks tree dirs, SameAt path tree grown) :
    reading.result grown dirs = reading.result tree dirs ∧
      reading.records grown dirs = reading.records tree dirs := by
  induction reading with
  | stop result => exact ⟨rfl, rfl⟩
  | ask call next ih =>
      obtain ⟨here, later⟩ := List.forall_mem_append.mp same
      have answered := Include.Call.answer_of_sameAt here
      obtain ⟨result, records⟩ := ih _ later
      refine ⟨?_, ?_⟩
      · rw [Reading.result, answered, result]
        rfl
      · rw [Reading.records, answered, records]
        rfl

theorem looks_of_samePlaces (same : SamePlaces tree grown) (reading : Reading) :
    reading.looks grown dirs = reading.looks tree dirs := by
  have searches (name : String) (dirs : List Path) :
      Include.searched grown name dirs = Include.searched tree name dirs := by
    induction dirs with
    | nil => rfl
    | cons dir dirs ih => rw [Include.searched_cons, Include.searched_cons, (same.sameAt _).found, ih]
  induction reading with
  | stop result => rfl
  | ask call next ih =>
      rw [looks, looks, Include.Call.answer_of_sameAt fun path _ => same.sameAt path, ih]
      simp only [Include.Call.looks, searches]

end Reading

end ShaderBuild
