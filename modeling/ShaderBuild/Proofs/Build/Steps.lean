import ShaderBuild.Session
import ShaderBuild.Proofs.Outcome

/-! # Steps of a build, taken apart

How a step runs that is made of others: where it starts, what each part leaves, and what comes out.
-/

namespace ShaderBuild.Action

open Outcome

variable {σ α β : Type} {session after : Session σ}

@[simp] theorem run_throw (fault : Fault) :
    (throw fault : Action σ α).run.run session = (.error fault, session) := rfl

@[simp] theorem run_ofExcept (x : Except Fault α) :
    (ofExcept x : Action σ α).run.run session = (x, session) := by
  cases x <;> rfl

@[simp] theorem run_ofRequest (x : Except RequestError α) :
    (ofRequest x : Action σ α).run.run session = (x.mapError (·.fault), session) := by
  cases x <;> rfl

@[simp] theorem run_modify (f : Session σ → Session σ) :
    (modify f : Action σ PUnit).run.run session = (.ok ⟨⟩, f session) := rfl

theorem run_bind_eq_ok {x : Action σ α} {f : α → Action σ β} {b : β} :
    (x >>= f).run.run session = (.ok b, after) ↔
      ∃ a between, x.run.run session = (.ok a, between) ∧ (f a).run.run between = (.ok b, after) := by
  rw [run_bind]
  rcases x.run.run session with ⟨fault | a, between⟩
  · constructor
    · exact nofun
    · rintro ⟨_, _, ⟨⟩, _⟩
  · constructor
    · exact fun rest => ⟨a, between, rfl, rest⟩
    · rintro ⟨_, _, ⟨⟩, rest⟩
      exact rest

theorem run_ofRequest_bind {x : Except RequestError α} {a : α} (accepted : x = .ok a)
    (f : α → Action σ β) : (ofRequest x >>= f).run.run session = (f a).run.run session := by
  subst accepted
  rfl

theorem run_ofRequest_bind_eq_ok {x : Except RequestError α} {f : α → Action σ β} {b : β} :
    (ofRequest x >>= f).run.run session = (.ok b, after) ↔
      ∃ a, x = .ok a ∧ (f a).run.run session = (.ok b, after) := by
  cases x with
  | error error => exact ⟨nofun, nofun⟩
  | ok a =>
      rw [run_ofRequest_bind rfl]
      constructor
      · exact fun ran => ⟨a, rfl, ran⟩
      · rintro ⟨_, ⟨⟩, ran⟩
        exact ran

/-- A change of the files, and the fault that stopped it if one did. -/
theorem run_changeTree (change : FileTree → FileTree.Attempt) :
    (changeTree change : Action σ Unit).run.run session =
      ((change session.tree).2.elim (.ok ()) fun fault => .error (.access fault),
        { session with tree := (change session.tree).1 }) := by
  rw [changeTree, run_get_bind]
  rcases change session.tree with ⟨tree, _ | fault⟩ <;> rfl

theorem run_changeTree_eq_ok {change : FileTree → FileTree.Attempt} :
    (changeTree change).run.run session = (.ok (), after) ↔
      (change session.tree).2 = none ∧ { session with tree := (change session.tree).1 } = after := by
  rw [run_changeTree]
  cases (change session.tree).2 with
  | none => exact ⟨fun same => ⟨rfl, congrArg Prod.snd same⟩, fun same => congrArg (Prod.mk _) same.2⟩
  | some fault => exact ⟨nofun, nofun⟩

theorem run_writeFile_eq_ok {path : String} {content : Bytes} :
    (writeFile path content).run.run session = (.ok (), after) ↔
      ∃ grown, session.tree.write path content = .ok grown ∧ { session with tree := grown } = after := by
  rw [writeFile, run_changeTree_eq_ok, FileTree.attempt]
  cases session.tree.write path content <;> simp

end ShaderBuild.Action
