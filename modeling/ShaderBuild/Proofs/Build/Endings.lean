import ShaderBuild.Proofs.Build.Recording
import ShaderBuild.Proofs.Build.Steps

/-! # How steps of a build end

A step gives a result or stops with a fault. What can be said of either, wherever the step starts, goes
from the parts of a step to the whole.
-/

namespace ShaderBuild

variable {σ α β : Type}

namespace Action

/-- A step all of whose results and all of whose faults have a property. -/
def Ends (action : Action σ α) (result : α → Prop) (stop : Fault → Prop) : Prop :=
  ∀ session, (∀ a, (action.run.run session).1 = .ok a → result a) ∧
    ∀ fault, (action.run.run session).1 = .error fault → stop fault

namespace Ends

variable {result : α → Prop} {stop : Fault → Prop}

theorem pure {a : α} (holds : result a) : (Pure.pure a : Action σ α).Ends result stop := by
  intro session
  exact ⟨by rintro _ ⟨⟩; exact holds, nofun⟩

theorem throw {fault : Fault} (stops : stop fault) :
    (MonadExcept.throw fault : Action σ α).Ends result stop := by
  intro session
  exact ⟨nofun, by rintro _ ⟨⟩; exact stops⟩

theorem bind {x : Action σ α} {f : α → Action σ β} {last : β → Prop} (first : x.Ends result stop)
    (rest : ∀ a, result a → (f a).Ends last stop) : (x >>= f).Ends last stop := by
  intro session
  rw [Outcome.run_bind]
  obtain ⟨results, stops⟩ := first session
  revert results stops
  rcases x.run.run session with ⟨cause | a, between⟩
  · exact fun _ stops => ⟨nofun, by rintro _ ⟨⟩; exact stops cause rfl⟩
  · exact fun results _ => rest a (results a rfl) between

theorem get_bind {f : Session σ → Action σ α} (rest : ∀ session, (f session).Ends result stop) :
    (get >>= f).Ends result stop := fun session => rest session session

theorem modify (f : Session σ → Session σ) :
    (modify f : Action σ PUnit).Ends (fun _ => True) stop := fun _ => ⟨fun _ _ => trivial, nofun⟩

theorem weaken {action : Action σ α} {other : Fault → Prop} (h : action.Ends result stop)
    (weaker : ∀ fault, stop fault → other fault) : action.Ends result other :=
  fun session => ⟨(h session).1, fun fault fails => weaker fault ((h session).2 fault fails)⟩

theorem ofExcept {x : Except Fault α} (results : ∀ a, x = .ok a → result a)
    (stops : ∀ fault, x = .error fault → stop fault) :
    (ofExcept x : Action σ α).Ends result stop := by
  intro session
  rw [run_ofExcept]
  exact ⟨results, stops⟩

theorem ofRequest {x : Except RequestError α} (results : ∀ a, x = .ok a → result a)
    (stops : ∀ error, x = .error error → stop error.fault) :
    (ofRequest x : Action σ α).Ends result stop := by
  cases x with
  | ok a => exact pure (results a rfl)
  | error error => exact throw (stops error rfl)

/-- A step that goes on with what has come of another one, whatever that is. -/
theorem outcome_bind {action : Action σ α} {f : Except Fault α → Action σ β} {last : β → Prop}
    {cause : Fault → Prop} (attempted : action.Ends result cause)
    (rest : ∀ made, (∀ a, made = .ok a → result a) → (∀ fault, made = .error fault → cause fault) →
      (f made).Ends last stop) : (outcome action >>= f).Ends last stop := by
  intro session
  rw [Outcome.run_bind, run_outcome]
  exact rest _ (attempted session).1 (attempted session).2 _

theorem forM {f : α → Action σ PUnit} (each : ∀ a, (f a).Ends (fun _ => True) stop) (items : List α) :
    (items.forM f).Ends (fun _ => True) stop := by
  induction items with
  | nil => exact pure trivial
  | cons item items ih => exact bind (each item) fun _ _ => ih

theorem changeTree (access : ∀ fault, stop (.access fault)) (change : FileTree → FileTree.Attempt) :
    (changeTree change : Action σ Unit).Ends (fun _ => True) stop := by
  refine get_bind fun session => ?_
  dsimp only
  refine bind (modify _) fun _ _ => ?_
  split
  · exact pure trivial
  · exact throw (access _)

theorem withScratch (access : ∀ fault, stop (.access fault)) {work : String → Action σ α}
    (each : ∀ dir, (work dir).Ends result stop) : (withScratch work).Ends result stop := by
  refine get_bind fun session => bind (changeTree access _) fun _ _ => ?_
  exact outcome_bind (each _) fun _ results stops => bind (modify _) fun _ _ => ofExcept results stops

end Ends

end Action

end ShaderBuild
