/-! # Outcomes of steps that may fail

A step that goes on with the result of another one is taken apart here, once for all proofs: it
succeeds if both succeed, and its error is the first of the two.
-/

namespace ShaderBuild.Outcome

variable {ε α β : Type}

@[simp] theorem pure_eq (a : α) : (pure a : Except ε α) = .ok a := rfl

@[simp] theorem throw_eq (e : ε) : (throw e : Except ε α) = .error e := rfl

@[simp] theorem ok_bind (a : α) (f : α → Except ε β) : (Except.ok a >>= f) = f a := rfl

@[simp] theorem error_bind (e : ε) (f : α → Except ε β) :
    ((Except.error e : Except ε α) >>= f) = .error e := rfl

theorem bind_eq_ok {x : Except ε α} {f : α → Except ε β} {b : β} :
    (x >>= f) = .ok b ↔ ∃ a, x = .ok a ∧ f a = .ok b := by
  cases x <;> simp

theorem bind_eq_error {x : Except ε α} {f : α → Except ε β} {e : ε} :
    (x >>= f) = .error e ↔ x = .error e ∨ ∃ a, x = .ok a ∧ f a = .error e := by
  cases x <;> simp

theorem map_eq_ok {x : Except ε α} {f : α → β} {b : β} :
    x.map f = .ok b ↔ ∃ a, x = .ok a ∧ f a = b := by
  cases x <;> simp [Except.map]

@[simp] theorem mapError_ok {ε' : Type} (f : ε → ε') (a : α) :
    (Except.ok a : Except ε α).mapError f = .ok a := rfl

@[simp] theorem mapError_error {ε' : Type} (f : ε → ε') (e : ε) :
    (Except.error e : Except ε α).mapError f = .error (f e) := rfl

theorem mapError_eq_ok {ε' : Type} {x : Except ε α} {f : ε → ε'} {a : α} :
    x.mapError f = .ok a ↔ x = .ok a := by
  cases x <;> simp

theorem mapError_eq_error {ε' : Type} {x : Except ε α} {f : ε → ε'} {e : ε'} :
    x.mapError f = .error e ↔ ∃ cause, x = .error cause ∧ e = f cause := by
  cases x <;> simp [eq_comm]

theorem toOption_eq_some {x : Except ε α} {a : α} : x.toOption = some a ↔ x = .ok a := by
  cases x <;> simp [Except.toOption]

theorem mapM_cons_eq_ok {f : α → Except ε β} {a : α} {rest : List α} {made : List β} :
    (a :: rest).mapM f = .ok made ↔
      ∃ one more, f a = .ok one ∧ rest.mapM f = .ok more ∧ made = one :: more := by
  rw [List.mapM_cons, bind_eq_ok]
  constructor
  · rintro ⟨one, first, others⟩
    obtain ⟨more, rest, same⟩ := bind_eq_ok.mp others
    cases same
    exact ⟨one, more, first, rest, rfl⟩
  · rintro ⟨one, more, first, rest, rfl⟩
    exact ⟨one, first, bind_eq_ok.mpr ⟨more, rest, rfl⟩⟩

/-- Whether a step ends well, without its result. -/
def done (x : Except ε α) : Except ε Unit := x.map fun _ => ()

@[simp] theorem done_ok (a : α) : done (.ok a : Except ε α) = .ok () := rfl

@[simp] theorem done_error (e : ε) : done (.error e : Except ε α) = .error e := rfl

theorem done_eq_error {x : Except ε α} {e : ε} : done x = .error e ↔ x = .error e := by
  cases x <;> simp

theorem done_eq_ok {x : Except ε α} : done x = .ok () ↔ ∃ a, x = .ok a := by
  cases x <;> simp

/-- Going on after a step adds what comes next to whether it ends well. -/
theorem done_bind (x : Except ε α) (f : α → Except ε β) :
    done (x >>= f) = x >>= fun a => done (f a) := by
  cases x <;> rfl

theorem forM_eq_ok {items : List α} {f : α → Except ε Unit} :
    items.forM f = .ok () ↔ ∀ a ∈ items, f a = .ok () := by
  induction items with
  | nil => simp
  | cons item items ih =>
      rw [List.forM_eq_forM] at ih ⊢
      rw [List.forM_cons, List.forall_mem_cons]
      cases f item <;> simp [ih]

theorem forM_eq_error {items : List α} {f : α → Except ε Unit} {e : ε}
    (fails : items.forM f = .error e) :
    ∃ a ∈ items, f a = .error e := by
  induction items with
  | nil => simp at fails
  | cons item items ih =>
      simp only [List.forM_eq_forM, List.forM_cons, bind_eq_error] at fails ih
      rcases fails with first | ⟨_, _, later⟩
      · exact ⟨item, List.mem_cons_self, first⟩
      · obtain ⟨a, member, failsAt⟩ := ih later
        exact ⟨a, List.mem_cons_of_mem _ member, failsAt⟩

/-- A step over a state goes on with what the state has become, unless it has failed. -/
theorem run_bind {σ : Type} (x : ExceptT ε (StateM σ) α) (f : α → ExceptT ε (StateM σ) β)
    (state : σ) :
    (x >>= f).run.run state =
      match x.run.run state with
      | (.ok a, state) => (f a).run.run state
      | (.error e, state) => (.error e, state) := by
  show ((x.run >>= ExceptT.bindCont f).run state) = _
  rw [StateT.run_bind]
  rcases x.run.run state with ⟨_ | _, _⟩ <;> rfl

theorem run_get_bind {σ : Type} (f : σ → ExceptT ε (StateM σ) α) (state : σ) :
    (get >>= f).run.run state = (f state).run.run state := rfl

end ShaderBuild.Outcome
