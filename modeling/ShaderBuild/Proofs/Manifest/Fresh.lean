import ShaderBuild.Proofs.Manifest.Simulation

/-! # Expansion without a memory

What a payload stands for, with nothing kept but the names that are being expanded. Every use of a
variable expands it anew. The names that are not yet being expanded get fewer on the way down, so
this comes to an end whatever the variables refer to.
-/

namespace ShaderBuild.Manifest

namespace Variables

variable {vars : Variables} {stack : List String} {name : String} {value : Value}

/-- The names of the variables that are not being expanded. -/
def unused (vars : Variables) (stack : List String) : List String :=
  (vars.named.map (·.1)).filter (· ∉ stack)

theorem mem_names_of_lookup (found : vars.named.lookup name = some value) :
    name ∈ vars.named.map (·.1) := by
  obtain ⟨before, after, split, -⟩ := List.lookup_eq_some_iff.mp found
  simp [split]

theorem unused_append_lt (found : vars.named.lookup name = some value) (new : name ∉ stack) :
    (vars.unused (stack ++ [name])).length < (vars.unused stack).length := by
  have fewer : vars.unused (stack ++ [name]) = (vars.unused stack).filter (· ≠ name) := by
    simp only [unused, List.filter_filter, List.mem_append, List.mem_singleton, not_or,
      Bool.decide_and, ne_eq, Bool.and_comm]
  have there : name ∈ vars.unused stack := by
    simp only [unused, List.mem_filter, mem_names_of_lookup found, new, not_false_eq_true,
      decide_true, and_self]
  rw [fewer]
  exact List.length_filter_lt_length_iff_exists.mpr ⟨name, there, by simp⟩

theorem unused_nil_le (vars : Variables) : (vars.unused []).length ≤ vars.entries.length := by
  refine Nat.le_trans (List.length_filter_le _ _) ?_
  rw [List.length_map]
  exact List.length_filterMap_le _ _

/-- The value of a variable, expanded anew while the names of `stack` are being expanded. -/
def freshValue (vars : Variables) (stack : List String) : Lookup (Except ExpansionFault) :=
  fun steps room name path =>
    if _new : name ∈ stack then .error (.variable ⟨path, .cycle (circle stack name)⟩)
    else
      match _found : vars.named.lookup name with
      | none => .error (vars.unknown name path)
      | some value => do
        let room ← deeper steps room
        expand (vars.freshValue (stack ++ [name])) room [.name "vars", .name name] value
termination_by (vars.unused stack).length
decreasing_by exact unused_append_lt _found _new

/-- A payload with all placeholders replaced, by an expansion that keeps only the names being
    expanded. -/
def fresh (vars : Variables) (payload : Value) : Except ExpansionFault Value :=
  expand (vars.freshValue []) none [] payload

theorem freshValue_of_mem {steps room path} (member : name ∈ stack) :
    vars.freshValue stack steps room name path =
      .error (.variable ⟨path, .cycle (circle stack name)⟩) := by
  rw [freshValue, dif_pos member]

theorem freshValue_of_unknown {steps room path} (new : name ∉ stack)
    (missing : vars.named.lookup name = none) :
    vars.freshValue stack steps room name path = .error (vars.unknown name path) := by
  rw [freshValue, dif_neg new]
  split
  · rfl
  · simp_all

theorem freshValue_of_found {steps room path} (new : name ∉ stack)
    (found : vars.named.lookup name = some value) :
    vars.freshValue stack steps room name path = (do
      let room ← deeper steps room
      expand (vars.freshValue (stack ++ [name])) room [.name "vars", .name name] value) := by
  rw [freshValue, dif_neg new]
  split
  · simp_all
  · simp_all

/-- A variable has a value if it is not being expanded, is there, and what stands for it can be
    expanded. The value is the same for all texts that ask for it. -/
theorem freshValue_eq_ok_iff {steps path} :
    vars.freshValue stack steps none name path = .ok value ↔
      name ∉ stack ∧ ∃ source, vars.named.lookup name = some source ∧
        expand (vars.freshValue (stack ++ [name])) none [.name "vars", .name name] source =
          .ok value := by
  by_cases member : name ∈ stack
  · rw [freshValue_of_mem member]
    exact ⟨nofun, fun ⟨new, _⟩ => (new member).elim⟩
  · cases found : vars.named.lookup name with
    | none =>
        rw [freshValue_of_unknown member found]
        exact ⟨nofun, nofun⟩
    | some source =>
        rw [freshValue_of_found member found]
        exact ⟨fun ended => ⟨member, source, rfl, ended⟩, fun ⟨_, _, rfl, ended⟩ => ended⟩

/-- The fresh lookup as one that is told the names being expanded. -/
def freshLookup (vars : Variables) : Lookup (ReaderT (List String) (Except ExpansionFault)) :=
  fun steps room name path stack => vars.freshValue stack steps room name path

/-- Telling an expansion the names once is telling every lookup of it. -/
theorem expand_freshLookup (vars : Variables) (room : Room) (path : KeyPath) (value : Value) :
    (expand vars.freshLookup room path value).run =
      fun stack => expand (vars.freshValue stack) room path value := by
  funext stack
  let told : Simulation (ReaderT (List String) (Except ExpansionFault)) (Except ExpansionFault) := {
    rel := fun x y => x.run stack = y
    rooms := Eq
    pure := fun _ => rfl
    throw := fun _ => rfl
    bind := by
      rintro _ _ x _ f g rfl rest
      rw [ReaderT.run_bind]
      exact bind_congr rest
    deeper := by
      rintro _ steps room _ f g rfl rest
      rw [ReaderT.run_bind]
      cases room with
      | none => exact rest none none rfl
      | some room =>
          by_cases enough : steps ≤ room
          · simpa [Manifest.deeper, enough] using rest _ _ rfl
          · simp [Manifest.deeper, enough, throw, throwThe, MonadExceptOf.throw, bind, Except.bind] }
  exact Simulation.expand (S := told) (fun _ _ _ _ _ same => same ▸ rfl) rfl path value

end Variables

end ShaderBuild.Manifest
