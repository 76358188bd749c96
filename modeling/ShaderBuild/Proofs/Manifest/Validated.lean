import ShaderBuild.Manifest.Schema
import ShaderBuild.Proofs.Outcome

/-! # Manifests that pass their check

A manifest that passes its check has named every shader, each with a name of its own, and each shader
has exactly one source.
-/

namespace ShaderBuild.Manifest

open Outcome

/-- What the check of a manifest promises. -/
structure Validated (manifest : Manifest) : Prop where
  positive : 0 < manifest.version
  named : ∀ shader ∈ manifest.shaders, isIdentifier shader.name = true
  distinct : (manifest.shaders.map (·.name)).Nodup
  oneSource : ∀ shader ∈ manifest.shaders, shader.source?.isSome ≠ shader.inline?.isSome

namespace Checked

theorem both_eq_ok {α β : Type} {left : Checked α} {right : Checked β} {pair : α × β} :
    both left right = .ok pair ↔ left = .ok pair.1 ∧ right = .ok pair.2 := by
  obtain ⟨a, b⟩ := pair
  cases left <;> cases right <;> simp [both]

theorem forall_of_items {α : Type} {check : KeyPath → Value → Checked α} {P : α → Prop}
    (each : ∀ place value made, check place value = .ok made → P made) {place : KeyPath}
    {position : Nat} {values : List Value} {made : List α}
    (passes : items check place position values = .ok made) : ∀ item ∈ made, P item := by
  induction values generalizing position made with
  | nil =>
      cases passes
      exact fun _ none => absurd none List.not_mem_nil
  | cons value values ih =>
      obtain ⟨⟨first, others⟩, both, rfl⟩ := map_eq_ok.mp passes
      obtain ⟨head, tail⟩ := both_eq_ok.mp both
      exact List.forall_mem_cons.mpr ⟨each _ _ _ head, ih tail⟩

end Checked

theorem atPlace_eq_ok {α : Type} {place : KeyPath} {outcome : Except Complaint α} {made : α} :
    atPlace place outcome = .ok made ↔ outcome = .ok made :=
  mapError_eq_ok

theorem required_eq_ok {α : Type} {check : KeyPath → Value → Checked α} {place : KeyPath}
    {name : String} {entries : List (Value × Value)} {made : α}
    (passes : required check place name entries = .ok made) :
    ∃ place value, check place value = .ok made := by
  unfold required at passes
  split at passes
  · exact ⟨_, _, passes⟩
  · cases passes

theorem positive_of_checkVersion {place : KeyPath} {value : Value} {version : Int}
    (passes : checkVersion place value = .ok version) : 0 < version := by
  obtain ⟨number, _, checked⟩ := bind_eq_ok.mp (atPlace_eq_ok.mp passes)
  by_cases small : number ≤ 0
  · simp [Constraint.check, Constraint.checkPositive, small] at checked
  · simp [Constraint.check, Constraint.checkPositive, small] at checked
    omega

theorem isIdentifier_of_checkName {place : KeyPath} {value : Value} {name : String}
    (passes : checkName place value = .ok name) : isIdentifier name = true := by
  obtain ⟨text, _, checked⟩ := bind_eq_ok.mp (atPlace_eq_ok.mp passes)
  by_cases named : isIdentifier text = true
  · simp [Constraint.check, Constraint.checkIdentifier, named] at checked
    exact checked ▸ named
  · simp [Constraint.check, Constraint.checkIdentifier, named] at checked

theorem checkShader_spec {place : KeyPath} {value : Value} {shader : Shader}
    (passes : checkShader place value = .ok shader) :
    isIdentifier shader.name = true ∧ shader.source?.isSome ≠ shader.inline?.isSome := by
  unfold checkShader at passes
  split at passes
  · obtain ⟨⟨name, source, inline, directives, format⟩, entries, whole⟩ := bind_eq_ok.mp passes
    obtain ⟨_, _, named⟩ := required_eq_ok (Checked.both_eq_ok.mp entries).1
    simp only [checkSources] at whole
    split at whole
    · cases whole
    · next differ =>
        cases whole
        refine ⟨isIdentifier_of_checkName named, ?_⟩
        cases source <;> cases inline <;> simp_all
  · cases passes

theorem nodup_of_repeated? {seen names : List String} (none : repeated? seen names = none) :
    names.Nodup ∧ ∀ name ∈ names, name ∉ seen := by
  induction names generalizing seen with
  | nil => exact ⟨.nil, fun _ member => absurd member List.not_mem_nil⟩
  | cons name names ih =>
      rw [repeated?] at none
      split at none
      · cases none
      · next fresh =>
          obtain ⟨distinct, others⟩ := ih none
          refine ⟨List.nodup_cons.mpr ⟨fun again => others name again List.mem_cons_self, distinct⟩, ?_⟩
          refine List.forall_mem_cons.mpr ⟨by simpa using fresh, fun other member inSeen => ?_⟩
          exact others other member (List.mem_cons_of_mem _ inSeen)

/-- A checked manifest is as promised. -/
theorem validated_of_check {payload : Value} {manifest : Manifest}
    (passes : check payload = .ok manifest) : Validated manifest := by
  unfold check at passes
  split at passes
  · obtain ⟨⟨version, defaults, shaders⟩, entries, whole⟩ := bind_eq_ok.mp passes
    obtain ⟨versionPasses, others⟩ := Checked.both_eq_ok.mp entries
    obtain ⟨_, shadersPass⟩ := Checked.both_eq_ok.mp others
    obtain ⟨_, _, positive⟩ := required_eq_ok versionPasses
    obtain ⟨place, value, checked⟩ := required_eq_ok shadersPass
    have each : ∀ shader ∈ shaders,
        isIdentifier shader.name = true ∧ shader.source?.isSome ≠ shader.inline?.isSome := by
      unfold checkShaders checkItems at checked
      split at checked
      · exact Checked.forall_of_items (fun _ _ _ => checkShader_spec) checked
      · cases checked
    simp only [checkNames] at whole
    split at whole
    · cases whole
    · next distinct =>
        cases whole
        exact {
          positive := positive_of_checkVersion positive
          named := fun shader member => (each shader member).1
          distinct := (nodup_of_repeated? distinct).1
          oneSource := fun shader member => (each shader member).2 }
  · cases passes

end ShaderBuild.Manifest
