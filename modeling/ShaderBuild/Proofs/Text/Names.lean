import ShaderBuild.Config.Constraint

/-! # Names

What names are made of, and which texts are identifiers.
-/

namespace ShaderBuild

theorem isNamePart_of_isNameStart {c : Char} (starts : isNameStart c = true) : isNamePart c = true := by
  simp only [isNameStart, isNamePart, Char.isAlphanum, Bool.or_eq_true] at starts ⊢
  exact starts.imp_left .inl

theorem isNamePart_of_mem {text : List Char} (named : isName text = true) :
    ∀ c ∈ text, isNamePart c = true := by
  cases text with
  | nil => cases named
  | cons first rest =>
      obtain ⟨starts, parts⟩ := Bool.and_eq_true_iff.mp named
      exact List.forall_mem_cons.mpr ⟨isNamePart_of_isNameStart starts, List.all_eq_true.mp parts⟩

theorem isName_append {name more : List Char} (named : isName name = true)
    (parts : ∀ c ∈ more, isNamePart c = true) : isName (name ++ more) = true := by
  cases name with
  | nil => cases named
  | cons first rest =>
      obtain ⟨starts, others⟩ := Bool.and_eq_true_iff.mp named
      refine Bool.and_eq_true_iff.mpr ⟨starts, List.all_eq_true.mpr ?_⟩
      exact List.forall_mem_append.mpr ⟨List.all_eq_true.mp others, parts⟩

/-- An identifier is a name, or a name and a line end. -/
theorem isIdentifier_iff {name : String} :
    isIdentifier name = true ↔
      isName name.toList = true ∨ ∃ text, name.toList = text ++ ['\n'] ∧ isName text = true := by
  rw [isIdentifier, Bool.or_eq_true, Bool.and_eq_true, beq_iff_eq]
  refine or_congr_right ⟨?_, ?_⟩
  · rintro ⟨last, named⟩
    obtain ⟨text, divides⟩ := List.getLast?_eq_some_iff.mp last
    rw [divides, List.dropLast_concat] at named
    exact ⟨text, divides, named⟩
  · rintro ⟨text, divides, named⟩
    rw [divides, List.dropLast_concat]
    exact ⟨List.getLast?_concat, named⟩

end ShaderBuild
