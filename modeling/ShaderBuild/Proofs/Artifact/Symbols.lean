import ShaderBuild.Artifact.Symbol
import ShaderBuild.Proofs.Text.Names
import ShaderBuild.Proofs.Text.Parts

/-! # Symbols of identifiers

Symbols are made of the characters of identifiers, and an identifier is its own symbol, but for the line
end that may stand behind it.
-/

namespace ShaderBuild

namespace Artifact

theorem forall_isSymbolPart {P : Char → Prop}
    (all : ∀ code < 128, isSymbolPart (Char.ofNat code) = true → P (Char.ofNat code)) {c : Char}
    (part : isSymbolPart c = true) : P c := by
  have small : c.toNat < 128 := by
    delta isSymbolPart Char.isAlphanum Char.isAlpha Char.isUpper Char.isLower Char.isDigit at part
    simp only [Bool.or_eq_true, Bool.and_eq_true, decide_eq_true_eq, beq_iff_eq,
      UInt32.le_iff_toNat_le] at part
    rcases part with ((⟨_, high⟩ | ⟨_, high⟩) | ⟨_, high⟩) | rfl
    · exact Nat.lt_of_le_of_lt high (by decide)
    · exact Nat.lt_of_le_of_lt high (by decide)
    · exact Nat.lt_of_le_of_lt high (by decide)
    · decide
  have found := all c.toNat small
  rw [Char.ofNat_toNat] at found
  exact found part

theorem isSymbolPart_toUpper {c : Char} (part : isSymbolPart c = true) :
    isSymbolPart c.toUpper = true :=
  forall_isSymbolPart (P := fun c => isSymbolPart c.toUpper = true) (by decide) part

theorem isSymbolPart_of_mem_symbolChars (name : List Char) :
    ∀ c ∈ symbolChars name, isSymbolPart c = true := by
  have masked : ∀ c ∈ maskSymbol name, isSymbolPart c = true := by
    intro c member
    obtain ⟨given, _, rfl⟩ := List.mem_map.mp member
    split
    · assumption
    · rfl
  unfold symbolChars
  split
  · exact Text.forall_of_all (by decide)
  · next first rest same =>
      rw [same] at masked
      split
      · exact List.forall_mem_cons.mpr ⟨rfl, masked⟩
      · exact masked

/-- Whatever the name is, its symbol is a name. -/
theorem isName_symbolChars (name : List Char) : isName (symbolChars name) = true := by
  have parts := isSymbolPart_of_mem_symbolChars name
  cases shown : symbolChars name with
  | nil =>
      unfold symbolChars at shown
      split at shown
      · cases shown
      · split at shown <;> cases shown
  | cons first rest =>
      rw [shown] at parts
      obtain ⟨part, others⟩ := List.forall_mem_cons.mp parts
      have noDigit : first.isDigit = false := by
        unfold symbolChars at shown
        split at shown
        · cases shown
          rfl
        · split at shown
          · cases shown
            rfl
          · next starts =>
              cases shown
              exact Bool.eq_false_iff.mpr starts
      have starts : first.isDigit = false → isNameStart first = true :=
        forall_isSymbolPart (P := fun c => c.isDigit = false → isNameStart c = true) (by decide) part
      exact Bool.and_eq_true_iff.mpr ⟨starts noDigit, List.all_eq_true.mpr others⟩

theorem maskSymbol_of_parts {text : List Char} (parts : ∀ c ∈ text, isSymbolPart c = true) :
    maskSymbol text = text := by
  conv => rhs; rw [← List.map_id text]
  exact List.map_congr_left fun c member => by simp [parts c member]

theorem symbolChars_of_isName {text : List Char} (named : isName text = true) (more : List Char) :
    symbolChars (text ++ more) = text ++ maskSymbol more := by
  have shown : maskSymbol (text ++ more) = text ++ maskSymbol more := by
    have apart : maskSymbol (text ++ more) = maskSymbol text ++ maskSymbol more := List.map_append
    rw [apart, maskSymbol_of_parts (isNamePart_of_mem named)]
  cases text with
  | nil => cases named
  | cons first rest =>
      have starts : isNameStart first = true := (Bool.and_eq_true_iff.mp named).1
      have noDigit : isNameStart first = true → first.isDigit = false :=
        forall_isSymbolPart (P := fun c => isNameStart c = true → c.isDigit = false) (by decide)
          (isNamePart_of_isNameStart starts)
      rw [symbolChars, shown, List.cons_append]
      simp [noDigit starts]

/-- An identifier as generated code spells it: a line end behind it becomes an underscore. -/
def spelled (name : String) : List Char :=
  if name.toList.getLast? = some '\n' then name.toList.dropLast ++ ['_'] else name.toList

theorem symbolChars_of_isIdentifier {name : String} (named : isIdentifier name = true) :
    symbolChars name.toList = spelled name := by
  rcases isIdentifier_iff.mp named with whole | ⟨text, divides, named⟩
  · have noEnd : name.toList.getLast? ≠ some '\n' := by
      intro ends
      have part := isNamePart_of_mem whole _ (List.mem_of_getLast? ends)
      cases part
    have symbol := symbolChars_of_isName whole []
    rw [List.append_nil] at symbol
    rw [symbol, spelled, if_neg noEnd]
    exact List.append_nil _
  · rw [spelled, divides, if_pos List.getLast?_concat, List.dropLast_concat,
      symbolChars_of_isName named]
    rfl

end Artifact

end ShaderBuild
