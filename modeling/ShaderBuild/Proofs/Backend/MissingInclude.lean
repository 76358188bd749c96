import ShaderBuild.Backend.Shaderc
import ShaderBuild.Proofs.Text.Parts

/-! # Diagnostics about a missing include

The words in which a compiler says that it has not found an included file, wherever they stand in its
diagnostics.
-/

namespace ShaderBuild

namespace Shaderc

/-- A text that starts by saying that the file for an include of this name was not found. -/
structure Announces (text name : List Char) : Prop where
  words : ∃ stop gap space after, text = "Cannot find or open include file".toList ++ stop ++ gap ++
    "for header name:".toList ++ space ++ name ++ after ∧ (stop = [] ∨ stop = ['.']) ∧
    (∀ c ∈ gap ++ space, Text.isBlank c = true) ∧ ∀ c ∈ after.head?, Text.isBlank c = true
  named : name ≠ []
  solid : ∀ c ∈ name, Text.isBlank c = false

/-- A text that says somewhere that the file for an include of this name was not found. -/
def NamesMissing (text name : List Char) : Prop := ∃ rest, rest <:+ text ∧ Announces rest name

theorem exists_stop (text : List Char) : ∃ stop, (stop = [] ∨ stop = ['.']) ∧
    text = stop ++ (Text.after? ['.'] text).getD text := by
  cases found : Text.after? ['.'] text with
  | none => exact ⟨[], .inl rfl, rfl⟩
  | some rest => exact ⟨['.'], .inr rfl, Text.after?_eq_some.mp found⟩

theorem after_stop {stop rest : List Char} (isStop : stop = [] ∨ stop = ['.'])
    (other : rest.head? ≠ some '.') : (Text.after? ['.'] (stop ++ rest)).getD (stop ++ rest) = rest := by
  rcases isStop with rfl | rfl
  · rw [List.nil_append]
    cases found : Text.after? ['.'] rest with
    | none => rfl
    | some more => simp [Text.after?_eq_some.mp found] at other
  · rw [Text.after?_append, Option.getD_some]

theorem missingName?_eq_some_iff {text name : List Char} :
    missingName? text = some name ↔ Announces text name := by
  unfold missingName?
  constructor
  · intro found
    obtain ⟨rest, first, found⟩ := Option.bind_eq_some_iff.mp found
    obtain ⟨tail, second, found⟩ := Option.bind_eq_some_iff.mp found
    obtain ⟨stop, isStop, afterStop⟩ := exists_stop rest
    obtain ⟨gap, blank, afterGap⟩ := Text.exists_gap ((Text.after? ['.'] rest).getD rest)
    dsimp only at found
    split at found
    · cases found
    · next nonempty =>
        have named : Text.firstWord tail ≠ [] := by simpa using nonempty
        obtain ⟨space, after, splits, blanks, solid, ends⟩ := (Text.firstWord_eq_iff named).mp rfl
        cases found
        refine ⟨⟨stop, gap, space, after, ?_, isStop, List.forall_mem_append.mpr ⟨blank, blanks⟩, ends⟩,
          named, solid⟩
        rw [Text.after?_eq_some.mp first, afterStop, afterGap, Text.after?_eq_some.mp second]
        nth_rewrite 1 [splits]
        simp only [List.append_assoc]
  · rintro ⟨⟨stop, gap, space, after, rfl, isStop, blank, ends⟩, named, solid⟩
    obtain ⟨blank, blanks⟩ := List.forall_mem_append.mp blank
    have word := (Text.firstWord_eq_iff named).mpr ⟨space, after, rfl, blanks, solid, ends⟩
    have goesOn : (gap ++ ("for header name:".toList ++ (space ++ (name ++ after)))).head? ≠ some '.' := by
      cases gap with
      | nil => simp
      | cons c gap =>
          have isBlank := blank c List.mem_cons_self
          intro stops
          cases stops
          cases isBlank
    have solidStart (rest : List Char) : Text.trimLeft ("for header name:".toList ++ rest) =
        "for header name:".toList ++ rest := Text.trimLeft_cons (by decide) _
    simp only [List.append_assoc] at word ⊢
    rw [Text.after?_append, Option.bind_eq_bind, Option.bind_some, after_stop isStop goesOn,
      Text.trimLeft_append blank, solidStart, Text.after?_append, Option.bind_some, word]
    exact if_neg (by simpa using named)

theorem not_namesMissing_nil (name : List Char) : ¬NamesMissing [] name := by
  rintro ⟨rest, isSuffix, announces⟩
  cases List.suffix_nil.mp isSuffix
  cases missingName?_eq_some_iff.mpr announces

theorem namesMissing_cons {c : Char} {text name : List Char} :
    NamesMissing (c :: text) name ↔ missingName? (c :: text) = some name ∨ NamesMissing text name := by
  simp only [NamesMissing, List.suffix_cons_iff, or_and_right, exists_or, exists_eq_left,
    missingName?_eq_some_iff]

theorem namesMissing_of_found {text name : List Char} (found : missingInclude? text = some name) :
    NamesMissing text name := by
  fun_induction missingInclude? text with
  | case1 => cases found
  | case2 c rest first missing =>
      cases found
      exact namesMissing_cons.mpr (.inl missing)
  | case3 c rest _ ih => exact namesMissing_cons.mpr (.inr (ih found))

/-- No missing include is overlooked. -/
theorem not_namesMissing_of_none {text : List Char} (none : missingInclude? text = none)
    (name : List Char) : ¬NamesMissing text name := by
  fun_induction missingInclude? text with
  | case1 => exact not_namesMissing_nil name
  | case2 => cases none
  | case3 c rest other ih =>
      rw [namesMissing_cons, other]
      exact not_or.mpr ⟨nofun, ih none⟩

end Shaderc

end ShaderBuild
