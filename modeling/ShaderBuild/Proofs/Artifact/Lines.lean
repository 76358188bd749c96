import ShaderBuild.Artifact.Render

/-! # Lines and rows of artifacts

Artifacts are written line by line, and the words of a shader row by row. No word is lost between rows.
-/

namespace ShaderBuild.Artifact

theorem joinLines_cons (line : List Char) (lines : List (List Char)) :
    joinLines (line :: lines) = line ++ '\n' :: joinLines lines := by
  simp [joinLines]

theorem joinLines_append (left right : List (List Char)) :
    joinLines (left ++ right) = joinLines left ++ joinLines right := List.flatMap_append

theorem lineEnd_joinLines {lines : List (List Char)} (some : lines ≠ []) :
    ['\n'] <:+ joinLines lines := by
  obtain ⟨others, line, rfl⟩ := List.eq_nil_or_concat lines |>.resolve_left some
  rw [List.concat_eq_append, joinLines_append, joinLines_cons]
  exact ⟨joinLines others ++ line, by simp [joinLines]⟩

theorem wordText_of_isWord {word : Int} (isWord : Spirv.isWord word = true) :
    wordText word = '0' :: 'x' :: Text.hexPadded 8 word.toNat := by
  have positive : ¬word < 0 := by
    simp only [Spirv.isWord, Bool.and_eq_true, decide_eq_true_eq] at isWord
    omega
  have same : word.natAbs = word.toNat := by omega
  rw [wordText, if_neg positive, same]
  rfl

/-- Rows have members, and together they are what was cut. -/
theorem rowsAux_spec {α : Type} {size : Nat} (wide : 0 < size) (fuel : Nat) (items : List α)
    (enough : items.length ≤ fuel) :
    (rowsAux size fuel items).flatten = items ∧ ∀ row ∈ rowsAux size fuel items, row ≠ [] := by
  fun_induction rowsAux size fuel items with
  | case1 items => simp_all
  | case2 => simp
  | case3 fuel items some ih =>
      have left : (items.drop size).length ≤ fuel := by
        rw [List.length_drop]
        omega
      obtain ⟨same, members⟩ := ih left
      refine ⟨by rw [List.flatten_cons, same, List.take_append_drop], ?_⟩
      rw [List.forall_mem_cons]
      refine ⟨?_, members⟩
      simp only [ne_eq, List.take_eq_nil_iff]
      exact not_or.mpr ⟨by omega, fun none => some none⟩

theorem rows_spec {α : Type} (items : List α) :
    (rows wordsPerRow items).flatten = items ∧ ∀ row ∈ rows wordsPerRow items, row ≠ [] :=
  rowsAux_spec (by decide) items.length items (Nat.le_refl _)

/-- A way of reading that goes from part to part, and for which blanks and line ends are nothing. -/
structure Piecewise {α : Type} (reads : List Char → List α → Prop) : Prop where
  nil : reads [] []
  append {left right : List Char} {found more : List α} (one : reads left found)
    (other : reads right more) : reads (left ++ right) (found ++ more)
  blank : reads [' '] []
  lineEnd : reads ['\n'] []

namespace Piecewise

variable {α : Type} {reads : List Char → List α → Prop} (piecewise : Piecewise reads)

include piecewise

theorem flatMap {β : Type} {render : β → List Char} {found : β → List α} {items : List β}
    (each : ∀ item ∈ items, reads (render item) (found item)) :
    reads (items.flatMap render) (items.flatMap found) := by
  induction items with
  | nil => exact piecewise.nil
  | cons item items ih =>
      obtain ⟨first, others⟩ := List.forall_mem_cons.mp each
      exact piecewise.append first (ih others)

theorem indented {text : List Char} {found : List α} (inside : reads text found) :
    reads ("    ".toList ++ text) found :=
  have before {text : List Char} (inside : reads text found) : reads (' ' :: text) found :=
    piecewise.append piecewise.blank inside
  before (before (before (before inside)))

variable {found : Int → List α} {words : List Int}

theorem row (some : words ≠ []) (each : ∀ word ∈ words, reads (wordText word ++ [',']) (found word)) :
    reads (rowText words ++ ['\n']) (words.flatMap found) := by
  have inside : reads (Text.joinWith [',', ' '] (words.map wordText) ++ [','])
      (words.flatMap found) := by
    induction words with
    | nil => exact absurd rfl some
    | cons word words ih =>
        obtain ⟨first, others⟩ := List.forall_mem_cons.mp each
        cases words with
        | nil => simpa [Text.joinWith] using first
        | cons second words =>
            have rest := ih (List.cons_ne_nil _ _) others
            have whole := piecewise.append first (piecewise.append piecewise.blank rest)
            simpa [Text.joinWith] using whole
  have line := piecewise.append (piecewise.indented inside) piecewise.lineEnd
  rwa [List.append_nil, ← List.append_assoc "    ".toList] at line

/-- However words are cut into rows, they are read one after another: every row ends in a comma, so it
    does not show where a row was cut. -/
theorem wordRows (each : ∀ word ∈ words, reads (wordText word ++ [',']) (found word)) :
    reads (joinLines (wordRows words)) (words.flatMap found) := by
  obtain ⟨whole, members⟩ := rows_spec words
  have eachRow : ∀ row ∈ rows wordsPerRow words, reads (rowText row ++ ['\n']) (row.flatMap found) := by
    intro row member
    refine piecewise.row (members row member) fun word inRow => each word ?_
    rw [← whole]
    exact List.mem_flatten_of_mem member inRow
  have texts : (rows wordsPerRow words).flatMap (fun row => rowText row ++ ['\n']) =
      joinLines (Artifact.wordRows words) := by
    rw [joinLines, Artifact.wordRows, List.flatMap_map]
  have all : (rows wordsPerRow words).flatMap (fun row => row.flatMap found) = words.flatMap found := by
    conv => rhs; rw [← whole]
    rw [List.flatten_eq_flatMap, List.flatMap_assoc]
    rfl
  rw [← texts, ← all]
  exact piecewise.flatMap eachRow

end Piecewise

end ShaderBuild.Artifact
