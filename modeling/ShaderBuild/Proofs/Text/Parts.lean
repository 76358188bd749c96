import Mathlib.Data.List.Infix
import Mathlib.Data.List.TakeWhile
import ShaderBuild.Text.Blank

/-! # Parts of a text

What a text starts with, what occurs in it, and which word is its first.
-/

namespace ShaderBuild.Text

@[simp] theorem isBlank_space : isBlank ' ' = true := rfl
@[simp] theorem isBlank_lineFeed : isBlank '\n' = true := rfl
@[simp] theorem isBlank_backslash : isBlank '\\' = false := rfl
@[simp] theorem isBlank_slash : isBlank '/' = false := rfl
@[simp] theorem isBlank_dollar : isBlank '$' = false := rfl
@[simp] theorem isBlank_hash : isBlank '#' = false := rfl

theorem after?_eq_some {lead text after : List Char} :
    after? lead text = some after ↔ text = lead ++ after := by
  induction lead generalizing text with
  | nil => simp [after?]
  | cons l lead ih =>
      cases text with
      | nil => simp [after?]
      | cons c text =>
          by_cases same : l = c
          · simp [after?, same, ih]
          · simp [after?, same, Ne.symm same]

theorem after?_append (lead rest : List Char) : after? lead (lead ++ rest) = some rest :=
  after?_eq_some.mpr rfl

theorem after?_cons_of_ne {l c : Char} (differ : l ≠ c) (lead rest : List Char) :
    after? (l :: lead) (c :: rest) = none := by
  simp [after?, differ]

theorem length_after?_le {lead text after : List Char} (found : after? lead text = some after) :
    after.length ≤ text.length := by
  rw [after?_eq_some.mp found, List.length_append]
  exact Nat.le_add_left _ _

theorem isSome_after? {lead text : List Char} : (after? lead text).isSome ↔ lead <+: text := by
  rw [Option.isSome_iff_exists]
  constructor
  · rintro ⟨after, found⟩
    exact ⟨after, (after?_eq_some.mp found).symm⟩
  · rintro ⟨after, rfl⟩
    exact ⟨after, after?_append lead after⟩

theorem occursIn_iff {part text : List Char} : occursIn part text = true ↔ part <:+: text := by
  induction text with
  | nil => simp [occursIn]
  | cons c rest ih => rw [occursIn, Bool.or_eq_true, isSome_after?, ih, List.infix_cons_iff]

theorem forall_of_all {p : Char → Prop} [DecidablePred p] {text : List Char}
    (all : (text.all fun c => p c) = true) : ∀ c ∈ text, p c := by
  simpa using all

/-- A run of characters of one class ends where the next character is of another one. -/
theorem takeWhile_append_of_next {p : Char → Bool} {run after : List Char} (all : ∀ c ∈ run, p c = true)
    (next : ∀ c ∈ after.head?, p c = false) :
    (run ++ after).takeWhile p = run ∧ (run ++ after).dropWhile p = after := by
  rw [List.takeWhile_append_of_pos all, List.dropWhile_append_of_pos all]
  cases after with
  | nil => simp
  | cons c after => simp [next c rfl]

theorem takeWhile_upTo {p : Char → Bool} {text : List Char} (all : ∀ c ∈ text, p c = true) {c : Char}
    (stops : p c = false) (rest : List Char) : (text ++ c :: rest).takeWhile p = text :=
  (takeWhile_append_of_next all (by simpa using stops)).1

theorem dropWhile_upTo {p : Char → Bool} {text : List Char} (all : ∀ c ∈ text, p c = true) {c : Char}
    (stops : p c = false) (rest : List Char) : (text ++ c :: rest).dropWhile p = c :: rest :=
  (takeWhile_append_of_next all (by simpa using stops)).2

theorem not_of_head?_dropWhile {p : Char → Bool} {text : List Char} {c : Char}
    (next : c ∈ (text.dropWhile p).head?) : p c = false := by
  have stops := List.head?_dropWhile_not p text
  rw [Option.mem_def.mp next] at stops
  simpa using stops

/-! ## Gaps and words -/

theorem trimLeft_append {gap : List Char} (blank : ∀ c ∈ gap, isBlank c = true) (rest : List Char) :
    trimLeft (gap ++ rest) = trimLeft rest :=
  List.dropWhile_append_of_pos blank

theorem trimLeft_cons {c : Char} (solid : isBlank c = false) (rest : List Char) :
    trimLeft (c :: rest) = c :: rest := by
  rw [trimLeft, List.dropWhile_cons_of_neg (by simp [solid])]

theorem exists_gap (text : List Char) :
    ∃ gap, (∀ c ∈ gap, isBlank c = true) ∧ text = gap ++ trimLeft text :=
  ⟨text.takeWhile isBlank, fun _ => List.mem_takeWhile_imp, List.takeWhile_append_dropWhile.symm⟩

/-- A word is the first of a text if only blanks stand before it and the next character is blank too. -/
theorem firstWord_eq_iff {text word : List Char} (some : word ≠ []) :
    firstWord text = word ↔ ∃ gap after, text = gap ++ word ++ after ∧ (∀ c ∈ gap, isBlank c = true) ∧
      (∀ c ∈ word, isBlank c = false) ∧ ∀ c ∈ after.head?, isBlank c = true := by
  constructor
  · rintro rfl
    obtain ⟨gap, blank, same⟩ := exists_gap text
    refine ⟨gap, (trimLeft text).dropWhile fun c => !isBlank c, ?_, blank, fun c member => ?_,
      fun c next => ?_⟩
    · rw [firstWord, List.append_assoc, List.takeWhile_append_dropWhile, ← same]
    · simpa using List.mem_takeWhile_imp member
    · have stops := List.head?_dropWhile_not (fun c => !isBlank c) (trimLeft text)
      rw [Option.mem_def.mp next] at stops
      simpa using stops
  · rintro ⟨gap, after, rfl, blank, solid, ends⟩
    obtain ⟨c, rest, rfl⟩ := List.exists_cons_of_ne_nil some
    rw [firstWord, List.append_assoc, trimLeft_append blank, List.cons_append,
      trimLeft_cons (solid c List.mem_cons_self), ← List.cons_append,
      List.takeWhile_append_of_pos (by simpa using solid)]
    cases after with
    | nil => simp
    | cons d after => rw [List.takeWhile_cons_of_neg (by simp [ends d rfl]), List.append_nil]

/-! ## Pieces -/

theorem splitAt_ne_nil (sep : Char) (text : List Char) : splitAt sep text ≠ [] := by
  fun_induction splitAt sep text <;> simp

theorem splitAt_cons_sep (sep : Char) (rest : List Char) :
    splitAt sep (sep :: rest) = [] :: splitAt sep rest := by
  rw [splitAt]
  split
  · next none => exact absurd none (splitAt_ne_nil sep rest)
  · next same => rw [if_pos rfl, same]

theorem splitAt_append_sep (sep : Char) (text rest : List Char) :
    splitAt sep (text ++ sep :: rest) = splitAt sep text ++ splitAt sep rest := by
  induction text with
  | nil => exact splitAt_cons_sep sep rest
  | cons c text ih =>
      rw [List.cons_append, splitAt, splitAt, ih]
      cases found : splitAt sep text with
      | nil => exact absurd found (splitAt_ne_nil sep text)
      | cons piece pieces =>
          simp only [List.cons_append]
          split <;> rfl

theorem splitAt_of_not_mem {sep : Char} {text : List Char} (without : sep ∉ text) :
    splitAt sep text = [text] := by
  induction text with
  | nil => rfl
  | cons c text ih =>
      obtain ⟨differ, rest⟩ := not_or.mp (mt List.mem_cons.mpr without)
      rw [splitAt, ih rest]
      exact if_neg (Ne.symm differ)

/-- What holds of a text without separators, and of a text behind a separator if it holds of what follows,
    holds of every text. -/
@[elab_as_elim]
theorem pieces_induction {motive : List Char → Prop} (sep : Char) (text : List Char)
    (last : ∀ piece, sep ∉ piece → motive piece)
    (more : ∀ piece rest, sep ∉ piece → motive rest → motive (piece ++ sep :: rest)) : motive text := by
  by_cases inside : sep ∈ text
  · obtain ⟨piece, rest, rfl, without⟩ := List.eq_append_cons_of_mem inside
    exact more piece rest without (pieces_induction sep rest last more)
  · exact last text inside
termination_by text.length

theorem splitAt_piece {sep : Char} {piece : List Char} (without : sep ∉ piece) (rest : List Char) :
    splitAt sep (piece ++ sep :: rest) = piece :: splitAt sep rest := by
  rw [splitAt_append_sep, splitAt_of_not_mem without, List.singleton_append]

theorem joinWith_eq_intercalate (sep : List Char) (pieces : List (List Char)) :
    joinWith sep pieces = sep.intercalate pieces := by
  fun_induction joinWith sep pieces with
  | case1 | case2 => simp
  | case3 piece pieces some ih =>
      obtain ⟨next, others, rfl⟩ := List.exists_cons_of_ne_nil some
      rw [ih, List.intercalate_cons_cons]

/-- A separator stands between the pieces, not in them. -/
theorem not_mem_of_mem_splitAt {sep : Char} {text piece : List Char} (member : piece ∈ splitAt sep text) :
    sep ∉ piece := by
  induction text using pieces_induction sep with
  | last text without =>
      rw [splitAt_of_not_mem without, List.mem_singleton] at member
      exact member ▸ without
  | more first rest without ih =>
      rw [splitAt_piece without] at member
      rcases List.mem_cons.mp member with rfl | member
      · exact without
      · exact ih member

end ShaderBuild.Text
