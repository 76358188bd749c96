import Mathlib.Data.Nat.Digits.Defs
import ShaderBuild.Proofs.Artifact.Lines
import ShaderBuild.Proofs.Text.Hexadecimal
import ShaderBuild.Proofs.Text.Parts

/-! # Reading C headers

As much of a header as says what a file gets from including it: the macro that guards it against being
included twice, and the constants that it declares. Comments say nothing, and whatever the paths in the
comment of a generated header are, the comment ends where it was meant to.

Words are not looked at further: no macro is replaced, and a reserved word is a name like any other. So a
constant called `int`, or like the guard of a header that was read before, counts as declared here, which a
compiler does not accept.
-/

namespace ShaderBuild

namespace Header

open Text

/-- A text with a blank for each of its comments. `inside` says whether one is open. -/
def uncomment : (inside : Bool) → List Char → List Char
  | _, [] => []
  | true, '*' :: '/' :: rest => ' ' :: uncomment false rest
  | true, _ :: rest => uncomment true rest
  | false, '/' :: '*' :: rest => uncomment true rest
  | false, c :: rest => c :: uncomment false rest

theorem uncomment_open (rest : List Char) :
    uncomment false ('/' :: '*' :: rest) = uncomment true rest := rfl

theorem uncomment_close (rest : List Char) :
    uncomment true ('*' :: '/' :: rest) = ' ' :: uncomment false rest := rfl

theorem uncomment_lineEnd (rest : List Char) :
    uncomment false ('\n' :: rest) = '\n' :: uncomment false rest := rfl

/-- What a file gets from a header. -/
structure Reading where
  /-- The macro that is defined once the header has been read, and without which it is read. -/
  guard : List Char
  /-- The constants, in their order. -/
  declared : List (List Char)
  deriving Repr, DecidableEq

def isBlankLine (line : List Char) : Bool := line.all (· == ' ')

/-- The name of the constant that a line declares. One word stands for its type. -/
def declared? (line : List Char) : Option (List Char) :=
  (after? "static const ".toList line).map fun rest =>
    ((rest.dropWhile (· ≠ ' ')).drop 1).takeWhile Artifact.isSymbolPart

/-- The macro that guards a header: its first line asks for it, the next one defines it, and the last
    line ends what the first one began. -/
def guard? (lines : List (List Char)) : Option (List Char) :=
  match lines.filter fun line => !isBlankLine line with
  | first :: second :: rest => do
    let asked ← after? "#ifndef ".toList first
    let defined ← after? "#define ".toList second
    let last ← rest.getLast?
    let _ ← after? "#endif".toList last
    if asked = defined then some asked else none
  | _ => none

def readLines (lines : List (List Char)) : Option Reading :=
  (guard? lines).map fun guard => ⟨guard, lines.filterMap declared?⟩

/-- Read a header. -/
def readHeader (text : List Char) : Option Reading :=
  readLines ((uncomment false text).splitOnP (· == '\n'))

/-- The constants that a file gets which includes headers one after another. A header whose guard is
    defined already gives none. A guard that is defined is not replaced where a later header declares a
    constant of that name. -/
def included (defined : List (List Char)) : List Reading → List (List Char)
  | [] => []
  | header :: others =>
    if header.guard ∈ defined then included defined others
    else header.declared ++ included (header.guard :: defined) others

theorem included_of_fresh {defined : List (List Char)} {headers : List Reading}
    (distinct : (headers.map (·.guard)).Nodup) (fresh : ∀ header ∈ headers, header.guard ∉ defined) :
    included defined headers = headers.flatMap (·.declared) := by
  induction headers generalizing defined with
  | nil => rfl
  | cons header others ih =>
      obtain ⟨new, distinct⟩ := List.nodup_cons.mp distinct
      obtain ⟨first, rest⟩ := List.forall_mem_cons.mp fresh
      have still : ∀ other ∈ others, other.guard ∉ header.guard :: defined := by
        intro other member again
        rcases List.mem_cons.mp again with same | earlier
        · exact new (List.mem_map.mpr ⟨other, member, same⟩)
        · exact rest other member earlier
      rw [included, if_neg first, ih distinct still, List.flatMap_cons]

/-! ## Comments -/

/-- A text that a comment goes on through, whatever follows. -/
def Continues (text : List Char) : Prop :=
  ∀ rest, uncomment true (text ++ rest) = uncomment true rest

theorem Continues.append {left right : List Char} (one : Continues left) (other : Continues right) :
    Continues (left ++ right) := by
  intro rest
  rw [List.append_assoc, one, other]

theorem Continues.flatMap {α : Type} {render : α → List Char} {items : List α}
    (each : ∀ item ∈ items, Continues (render item)) : Continues (items.flatMap render) := by
  induction items with
  | nil => exact fun _ => rfl
  | cons item items ih =>
      obtain ⟨first, others⟩ := List.forall_mem_cons.mp each
      exact first.append (ih others)

theorem uncomment_inside {c : Char} {rest : List Char} (goes : c = '*' → rest.head? ≠ some '/') :
    uncomment true (c :: rest) = uncomment true rest := by
  by_cases star : c = '*'
  · subst star
    cases rest with
    | nil => rfl
    | cons next rest =>
        have other : next ≠ '/' := by simpa using goes rfl
        exact uncomment.eq_3 _ _ fun _ _ same => other (List.cons.inj same).1
  · exact uncomment.eq_3 _ _ fun _ same _ => star same

theorem Continues.of_no_star {text : List Char} (without : '*' ∉ text) : Continues text := by
  induction text with
  | nil => exact fun _ => rfl
  | cons c text ih =>
      obtain ⟨first, others⟩ := not_or.mp (mt List.mem_cons.mpr without)
      intro rest
      rw [List.cons_append, uncomment_inside fun star => absurd star.symm first, ih others]

theorem head?_replaceAux {fuel : Nat} {text : List Char} (enough : text.length ≤ fuel) :
    (replaceAux ['*', '/'] ['*', ' ', '/'] fuel text).head? = text.head? := by
  cases fuel with
  | zero => rfl
  | succ fuel =>
      cases text with
      | nil => rfl
      | cons c rest =>
          rw [replaceAux]
          split
          · next found =>
              rw [after?_eq_some.mp found]
              rfl
          · rfl

theorem uncomment_replaceAux {fuel : Nat} {text : List Char} (enough : text.length ≤ fuel)
    (rest : List Char) :
    uncomment true (replaceAux ['*', '/'] ['*', ' ', '/'] fuel text ++ '\n' :: rest) =
      uncomment true rest := by
  induction fuel generalizing text with
  | zero =>
      rw [List.eq_nil_of_length_eq_zero (Nat.le_zero.mp enough)]
      exact uncomment_inside fun star => by cases star
  | succ fuel ih =>
      cases text with
      | nil => exact uncomment_inside fun star => by cases star
      | cons c text =>
          have shorter : text.length ≤ fuel := Nat.le_of_succ_le_succ enough
          rw [replaceAux]
          split
          · next tail found =>
              have left : tail.length ≤ fuel := by
                have length := congrArg List.length (after?_eq_some.mp found)
                simp only [List.length_cons, List.cons_append, List.nil_append] at length
                omega
              have after := ih left
              show uncomment true ('*' :: ' ' :: '/' :: (_ ++ '\n' :: rest)) = _
              rw [uncomment_inside (by simp), uncomment_inside (by simp), uncomment_inside (by simp)]
              exact after
          · next none =>
              -- A star that stays is followed by what followed it in the text, which is no slash.
              rw [List.cons_append, uncomment_inside, ih shorter]
              rintro rfl
              rw [List.head?_append, head?_replaceAux shorter]
              cases text with
              | nil => simp
              | cons next text =>
                  rintro same
                  have slash : next = '/' := by simpa using same
                  simp [after?, slash] at none

/-- A comment goes on through a path in which no comment ends. -/
theorem continues_commentSafe (path : List Char) : Continues (Artifact.commentSafe path ++ ['\n']) := by
  intro rest
  rw [List.append_assoc]
  exact uncomment_replaceAux (Nat.le_refl _) rest

/-! ## Lines -/

def Plain (line : List Char) : Prop := ∀ c ∈ line, c ≠ '/' ∧ c ≠ '\n'

instance (line : List Char) : Decidable (Plain line) :=
  List.decidableBAll _ line

theorem Plain.append {left right : List Char} (one : Plain left) (other : Plain right) :
    Plain (left ++ right) := by
  intro c member
  exact (List.mem_append.mp member).elim (one c) (other c)

theorem uncomment_plain {text : List Char} (plain : Plain text) (rest : List Char) :
    uncomment false (text ++ rest) = text ++ uncomment false rest := by
  induction text with
  | nil => rfl
  | cons c text ih =>
      obtain ⟨⟨noSlash, _⟩, others⟩ := List.forall_mem_cons.mp plain
      rw [List.cons_append, uncomment.eq_5 _ _ fun _ same _ => noSlash same, ih others,
        List.cons_append]

theorem uncomment_joinLines {lines : List (List Char)} (plain : ∀ line ∈ lines, Plain line)
    (rest : List Char) :
    uncomment false (Artifact.joinLines lines ++ rest) =
      Artifact.joinLines lines ++ uncomment false rest := by
  induction lines with
  | nil => rfl
  | cons line lines ih =>
      obtain ⟨first, others⟩ := List.forall_mem_cons.mp plain
      rw [Artifact.joinLines_cons, List.append_assoc, uncomment_plain first, List.cons_append,
        uncomment_lineEnd, ih others, List.append_assoc, List.cons_append]

theorem splitOnP_joinLines {lines : List (List Char)} (plain : ∀ line ∈ lines, Plain line) :
    (Artifact.joinLines lines).splitOnP (· == '\n') = lines ++ [[]] := by
  induction lines with
  | nil => rfl
  | cons line lines ih =>
      obtain ⟨first, others⟩ := List.forall_mem_cons.mp plain
      have unbroken : ∀ c ∈ line, (c == '\n') = false := fun c member => by simp [(first c member).2]
      rw [Artifact.joinLines_cons, List.splitOnP_append_cons_of_forall_mem unbroken '\n' rfl, ih others,
        List.cons_append]

theorem plain_digits {text : List Char} (digits : ∀ c ∈ text, ∃ digit < 16, c = digit.digitChar) :
    Plain text := by
  intro c member
  obtain ⟨digit, small, rfl⟩ := digits c member
  have all : ∀ digit < 16, digit.digitChar ≠ '/' ∧ digit.digitChar ≠ '\n' := by decide
  exact all digit small

theorem plain_wordText (word : Int) : Plain (Artifact.wordText word) := by
  have digits (width n : Nat) : Plain (hexPadded width n) :=
    plain_digits (exists_digit_of_mem_hexPadded width n)
  have start : Plain ['0', 'x'] := by decide
  have sign : Plain ['-'] := by decide
  unfold Artifact.wordText
  split
  · exact start.append (sign.append (digits _ _))
  · exact start.append (digits _ _)

theorem plain_joinWith {sep : List Char} {pieces : List (List Char)} (between : Plain sep)
    (plain : ∀ piece ∈ pieces, Plain piece) : Plain (joinWith sep pieces) := by
  fun_induction joinWith sep pieces with
  | case1 => exact fun _ none => absurd none List.not_mem_nil
  | case2 piece => exact plain piece List.mem_cons_self
  | case3 piece pieces _ ih =>
      obtain ⟨first, others⟩ := List.forall_mem_cons.mp plain
      exact (first.append between).append (ih others)

theorem plain_rowText (words : List Int) : Plain (Artifact.rowText words) := by
  have row : Plain (joinWith [',', ' '] (words.map Artifact.wordText)) := by
    refine plain_joinWith (by decide) fun piece member => ?_
    obtain ⟨word, _, rfl⟩ := List.mem_map.mp member
    exact plain_wordText word
  exact (Plain.append (by decide) row).append (by decide)

theorem plain_toDigits (n : Nat) : Plain (Nat.toDigits 10 n) := by
  refine plain_digits fun c member => ?_
  obtain ⟨digit, small, same⟩ := exists_digit_of_mem_toDigits (by decide) n c member
  exact ⟨digit, by omega, same⟩

end Header

end ShaderBuild
