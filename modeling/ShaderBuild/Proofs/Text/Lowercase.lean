import ShaderBuild.Proofs.Text.Parts
import ShaderBuild.Text.Lowercase

/-! # Looking for a word in any letter case

A text in lower case holds a word exactly where the text itself holds it in some letter case. Only
letters of the basic alphabet become such letters, apart from the Kelvin sign and from a capital i with
a dot, whose dot stays behind the letter.
-/

namespace ShaderBuild.Text

/-- A small letter that no character but itself and its capital becomes. -/
def isOwnLetter (c : Char) : Bool := c.isLower && c != 'k'

/-- A word that a text in lower case holds only where the text holds it in some letter case. -/
structure IsPlainWord (word : List Char) : Prop where
  letters : ∀ letter ∈ word, isOwnLetter letter = true
  ending : word.getLast? ≠ some 'i'

def HoldsWord (word text : List Char) : Prop := ∃ part, part <:+: text ∧ part.map Char.toLower = word

theorem toNat_of_isOwnLetter {c : Char} (own : isOwnLetter c = true) : 97 ≤ c.toNat ∧ c.toNat ≤ 122 := by
  have lower : c.isLower = true := (Bool.and_eq_true_iff.mp own).1
  delta Char.isLower at lower
  simpa [UInt32.le_iff_toNat_le, ← Char.toNat_val] using lower

theorem toLower_of_large {c : Char} (large : 0x80 ≤ c.toNat) : c.toLower = c := by
  unfold Char.toLower
  split
  · next upper =>
      have bound : c.toNat ≤ 90 := upper.2
      omega
  · rfl

/-! ## Letters -/

/-- Every run but that of the Kelvin sign stays out of the basic alphabet. -/
theorem caseRuns_large : ∀ run ∈ caseRuns, run.first = 0x212A ∧ run.last = 0x212A ∧ run.shift = -8383 ∨
    0x80 ≤ (run.first : Int) + run.shift := by
  decide +kernel

/-- No character beyond the basic alphabet becomes an own letter of another, but for the one that becomes
    two characters. -/
theorem lowerChar_of_large {c : Char} (large : 0x80 ≤ c.toNat) (single : c.toNat ≠ 0x130) :
    ∃ d, lowerChar c = [d] ∧ isOwnLetter d = false := by
  have notOwn (d : Char) (far : 0x80 ≤ d.toNat ∨ d = 'k' ∨ d = '\x00') : isOwnLetter d = false := by
    rcases far with far | rfl | rfl
    · rw [Bool.eq_false_iff]
      intro own
      have := toNat_of_isOwnLetter own
      omega
    · decide
    · decide
  rw [lowerChar, if_neg (Nat.not_lt.mpr large), if_neg single]
  split
  · next run found =>
      have member := List.mem_of_find?_eq_some found
      have covers : run.covers c.toNat = true :=
        List.find?_some (p := fun run : CaseRun => run.covers c.toNat) found
      simp only [CaseRun.covers, Bool.and_eq_true, decide_eq_true_eq] at covers
      obtain ⟨⟨first, last⟩, _⟩ := covers
      refine ⟨_, rfl, notOwn _ ?_⟩
      rcases caseRuns_large run member with ⟨kelvin, same, shift⟩ | far
      · have code : c.toNat = 0x212A := by omega
        refine .inr (.inl ?_)
        rw [code, shift]
        rfl
      · generalize lowered : ((c.toNat : Int) + run.shift).toNat = code
        have reaches : 0x80 ≤ code := by omega
        by_cases valid : code.isValidChar
        · refine .inl ?_
          rw [Char.ofNat, dif_pos valid]
          exact reaches
        · refine .inr (.inr ?_)
          rw [Char.ofNat, dif_neg valid]
          rfl
  · exact ⟨c, rfl, notOwn c (.inl large)⟩

/-- What becomes of one character in a text: a small letter, no own letter, or an i with a dot behind. -/
theorem lowerBetween_cases (before : List Char) (c : Char) (after : List Char) :
    lowerBetween before c after = [c.toLower] ∨
      isOwnLetter c.toLower = false ∧
        ((∃ d, lowerBetween before c after = [d] ∧ isOwnLetter d = false) ∨
          lowerBetween before c after = ['i', '\u0307']) := by
  by_cases small : c.toNat < 0x80
  · have noSigma : c ≠ 'Σ' := by rintro rfl; revert small; decide
    refine .inl ?_
    rw [lowerBetween, if_neg fun sigma => noSigma sigma.1, lowerChar, if_pos small]
  · have large := Nat.not_lt.mp small
    refine .inr ⟨?_, ?_⟩
    · rw [toLower_of_large large, Bool.eq_false_iff]
      intro own
      have := toNat_of_isOwnLetter own
      omega
    · unfold lowerBetween
      split
      · exact .inl ⟨'ς', rfl, by decide⟩
      · by_cases dotted : c.toNat = 0x130
        · exact .inr (by rw [lowerChar, if_neg small, if_pos dotted])
        · exact .inl (lowerChar_of_large large dotted)

/-! ## Words -/

theorem IsPlainWord.tail {letter : Char} {word : List Char} (plain : IsPlainWord (letter :: word)) :
    IsPlainWord word where
  letters := fun other member => plain.letters other (List.mem_cons_of_mem _ member)
  ending := by
    cases word with
    | nil => simp
    | cons => simpa [List.getLast?_cons_cons] using plain.ending

theorem not_prefix_of_ne {letter c : Char} {word text : List Char} (differ : letter ≠ c) :
    ¬letter :: word <+: c :: text := fun isPrefix => differ (List.cons_prefix_cons.mp isPrefix).1

theorem ne_of_notOwn {letter c : Char} (own : isOwnLetter letter = true) (other : isOwnLetter c = false) :
    letter ≠ c := by
  rintro rfl
  rw [own] at other
  cases other

theorem IsPlainWord.not_prefix_dotted {word : List Char} (plain : IsPlainWord word) (some : word ≠ [])
    (text : List Char) : ¬word <+: 'i' :: '\u0307' :: text := by
  intro isPrefix
  match word, some with
  | [letter], _ =>
      obtain ⟨rfl, _⟩ := List.cons_prefix_cons.mp isPrefix
      exact plain.ending rfl
  | _ :: second :: _, _ =>
      have rest := (List.cons_prefix_cons.mp isPrefix).2
      have own := plain.letters second (List.mem_cons_of_mem _ List.mem_cons_self)
      exact not_prefix_of_ne (ne_of_notOwn own (by decide)) rest

theorem prefix_lowerAfter {word : List Char} (plain : IsPlainWord word) (before text : List Char) :
    word <+: lowerAfter before text ↔ ∃ part, part <+: text ∧ part.map Char.toLower = word := by
  induction word generalizing before text with
  | nil => exact ⟨fun _ => ⟨[], List.nil_prefix, rfl⟩, fun _ => List.nil_prefix⟩
  | cons letter word ih =>
      have own := plain.letters letter List.mem_cons_self
      cases text with
      | nil => simp [lowerAfter]
      | cons c text =>
          -- What holds the word in some letter case starts with the letter in some letter case.
          have starts : (∃ part, part <+: c :: text ∧ part.map Char.toLower = letter :: word) ↔
              letter = c.toLower ∧ ∃ part, part <+: text ∧ part.map Char.toLower = word := by
            constructor
            · rintro ⟨part, isPrefix, same⟩
              cases part with
              | nil => cases same
              | cons d part =>
                  obtain ⟨rfl, rest⟩ := List.cons_prefix_cons.mp isPrefix
                  obtain ⟨first, others⟩ := List.cons.inj same
                  exact ⟨first.symm, part, rest, others⟩
            · rintro ⟨rfl, part, isPrefix, rfl⟩
              exact ⟨c :: part, List.cons_prefix_cons.mpr ⟨rfl, isPrefix⟩, rfl⟩
          rw [starts, lowerAfter]
          rcases lowerBetween_cases before c text with same | ⟨notOwn, ⟨d, same, other⟩ | same⟩
          · rw [same, List.singleton_append, List.cons_prefix_cons, ih plain.tail]
          · rw [same, List.singleton_append]
            exact iff_of_false (not_prefix_of_ne (ne_of_notOwn own other))
              fun first => ne_of_notOwn own notOwn first.1
          · rw [same]
            exact iff_of_false (plain.not_prefix_dotted (List.cons_ne_nil _ _) _)
              fun first => ne_of_notOwn own notOwn first.1

theorem infix_lowerAfter {word : List Char} (plain : IsPlainWord word) (some : word ≠ [])
    (before text : List Char) : word <:+: lowerAfter before text ↔ HoldsWord word text := by
  induction text generalizing before with
  | nil => simp [lowerAfter, HoldsWord, some, eq_comm]
  | cons c text ih =>
      have splits : HoldsWord word (c :: text) ↔
          word <+: lowerAfter before (c :: text) ∨ HoldsWord word text := by
        simp only [prefix_lowerAfter plain, HoldsWord, List.infix_cons_iff, or_and_right, exists_or]
      rw [splits, ← ih (c :: before), lowerAfter]
      have single (d : Char) : word <:+: [d] ++ lowerAfter (c :: before) text ↔
          word <+: [d] ++ lowerAfter (c :: before) text ∨ word <:+: lowerAfter (c :: before) text :=
        List.infix_cons_iff
      rcases lowerBetween_cases before c text with same | ⟨_, ⟨d, same, _⟩ | same⟩
      · rw [same, single]
      · rw [same, single]
      · rw [same]
        obtain ⟨letter, rest, rfl⟩ := List.exists_cons_of_ne_nil some
        have own := plain.letters letter List.mem_cons_self
        have notDot : ¬letter :: rest <+: '\u0307' :: lowerAfter (c :: before) text :=
          not_prefix_of_ne (ne_of_notOwn own (by decide))
        have notDotted := plain.not_prefix_dotted some (lowerAfter (c :: before) text)
        simp only [List.cons_append, List.nil_append, List.infix_cons_iff, notDot, notDotted, false_or]

/-- Looking for a word in the lower-case form of a text finds it in any letter case. -/
theorem occursIn_lower_iff {word : List Char} (plain : IsPlainWord word) (some : word ≠ [])
    (text : List Char) : occursIn word (lower text) = true ↔ HoldsWord word text := by
  rw [occursIn_iff, lower, infix_lowerAfter plain some]

example : HoldsWord "warning".toList "WaRNing: unused".toList :=
  ⟨"WaRNing".toList, by decide, by decide⟩

/-! ## Trimming -/

theorem infix_dropWhile {part text : List Char} {p : Char → Bool} (none : ∀ c ∈ part, p c = false) :
    part <:+: text.dropWhile p ↔ part <:+: text := by
  induction text with
  | nil => rfl
  | cons c text ih =>
      by_cases drops : p c = true
      · rw [List.dropWhile_cons_of_pos drops, ih, List.infix_cons_iff]
        constructor
        · exact .inr
        · rintro (isPrefix | isInfix)
          · cases part with
            | nil => exact List.nil_infix
            | cons d part =>
                obtain ⟨rfl, _⟩ := List.cons_prefix_cons.mp isPrefix
                rw [none d List.mem_cons_self] at drops
                cases drops
          · exact isInfix
      · rw [List.dropWhile_cons_of_neg drops]

theorem infix_trim {part text : List Char} (noBlank : ∀ c ∈ part, isBlank c = false) :
    part <:+: trim text ↔ part <:+: text := by
  have reversed : ∀ c ∈ part.reverse, isBlank c = false := fun c member =>
    noBlank c (List.mem_reverse.mp member)
  rw [trim, trimRight, dropWhileEnd, ← List.reverse_infix, List.reverse_reverse,
    infix_dropWhile reversed, List.reverse_infix, trimLeft, infix_dropWhile noBlank]

theorem isBlank_of_toLower {c : Char} (own : isOwnLetter c.toLower = true) : isBlank c = false := by
  have bounds : 65 ≤ c.toNat ∧ c.toNat ≤ 122 := by
    have lowered := toNat_of_isOwnLetter own
    unfold Char.toLower at lowered
    split at lowered
    · next upper =>
        have first : 65 ≤ c.toNat := upper.1
        have last : c.toNat ≤ 90 := upper.2
        omega
    · omega
  rw [isBlank, Ranges.contains, List.any_eq_false]
  intro range member within
  simp only [Bool.and_eq_true, decide_eq_true_eq] at within
  have outside : ∀ range ∈ blankRanges, range.2 < 65 ∨ 122 < range.1 := by decide
  have := outside range member
  omega

/-- A word stands in a text if it stands between its blank ends. -/
theorem holdsWord_trim {word : List Char} (plain : IsPlainWord word) (text : List Char) :
    HoldsWord word (trim text) ↔ HoldsWord word text := by
  refine exists_congr fun part => and_congr_left fun same => infix_trim fun c member => ?_
  refine isBlank_of_toLower (plain.letters _ ?_)
  rw [← same]
  exact List.mem_map_of_mem member

end ShaderBuild.Text
