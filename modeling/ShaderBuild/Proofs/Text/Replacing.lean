import ShaderBuild.Proofs.Text.Parts

/-! # Replacing parts of a text

A replacement goes through a text from the left: where the part stands it is replaced, and every other
character is kept. So text in which the part cannot begin is passed over as it is.
-/

namespace ShaderBuild.Text

variable {part new : List Char}

/-- Fuel for every character is enough, and more of it changes nothing. -/
theorem replaceAux_of_le (some : part ≠ []) {fuel : Nat} {text : List Char}
    (enough : text.length ≤ fuel) : replaceAux part new fuel text = replace part new text := by
  have same : ∀ one other text, text.length ≤ one → text.length ≤ other →
      replaceAux part new one text = replaceAux part new other text := by
    intro one
    induction one with
    | zero =>
        intro other text none _
        obtain rfl := List.length_eq_zero_iff.mp (Nat.le_zero.mp none)
        cases other <;> rfl
    | succ one ih =>
        intro other text first second
        cases text with
        | nil => cases other <;> rfl
        | cons c rest =>
            obtain ⟨other, rfl⟩ := Nat.exists_eq_add_one.mpr (Nat.lt_of_lt_of_le (Nat.succ_pos _) second)
            simp only [List.length_cons] at first second
            simp only [replaceAux]
            split
            · next tail found =>
                have length := congrArg List.length (after?_eq_some.mp found)
                have taken := List.length_pos_iff.mpr some
                simp only [List.length_cons, List.length_append] at length
                rw [ih other tail (by omega) (by omega)]
            · rw [ih other rest (by omega) (by omega)]
  rw [replace, if_neg (by simpa using some)]
  exact same _ _ text enough (Nat.le_refl _)

@[simp] theorem replace_nil : replace part new [] = [] := by
  cases part <;> rfl

theorem replace_part (some : part ≠ []) (rest : List Char) :
    replace part new (part ++ rest) = new ++ replace part new rest := by
  obtain ⟨c, more, rfl⟩ := List.exists_cons_of_ne_nil some
  have found := after?_append (c :: more) rest
  rw [← replaceAux_of_le some (Nat.le_refl _)]
  simp only [List.cons_append, List.length_cons, replaceAux] at found ⊢
  rw [found]
  dsimp only
  rw [replaceAux_of_le some (by simp)]

/-- A character is kept if the part does not begin with it there. -/
theorem replace_cons {c : Char} {rest : List Char} (other : after? part (c :: rest) = none) :
    replace part new (c :: rest) = c :: replace part new rest := by
  have some : part ≠ [] := by
    rintro rfl
    cases other
  rw [← replaceAux_of_le some (Nat.le_refl _), List.length_cons, replaceAux, other]
  dsimp only
  rw [replaceAux_of_le some (Nat.le_refl _)]

theorem replace_cons_of_ne {l c : Char} (differ : l ≠ c) (lead rest : List Char) :
    replace (l :: lead) new (c :: rest) = c :: replace (l :: lead) new rest :=
  replace_cons (after?_cons_of_ne differ lead rest)

/-- To replace a character is to replace it wherever it stands. -/
theorem replace_singleton (l : Char) (text : List Char) :
    replace [l] new text = text.flatMap fun c => if c = l then new else [c] := by
  induction text with
  | nil => rfl
  | cons c text ih =>
      rw [List.flatMap_cons, ← ih]
      by_cases same : c = l
      · rw [if_pos same, same]
        exact replace_part (List.cons_ne_nil l []) text
      · rw [if_neg same, replace_cons_of_ne (Ne.symm same)]
        rfl

/-- A text is passed over that lacks a character of the part and does not end with one before it there:
    the part neither stands in the text nor begins in it. -/
theorem replace_append_of_apart {lead more text : List Char} {l : Char} (absent : l ∉ text)
    (ends : ∀ c ∈ text.getLast?, c ∉ lead) (rest : List Char) :
    replace (lead ++ l :: more) new (text ++ rest) = text ++ replace (lead ++ l :: more) new rest := by
  induction text with
  | nil => rfl
  | cons c text ih =>
      have other : after? (lead ++ l :: more) (c :: (text ++ rest)) = none := by
        refine Option.eq_none_iff_forall_ne_some.mpr fun after found => ?_
        have same := after?_eq_some.mp found
        rw [← List.cons_append, List.append_assoc] at same
        rcases List.append_eq_append_iff.mp same with ⟨between, inside, -⟩ | ⟨between, inside, behind⟩
        · -- the part begins in the text, so the end of the text is in front of its character
          have last := List.getLast_mem (List.cons_ne_nil c text)
          refine ends _ (List.getLast?_eq_some_getLast (List.cons_ne_nil c text)) ?_
          rw [inside]
          exact List.mem_append_left _ last
        · cases between with
          | nil =>
              rw [List.append_nil] at inside
              refine ends _ (List.getLast?_eq_some_getLast (List.cons_ne_nil c text)) ?_
              rw [← inside]
              exact List.getLast_mem _
          | cons d between =>
              obtain ⟨rfl, -⟩ := List.cons.inj behind
              exact absent (by simp [inside])
      rw [List.cons_append, replace_cons other, ih (fun member => absent (List.mem_cons_of_mem _ member))]
      · rfl
      · intro d isLast
        refine ends d ?_
        cases text with
        | nil => cases isLast
        | cons e text => simpa using isLast

/-- A text without the first character of the part is passed over. -/
theorem replace_append_of_not_mem {l : Char} {text : List Char} (absent : l ∉ text)
    (lead rest : List Char) :
    replace (l :: lead) new (text ++ rest) = text ++ replace (l :: lead) new rest :=
  @replace_append_of_apart new [] lead text l absent (by simp) rest

/-! ## Joining and trimming -/

theorem joinWith_cons (sep first : List Char) (others : List (List Char)) :
    joinWith sep (first :: others) = first ++ others.flatMap (sep ++ ·) := by
  induction others generalizing first with
  | nil => simp [joinWith]
  | cons next others ih =>
      rw [joinWith.eq_3 _ _ _ (List.cons_ne_nil _ _), ih, List.flatMap_cons, List.append_assoc,
        List.append_assoc]

/-- Only the blanks at the ends are trimmed. -/
theorem trim_between {before text after : List Char} (blankBefore : ∀ c ∈ before, isBlank c = true)
    (blankAfter : ∀ c ∈ after, isBlank c = true) (first : ∀ c ∈ text.head?, isBlank c = false)
    (last : ∀ c ∈ text.getLast?, isBlank c = false) (some : text ≠ []) :
    trim (before ++ text ++ after) = text := by
  have left : trimLeft (before ++ text ++ after) = text ++ after := by
    obtain ⟨c, rest, rfl⟩ := List.exists_cons_of_ne_nil some
    rw [List.append_assoc, trimLeft_append blankBefore, List.cons_append, trimLeft_cons (first c rfl)]
  rw [trim, left, trimRight, dropWhileEnd, List.reverse_append,
    List.dropWhile_append_of_pos (by simpa using blankAfter)]
  obtain ⟨rest, c, rfl⟩ := List.eq_nil_or_concat text |>.resolve_left some
  rw [List.concat_eq_append, List.reverse_append, List.reverse_singleton, List.singleton_append,
    List.dropWhile_cons_of_neg (by simp [last c (by simp)])]
  simp

theorem trim_of_visible {text : List Char} (visible : ∀ c ∈ text, isBlank c = false) :
    trim text = text := by
  by_cases some : text = []
  · rw [some]
    rfl
  · have none : ∀ c ∈ ([] : List Char), isBlank c = true := fun _ => nofun
    have trimmed := trim_between none none (fun c head => visible c (List.mem_of_head? head))
      (fun c last => visible c (List.mem_of_getLast? last)) some
    simpa using trimmed

theorem trim_of_blank {text : List Char} (blank : ∀ c ∈ text, isBlank c = true) : trim text = [] := by
  rw [trim, trimLeft, List.dropWhile_eq_nil_iff.mpr blank]
  rfl

theorem trim_cons_blank {c : Char} (blank : isBlank c = true) (text : List Char) :
    trim (c :: text) = trim text := by
  rw [trim, trimLeft, List.dropWhile_cons_of_pos blank]
  rfl

end ShaderBuild.Text
