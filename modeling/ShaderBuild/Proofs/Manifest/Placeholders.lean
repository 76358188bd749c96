import ShaderBuild.Manifest.Placeholder
import ShaderBuild.Proofs.Text.Names
import ShaderBuild.Proofs.Text.Parts

/-! # Where placeholders stand

A text is read from its front, and what is read first is the first placeholder there is. So a placeholder
behind some text is read as it would be on its own, and so is the text before it, unless that text ends in
a dollar sign.
-/

namespace ShaderBuild.Manifest.Piece

/-- How a placeholder is spelled. -/
inductive Spelled : Piece → List Char → Prop where
  | bare {name : String} (named : isName name.toList = true) :
      Spelled (.variable name) ('$' :: '{' :: (name.toList ++ ['}']))
  | guarded {name : String} (named : isName name.toList = true) :
      Spelled (.escaped name) ('$' :: '$' :: '{' :: (name.toList ++ ['}']))

variable {name : String} {text front rest after spelling : List Char} {piece : Piece} {c : Char}

theorem toList_bracedText (name : String) :
    (bracedText name).toList = '$' :: '{' :: (name.toList ++ ['}']) := by
  simp [bracedText]

theorem not_mem_of_isName {name : List Char} (named : isName name = true) {c : Char}
    (other : isNamePart c = false) : c ∉ name := by
  intro member
  rw [isNamePart_of_mem named c member] at other
  cases other

/-! ## Reading a placeholder -/

theorem braced?_name (named : isName name.toList = true) (rest : List Char) :
    braced? ('{' :: (name.toList ++ '}' :: rest)) = some (name, rest) := by
  cases shape : name.toList with
  | nil => simp [shape, isName] at named
  | cons first more =>
      rw [shape] at named
      obtain ⟨starts, parts⟩ := Bool.and_eq_true_iff.mp named
      have isPart : ∀ c ∈ more, Piece.isPart c = true := List.all_eq_true.mp parts
      have start : isStart first = true := starts
      have whole : String.ofList (first :: more) = name := by rw [← shape, String.ofList_toList]
      simp [braced?, start, Text.takeWhile_upTo isPart (c := '}') rfl,
        Text.dropWhile_upTo isPart (c := '}') rfl, whole]

theorem braced?_eq_some_iff :
    braced? text = some (name, after) ↔
      isName name.toList = true ∧ text = '{' :: (name.toList ++ '}' :: after) := by
  constructor
  · intro read
    unfold braced? at read
    split at read
    · next first rest =>
        split at read
        · next starts =>
            split at read
            · next behind ends =>
                cases read
                have parts : (rest.takeWhile isPart).all isNamePart = true := List.all_takeWhile
                have divided := List.takeWhile_append_dropWhile (p := isPart) (l := rest)
                rw [ends] at divided
                simp only [String.toList_ofList, isName, parts, Bool.and_true, List.cons_append, divided]
                exact ⟨starts, trivial⟩
            · cases read
        · cases read
    · cases read
  · rintro ⟨named, rfl⟩
    exact braced?_name named after

theorem placeholder?_eq_some_iff :
    placeholder? text = some (piece, after) ↔
      ∃ spelling, Spelled piece spelling ∧ text = spelling ++ after := by
  constructor
  · intro read
    unfold placeholder? at read
    split at read
    · split at read
      · obtain ⟨⟨name, behind⟩, found, same⟩ := Option.map_eq_some_iff.mp read
        cases same
        obtain ⟨named, rfl⟩ := braced?_eq_some_iff.mp found
        exact ⟨_, .guarded named, by simp⟩
      · obtain ⟨⟨name, behind⟩, found, same⟩ := Option.map_eq_some_iff.mp read
        cases same
        obtain ⟨named, rfl⟩ := braced?_eq_some_iff.mp found
        exact ⟨_, .bare named, by simp⟩
    · cases read
  · rintro ⟨spelling, spelled, rfl⟩
    cases spelled with
    | bare named => simp [placeholder?, braced?_name named]
    | guarded named => simp [placeholder?, braced?_name named]

theorem placeholder?_of_ne_dollar (differ : c ≠ '$') (rest : List Char) :
    placeholder? (c :: rest) = none := by
  unfold placeholder?
  split
  · next same => exact absurd (List.cons.inj same).1 differ
  · rfl

/-- A dollar sign in a placeholder is its first character, or the one after that. -/
theorem before_dollar {before behind : List Char} (spelled : Spelled piece (before ++ '$' :: behind)) :
    before = [] ∨ before = ['$'] := by
  have notInside : ∀ {name : String}, isName name.toList = true → '$' ∉ '{' :: (name.toList ++ ['}']) := by
    intro name named
    simp [not_mem_of_isName named (c := '$') rfl]
  generalize same : before ++ '$' :: behind = spelling at spelled
  cases spelled with
  | bare named =>
      cases before with
      | nil => exact .inl rfl
      | cons c before =>
          simp only [List.cons_append, List.cons.injEq] at same
          have inside : '$' ∈ before ++ '$' :: behind := by simp
          rw [same.2] at inside
          exact absurd inside (notInside named)
  | guarded named =>
      match before with
      | [] => exact .inl rfl
      | [c] =>
          rw [(List.cons.inj same).1]
          exact .inr rfl
      | c :: d :: before =>
          simp only [List.cons_append, List.cons.injEq] at same
          have inside : '$' ∈ before ++ '$' :: behind := by simp
          rw [same.2.2] at inside
          exact absurd inside (notInside named)

/-! ## Reading a text -/

/-- The pieces of a text. -/
def ofChars (text : List Char) : List Piece := ofCharsAux text.length text

theorem ofString_eq (text : String) : ofString text = ofChars text.toList := by
  rw [ofString, ofChars, String.length_toList]

theorem length_pos_of_spelled (spelled : Spelled piece spelling) : 0 < spelling.length := by
  cases spelled <;> simp

theorem ofCharsAux_eq {fuel more : Nat} (enough : text.length ≤ fuel) (further : text.length ≤ more) :
    ofCharsAux fuel text = ofCharsAux more text := by
  induction fuel generalizing more text with
  | zero =>
      have empty : text = [] := List.length_eq_zero_iff.mp (Nat.le_zero.mp enough)
      subst empty
      cases more <;> rfl
  | succ fuel ih =>
      cases text with
      | nil => cases more <;> rfl
      | cons c rest =>
          cases more with
          | zero => simp at further
          | succ more =>
              simp only [List.length_cons, Nat.add_le_add_iff_right] at enough further
              simp only [ofCharsAux]
              split
              · next piece after read =>
                  obtain ⟨spelling, spelled, same⟩ := placeholder?_eq_some_iff.mp read
                  have some := length_pos_of_spelled spelled
                  have total := congrArg List.length same
                  simp only [List.length_cons, List.length_append] at total
                  have fits : after.length ≤ fuel := by omega
                  have fitsToo : after.length ≤ more := by omega
                  rw [ih fits fitsToo]
              · rw [ih enough further]

@[simp] theorem ofChars_nil : ofChars [] = [] := rfl

theorem ofChars_placeholder (spelled : Spelled piece spelling) (after : List Char) :
    ofChars (spelling ++ after) = piece :: ofChars after := by
  have read : placeholder? (spelling ++ after) = some (piece, after) :=
    placeholder?_eq_some_iff.mpr ⟨spelling, spelled, rfl⟩
  have some := length_pos_of_spelled spelled
  cases shape : spelling with
  | nil => simp [shape] at some
  | cons c spelling =>
      rw [shape, List.cons_append] at read
      rw [List.cons_append, ofChars, List.length_cons, ofCharsAux, read, ofChars]
      exact congrArg _ (ofCharsAux_eq (by simp) (Nat.le_refl _))

theorem ofChars_char (none : placeholder? (c :: rest) = none) :
    ofChars (c :: rest) = .char c :: ofChars rest := by
  rw [ofChars, List.length_cons, ofCharsAux, none, ofChars]

/-- What holds of the empty text, and of a text with a placeholder or any other character before it if it
    holds of that text, holds of every text. -/
@[elab_as_elim]
theorem reading_induction {motive : List Char → Prop} (text : List Char) (nil : motive [])
    (placeholder : ∀ piece spelling after, Spelled piece spelling → motive after → motive (spelling ++ after))
    (char : ∀ c rest, placeholder? (c :: rest) = none → motive rest → motive (c :: rest)) : motive text := by
  cases text with
  | nil => exact nil
  | cons c rest =>
      cases read : placeholder? (c :: rest) with
      | none => exact char c rest read (reading_induction rest nil placeholder char)
      | some found =>
          obtain ⟨piece, after⟩ := found
          obtain ⟨spelling, spelled, same⟩ := placeholder?_eq_some_iff.mp read
          have some := length_pos_of_spelled spelled
          have shorter : after.length < (c :: rest).length := by
            rw [same, List.length_append]
            omega
          rw [same]
          exact placeholder piece spelling after spelled (reading_induction after nil placeholder char)
termination_by text.length
decreasing_by
  · simp
  · exact shorter

theorem ofChars_plain (plain : '$' ∉ text) : ofChars text = text.map .char := by
  induction text with
  | nil => rfl
  | cons c rest ih =>
      obtain ⟨notDollar, others⟩ := List.ne_and_not_mem_of_not_mem_cons plain
      rw [ofChars_char (placeholder?_of_ne_dollar notDollar.symm rest), ih others, List.map_cons]

/-- No placeholder begins in a text and ends behind it, where a dollar sign follows. -/
theorem placeholder?_append_eq_none (none : placeholder? front = .none) (dollar : rest.head? = some '$')
    (apart : front.getLast? = some '$' → placeholder? ('$' :: rest) = .none) (some : front ≠ []) :
    placeholder? (front ++ rest) = .none := by
  cases read : placeholder? (front ++ rest) with
  | none => rfl
  | some found =>
      exfalso
      obtain ⟨piece, after⟩ := found
      obtain ⟨spelling, spelled, same⟩ := placeholder?_eq_some_iff.mp read
      rcases List.append_eq_append_iff.mp same with ⟨more, whole, behind⟩ | ⟨more, whole, -⟩
      · cases more with
        | nil =>
            have alone : placeholder? front = Option.some (piece, []) :=
              placeholder?_eq_some_iff.mpr ⟨spelling, spelled, by simp [whole]⟩
            rw [none] at alone
            cases alone
        | cons c more =>
            have isDollar : c = '$' := by simpa [behind] using dollar
            subst whole isDollar
            rcases before_dollar spelled with empty | single
            · exact some empty
            · subst single
              rw [List.singleton_append, apart rfl] at read
              cases read
      · have inFront : placeholder? front = Option.some (piece, more) :=
          placeholder?_eq_some_iff.mpr ⟨spelling, spelled, whole⟩
        rw [none] at inFront
        cases inFront

/-- A text and what follows it are read apart if a dollar sign comes between, unless one more stands before
    that. -/
theorem ofChars_append (dollar : rest.head? = some '$')
    (apart : front.getLast? = some '$' → placeholder? ('$' :: rest) = none) :
    ofChars (front ++ rest) = ofChars front ++ ofChars rest := by
  induction front using reading_induction with
  | nil => rfl
  | placeholder piece spelling after spelled ih =>
      have later : after.getLast? = some '$' → placeholder? ('$' :: rest) = none := by
        intro last
        exact apart (by simp [List.getLast?_append, last])
      rw [List.append_assoc, ofChars_placeholder spelled, ofChars_placeholder spelled, ih later,
        List.cons_append]
  | char c front none ih =>
      have later : front.getLast? = some '$' → placeholder? ('$' :: rest) = .none := by
        intro last
        exact apart (by simp [List.getLast?_cons, last])
      have stillNone := placeholder?_append_eq_none none dollar apart (List.cons_ne_nil c front)
      rw [List.cons_append] at stillNone ⊢
      rw [ofChars_char stillNone, ofChars_char none, ih later, List.cons_append]

/-! ## Placeholders in strings -/

theorem ofString_eq_nil {text : String} : ofString text = [] ↔ text = "" := by
  rw [ofString_eq, ← String.toList_eq_nil_iff]
  cases text.toList with
  | nil => simp
  | cons c rest =>
      have some : ofChars (c :: rest) ≠ [] := by
        rw [ofChars, List.length_cons, ofCharsAux]
        split <;> simp
      simp [some]

/-- A placeholder in a text, which no dollar sign makes stand for itself. -/
theorem ofString_embedded (named : isName name.toList = true) {front : String}
    (apart : front.toList.getLast? ≠ some '$') (back : String) :
    ofString (front ++ bracedText name ++ back) = ofString front ++ .variable name :: ofString back := by
  have spelled : Spelled (.variable name) (bracedText name).toList :=
    toList_bracedText name ▸ .bare named
  simp only [ofString_eq, String.toList_append, List.append_assoc]
  rw [ofChars_append (by simp [toList_bracedText]) (fun last => absurd last apart),
    ofChars_placeholder spelled]

/-- A placeholder in a text that stands for itself, whatever comes before. -/
theorem ofString_escaped (named : isName name.toList = true) (front back : String) :
    ofString (front ++ "$" ++ bracedText name ++ back) =
      ofString front ++ .escaped name :: ofString back := by
  have spelled : Spelled (.escaped name) ("$" ++ bracedText name).toList := by
    rw [String.toList_append, toList_bracedText]
    exact .guarded named
  have apart : placeholder? ('$' :: (("$" ++ bracedText name).toList ++ back.toList)) = none := by
    simp [toList_bracedText, placeholder?, braced?]
  have joined : (front ++ "$" ++ bracedText name ++ back).toList =
      front.toList ++ (("$" ++ bracedText name).toList ++ back.toList) := by
    simp
  rw [ofString_eq, joined, ofChars_append (by simp) (fun _ => apart), ofChars_placeholder spelled,
    ofString_eq, ofString_eq]

/-- A placeholder in front of a text without dollar signs. -/
theorem ofString_braced (named : isName name.toList = true) {text : String} (plain : '$' ∉ text.toList) :
    ofString (bracedText name ++ text) = .variable name :: text.toList.map .char := by
  have read : ofString ("" ++ bracedText name ++ text) = ofString "" ++ .variable name :: ofString text :=
    ofString_embedded named (by simp) text
  rw [String.empty_append, ofString_eq text, ofChars_plain plain] at read
  exact read

end ShaderBuild.Manifest.Piece
