import ShaderBuild.Artifact.Render
import ShaderBuild.Proofs.Text.Literal

/-! # The text about the shader

A generated module starts with a text that quotes the name of the shader. The name was quoted for a
literal with one mark at each end, but stands in one with three. Line ends in it are escaped, and so is
the mark that was chosen; a double mark in a name between single ones is not. Three of them next to each
other end the text in the name, and nothing else does.
-/

namespace ShaderBuild.Python

open Text

/-- What opens and closes a text that may go over several lines. -/
def tripleMark : List Char := ['"', '"', '"']

/-- The text about a shader, as it stands between its marks. -/
def aboutText (name : List Char) : List Char :=
  "SPIR-V words for shader ".toList ++ (Quoted.encode name ++ ['.'])

/-- What the text about a shader says: its name between the marks that it was given. -/
def aboutContent (name : List Char) : List Char :=
  "SPIR-V words for shader ".toList ++ Quoted.mark name :: (name ++ [Quoted.mark name, '.'])

/-- A name between single marks. -/
def inSingle (name : List Char) : List Char := name.flatMap (Quoted.encodeChar '\'')

theorem inSingle_append (left right : List Char) :
    inSingle (left ++ right) = inSingle left ++ inSingle right := List.flatMap_append

theorem inSingle_doubleMark (rest : List Char) : inSingle ('"' :: rest) = '"' :: inSingle rest := rfl

theorem inSingle_tripleMark (rest : List Char) :
    inSingle (tripleMark ++ rest) = tripleMark ++ inSingle rest := rfl

/-! ## Marks in the name -/

/-- Double marks at the start of a name between single ones are those of the name. -/
theorem after?_inSingle {marks : List Char} (double : ∀ c ∈ marks, c = '"') {name : List Char}
    (other : ¬marks <+: name) (rest : List Char) :
    after? marks (inSingle name ++ '\'' :: rest) = none := by
  induction marks generalizing name with
  | nil => exact absurd List.nil_prefix other
  | cons mark marks ih =>
      obtain ⟨rfl, others⟩ := List.forall_mem_cons.mp double
      cases name with
      | nil => exact after?_cons_of_ne (by decide) _ _
      | cons c name =>
          by_cases same : c = '"'
          · subst same
            rw [inSingle_doubleMark, List.cons_append, after?, if_pos rfl]
            exact ih others fun before => other (List.cons_prefix_cons.mpr ⟨rfl, before⟩)
          · have guarded : Literal.Guarded '"' (Quoted.encodeChar '\'' c) :=
              Literal.guarded_encodeChar (.inr rfl) fun mark => absurd mark same
            rw [inSingle, List.flatMap_cons, List.append_assoc]
            exact Literal.after?_of_guarded (by decide) guarded (Literal.encodeChar_ne_nil _ _) _ _

theorem tripleMark_prefix_take {c : Char} {before behind : List Char}
    (marks : tripleMark <+: c :: (before ++ behind)) :
    tripleMark <+: c :: (before ++ behind.take 2) := by
  have cut : c :: (before ++ behind.take 2) <+: c :: (before ++ behind) :=
    List.cons_prefix_cons.mpr ⟨rfl, (List.prefix_append_right_inj _).mpr (List.take_prefix _ _)⟩
  have short := marks.length_le
  refine List.prefix_of_prefix_length_le marks cut ?_
  simp only [tripleMark, List.length_cons, List.length_nil, List.length_append, List.length_take]
    at short ⊢
  omega

/-- The text goes on through a part of the name in which no three marks start. -/
theorem body?_inSingle {before behind : List Char}
    (none : ¬tripleMark <:+: before ++ behind.take 2) (rest : List Char) :
    Literal.body? tripleMark (inSingle before ++ (inSingle behind ++ '\'' :: rest)) =
      (Literal.body? tripleMark (inSingle behind ++ '\'' :: rest)).map
        fun (body, after) => (inSingle before ++ body, after) := by
  induction before with
  | nil => simp [inSingle]
  | cons c before ih =>
      rw [List.cons_append, List.infix_cons_iff, not_or] at none
      obtain ⟨notHere, notLater⟩ := none
      by_cases mark : c = '"'
      · have goes : ¬tripleMark <+: c :: (before ++ behind) :=
          fun marks => notHere (tripleMark_prefix_take marks)
        have opens := @after?_inSingle tripleMark (forall_of_all (by decide)) _ goes rest
        subst mark
        rw [inSingle_doubleMark, inSingle_append, List.cons_append, List.append_assoc] at opens
        rw [inSingle_doubleMark, List.cons_append,
          Literal.body?_cons_of_open (by decide) (by decide) opens, ih notLater, Option.map_map]
        rfl
      · have guarded : Literal.Guarded '"' (Quoted.encodeChar '\'' c) :=
          Literal.guarded_encodeChar (.inr rfl) fun same => absurd same mark
        have split : inSingle (c :: before) = Quoted.encodeChar '\'' c ++ inSingle before := rfl
        rw [split, List.append_assoc, tripleMark, Literal.body?_guarded_append _ guarded, ← tripleMark,
          ih notLater, Option.map_map]
        simp only [Function.comp_def, List.append_assoc]

/-! ## The whole text -/

theorem mark_of_doubleMark {name : List Char} (double : '"' ∈ name) : Quoted.mark name = '\'' := by
  simp [Quoted.mark, double]

theorem aboutText_of_single {name : List Char} (single : Quoted.mark name = '\'') :
    aboutText name = "SPIR-V words for shader '".toList ++ (inSingle name ++ "'.".toList) := by
  unfold aboutText
  simp [Quoted.encode, single, inSingle]

theorem guarded_aboutStart : Literal.Guarded '"' "SPIR-V words for shader ".toList :=
  .of_plain (forall_of_all (by decide))

theorem guarded_aboutStart_single : Literal.Guarded '"' "SPIR-V words for shader '".toList :=
  .of_plain (forall_of_all (by decide))

/-- A text about a name without three double marks is closed by the marks behind it. -/
theorem body?_aboutText {name : List Char} (none : ¬tripleMark <:+: name) (rest : List Char) :
    Literal.body? tripleMark (aboutText name ++ (tripleMark ++ rest)) = some (aboutText name, rest) := by
  rcases Literal.mark_eq name with single | double
  · have goes := @body?_inSingle name [] (by simpa using none) ('.' :: (tripleMark ++ rest))
    have behind : Literal.body? tripleMark ('\'' :: '.' :: (tripleMark ++ rest)) =
        some ("'.".toList, rest) := rfl
    simp only [inSingle, List.flatMap_nil, List.nil_append] at goes
    rw [aboutText_of_single single, List.append_assoc, List.append_assoc, tripleMark,
      Literal.body?_guarded_append _ guarded_aboutStart_single, ← tripleMark]
    show (Literal.body? tripleMark (inSingle name ++ '\'' :: '.' :: (tripleMark ++ rest))).map _ = _
    rw [inSingle, goes, behind]
    rfl
  · -- No mark in the name is left bare, and the two around it have other characters next to them.
    let inner := name.flatMap (Quoted.encodeChar '"')
    have guarded : Literal.Guarded '"' inner := Literal.guarded_encoded (.inr rfl) fun _ _ _ => rfl
    have opens : after? tripleMark ('"' :: (inner ++ '"' :: '.' :: (tripleMark ++ rest))) = .none := by
      rw [tripleMark, after?, if_pos rfl]
      exact Literal.after?_marks_of_guarded (by decide) (by decide) guarded _
    have behind : Literal.body? tripleMark ('"' :: '.' :: (tripleMark ++ rest)) =
        some ("\".".toList, rest) := rfl
    have shown : aboutText name ++ (tripleMark ++ rest) = "SPIR-V words for shader ".toList ++
        ('"' :: (inner ++ '"' :: '.' :: (tripleMark ++ rest))) := by
      unfold aboutText
      simp [Quoted.encode, double, inner]
    rw [shown, tripleMark, Literal.body?_guarded_append _ guarded_aboutStart, ← tripleMark,
      Literal.body?_cons_of_open (by decide) (by decide) opens, tripleMark,
      Literal.body?_guarded_append _ guarded, ← tripleMark, behind]
    unfold aboutText
    simp [Quoted.encode, double, inner]

/-- A text about a name with three double marks is closed by the first three of them, and the rest of
    the name is behind it. -/
theorem body?_aboutText_of_marks {before behind : List Char}
    (first : ¬tripleMark <:+: before ++ ['"', '"']) (rest : List Char) :
    Literal.body? tripleMark (aboutText (before ++ (tripleMark ++ behind)) ++ rest) =
      some ("SPIR-V words for shader '".toList ++ inSingle before,
        inSingle behind ++ ("'.".toList ++ rest)) := by
  have single : Quoted.mark (before ++ (tripleMark ++ behind)) = '\'' :=
    mark_of_doubleMark (by simp [tripleMark])
  have closed : Literal.body? tripleMark (inSingle (tripleMark ++ behind) ++ '\'' :: '.' :: rest) =
      some ([], inSingle behind ++ ("'.".toList ++ rest)) := by
    rw [inSingle_tripleMark, List.append_assoc]
    exact Literal.body?_close (by decide) _ _
  rw [aboutText_of_single single, inSingle_append, List.append_assoc, tripleMark,
    Literal.body?_guarded_append _ guarded_aboutStart_single, ← tripleMark, List.append_assoc,
    List.append_assoc]
  show (Literal.body? tripleMark (inSingle before ++ (inSingle (tripleMark ++ behind) ++
    '\'' :: '.' :: rest))).map _ = _
  rw [body?_inSingle first, closed]
  simp

theorem exists_first_tripleMark {name : List Char} (marks : tripleMark <:+: name) :
    ∃ before behind, name = before ++ (tripleMark ++ behind) ∧
      ¬tripleMark <:+: before ++ ['"', '"'] := by
  induction name with
  | nil => simp [tripleMark] at marks
  | cons c name ih =>
      by_cases here : tripleMark <+: c :: name
      · obtain ⟨behind, same⟩ := here
        exact ⟨[], behind, same.symm, by decide⟩
      · have later := (List.infix_cons_iff.mp marks).resolve_left here
        obtain ⟨before, behind, rfl, first⟩ := ih later
        refine ⟨c :: before, behind, rfl, ?_⟩
        rw [List.cons_append, List.infix_cons_iff, not_or]
        refine ⟨fun start => here (start.trans ?_), first⟩
        exact List.cons_prefix_cons.mpr ⟨rfl, (List.prefix_append_right_inj _).mpr ⟨'"' :: behind, rfl⟩⟩

/-- The text is closed by the marks behind it and not before, if and only if the name does not hold
    three double marks in a row. -/
theorem body?_aboutText_iff (name rest : List Char) :
    Literal.body? tripleMark (aboutText name ++ (tripleMark ++ rest)) = some (aboutText name, rest) ↔
      ¬tripleMark <:+: name := by
  refine ⟨fun cut marks => ?_, fun none => body?_aboutText none rest⟩
  obtain ⟨before, behind, rfl, first⟩ := exists_first_tripleMark marks
  rw [body?_aboutText_of_marks first] at cut
  have behindMarks := congrArg List.length (Prod.mk.inj (Option.some.inj cut)).2
  simp only [List.length_append, tripleMark, List.length_cons] at behindMarks
  omega

theorem unescape?_aboutText (name : List Char) :
    Literal.unescape? (aboutText name) = some (aboutContent name) := by
  have ordinary {c : Char} (isMark : c = '\'' ∨ c = '"') : c ≠ '\\' := by
    rcases isMark with rfl | rfl <;> decide
  have isMark := Literal.mark_eq name
  have notSlash : ∀ c ∈ [Quoted.mark name], c ≠ '\\' := by simpa using ordinary isMark
  have shown : aboutText name = "SPIR-V words for shader ".toList ++ ([Quoted.mark name] ++
      (name.flatMap (Quoted.encodeChar (Quoted.mark name)) ++ ([Quoted.mark name] ++ ['.']))) := by
    unfold aboutText
    simp [Quoted.encode]
  have stop : Literal.unescapeFrom .plain ['.'] = some ['.'] := rfl
  rw [Literal.unescape?, shown, Literal.unescapeFrom_ordinary (forall_of_all (by decide)),
    Literal.unescapeFrom_ordinary notSlash, Literal.unescapeFrom_encoded isMark,
    Literal.unescapeFrom_ordinary notSlash, stop]
  unfold aboutContent
  simp

theorem oneLine_aboutText (name : List Char) : ∀ c ∈ aboutText name, c ≠ '\n' ∧ c ≠ '\r' := by
  have isMark := Literal.mark_eq name
  have mark : Quoted.mark name ≠ '\n' ∧ Quoted.mark name ≠ '\r' := by
    rcases isMark with same | same <;> rw [same] <;> decide
  have inner : ∀ c ∈ name.flatMap (Quoted.encodeChar (Quoted.mark name)), c ≠ '\n' ∧ c ≠ '\r' := by
    intro c member
    obtain ⟨_, _, encoded⟩ := List.mem_flatMap.mp member
    exact Literal.oneLine_encodeChar isMark _ c encoded
  unfold aboutText Quoted.encode
  rw [List.forall_mem_append, List.forall_mem_append, List.cons_append, List.forall_mem_cons,
    List.forall_mem_append]
  exact ⟨forall_of_all (by decide), ⟨mark, inner, by simpa using mark⟩, forall_of_all (by decide)⟩

end ShaderBuild.Python
