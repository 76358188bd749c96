import ShaderBuild.Proofs.Manifest.Splicing

/-! # Texts that stand for themselves

One more dollar sign before each placeholder of a text makes the text stand for itself. What comes of a
placeholder, escaped or not, is put into the text as it is: it is not read again, neither on its own nor
together with what stands around it.
-/

namespace ShaderBuild.Manifest

namespace Piece

variable {name : String} {rest after : List Char} {c : Char}

/-- A placeholder stands at the front of a text. What is before it does not matter. -/
def Opens (text : List Char) : Prop :=
  ∃ (name : String) (after : List Char), isName name.toList = true ∧ text = (bracedText name).toList ++ after

theorem opens_iff {text : List Char} :
    Opens text ↔ text.head? = some '$' ∧ (braced? text.tail).isSome := by
  constructor
  · rintro ⟨name, after, named, rfl⟩
    simp [toList_bracedText, braced?_name named]
  · rintro ⟨dollar, found⟩
    obtain ⟨rest, rfl⟩ := List.head?_eq_some_iff.mp dollar
    obtain ⟨⟨name, after⟩, read⟩ := Option.isSome_iff_exists.mp found
    obtain ⟨named, same⟩ := braced?_eq_some_iff.mp read
    rw [List.tail_cons] at same
    exact ⟨name, after, named, by simp [same, toList_bracedText]⟩

instance (text : List Char) : Decidable (Opens text) := decidable_of_iff _ opens_iff.symm

/-- A text with one more dollar sign before each placeholder. -/
def escapeChars : List Char → List Char
  | [] => []
  | c :: rest => if Opens (c :: rest) then '$' :: c :: escapeChars rest else c :: escapeChars rest

def escape (text : String) : String := String.ofList (escapeChars text.toList)

/-- A text without placeholders. -/
def Bare (text : List Char) : Prop := ∀ rest, rest <:+ text → ¬ Opens rest

instance (text : List Char) : Decidable (Bare text) :=
  decidable_of_iff (∀ rest ∈ text.tails, ¬ Opens rest) (by simp [Bare])

theorem not_opens_of_ne_dollar (differ : c ≠ '$') (rest : List Char) : ¬ Opens (c :: rest) := by
  simp [opens_iff, differ]

theorem escapeChars_of_bare {text : List Char} (bare : Bare text) : escapeChars text = text := by
  induction text with
  | nil => rfl
  | cons c rest ih =>
      have others : Bare rest := fun more behind => bare more (behind.trans (List.suffix_cons c rest))
      rw [escapeChars, if_neg (bare _ List.suffix_rfl), ih others]

/-- Nothing is put into a run of characters without dollar signs. -/
theorem escapeChars_run {run : List Char} (plain : '$' ∉ run) (rest : List Char) :
    escapeChars (run ++ rest) = run ++ escapeChars rest := by
  induction run with
  | nil => rfl
  | cons c run ih =>
      obtain ⟨differ, others⟩ := List.ne_and_not_mem_of_not_mem_cons plain
      rw [List.cons_append, escapeChars, if_neg (not_opens_of_ne_dollar differ.symm _), ih others,
        List.cons_append]

theorem of_escapeChars_run {text run : List Char} (plain : '$' ∉ run)
    (starts : escapeChars text = run ++ after) : ∃ rest, text = run ++ rest := by
  induction run generalizing text with
  | nil => exact ⟨text, rfl⟩
  | cons c run ih =>
      obtain ⟨differ, others⟩ := List.ne_and_not_mem_of_not_mem_cons plain
      cases text with
      | nil => cases starts
      | cons d text =>
          rw [escapeChars] at starts
          split at starts
          · exact absurd (List.cons.inj starts).1 differ
          · simp only [List.cons_append, List.cons.injEq] at starts
            obtain ⟨rest, rfl⟩ := ih others starts.2
            exact ⟨rest, by rw [starts.1, List.cons_append]⟩

/-- A name in braces is there with the dollar signs only if it was there without them. -/
theorem braced?_of_escapeChars {text : List Char} (found : (braced? (escapeChars text)).isSome) :
    (braced? text).isSome := by
  obtain ⟨⟨name, after⟩, read⟩ := Option.isSome_iff_exists.mp found
  obtain ⟨named, same⟩ := braced?_eq_some_iff.mp read
  have plain : '$' ∉ '{' :: (name.toList ++ ['}']) := by
    simp [not_mem_of_isName named (c := '$') rfl]
  have starts : escapeChars text = '{' :: (name.toList ++ ['}']) ++ after := by simp [same]
  obtain ⟨rest, rfl⟩ := of_escapeChars_run plain starts
  simp [braced?_name named]

/-- A character at which no placeholder stands is plain text still. A dollar sign might go together with
    one that was put in, but then that one has a dollar sign behind it, not a brace. -/
theorem placeholder?_escapeChars (closed : ¬ Opens (c :: rest)) :
    placeholder? (c :: escapeChars rest) = none := by
  by_cases dollar : c = '$'
  · subst dollar
    have noName : ∀ {more}, ¬ Opens ('$' :: more) → braced? (escapeChars more) = none := by
      intro more closed
      rw [Option.eq_none_iff_forall_ne_some]
      intro found read
      apply closed
      rw [opens_iff]
      exact ⟨rfl, braced?_of_escapeChars (by simp [read])⟩
    cases rest with
    | nil => rfl
    | cons d more =>
        by_cases opens : Opens (d :: more)
        · have second : d = '$' := by simpa using (opens_iff.mp opens).1
          rw [escapeChars, if_pos opens, second]
          simp [placeholder?, braced?]
        · have none := noName closed
          rw [escapeChars, if_neg opens] at none ⊢
          by_cases second : d = '$'
          · subst second
            simp [placeholder?, noName opens]
          · unfold placeholder?
            simp [second, none]
  · exact placeholder?_of_ne_dollar dollar _

/-- The pieces of a text with the dollar signs put in make up the text, and none is for a variable. -/
theorem read_escapeChars (text : List Char) :
    String.join ((ofChars (escapeChars text)).map literal) = String.ofList text ∧
      ∀ name, .variable name ∉ ofChars (escapeChars text) := by
  cases text with
  | nil => simp [escapeChars]
  | cons c rest =>
      by_cases opens : Opens (c :: rest)
      · obtain ⟨name, after, named, same⟩ := opens
        have plain : '$' ∉ '{' :: (name.toList ++ ['}']) := by
          simp [not_mem_of_isName named (c := '$') rfl]
        have whole : c :: rest = '$' :: ('{' :: (name.toList ++ ['}']) ++ after) := by
          simp [same, toList_bracedText]
        have shorter : after.length < (c :: rest).length := by
          simp only [whole, List.length_cons, List.length_append]
          omega
        have guarded : escapeChars (c :: rest) =
            '$' :: '$' :: '{' :: (name.toList ++ ['}']) ++ escapeChars after := by
          rw [escapeChars, if_pos ⟨name, after, named, same⟩]
          obtain ⟨rfl, rfl⟩ := List.cons.inj whole
          rw [escapeChars_run plain]
          rfl
        obtain ⟨text, others⟩ := read_escapeChars after
        rw [guarded, ofChars_placeholder (.guarded named), List.map_cons, String.join_cons, text, same]
        refine ⟨?_, by simp [others]⟩
        rw [literal, String.ofList_append, String.ofList_toList]
      · obtain ⟨text, others⟩ := read_escapeChars rest
        rw [escapeChars, if_neg opens, ofChars_char (placeholder?_escapeChars opens), List.map_cons,
          String.join_cons, text]
        refine ⟨?_, by simp [others]⟩
        rw [literal, String.ofList_cons]
termination_by text.length
decreasing_by
  · exact shorter
  · simp

theorem unescape_escape (text : String) : unescape (escape text) = text := by
  have read := (read_escapeChars text.toList).1
  rw [unescape, ofString_eq, escape, String.toList_ofList, read, String.ofList_toList]

theorem not_variable_of_escape (text name : String) : .variable name ∉ ofString (escape text) := by
  rw [ofString_eq, escape, String.toList_ofList]
  exact (read_escapeChars text.toList).2 name

theorem escape_of_bare {text : String} (bare : Bare text.toList) : escape text = text := by
  rw [escape, escapeChars_of_bare bare, String.ofList_toList]

end Piece

theorem expand_escape {m : Type → Type} [Monad m] [LawfulMonad m] [MonadExceptOf ExpansionFault m]
    (lookup : Lookup m) (room : Room) (path : KeyPath) (text : String) :
    expand lookup room path (.str (Piece.escape text)) = pure (.str text) := by
  rw [expand, expandText_literal lookup room path (Piece.not_variable_of_escape text), Piece.unescape_escape]

namespace Variables

/-- One more dollar sign before each placeholder makes a text stand for itself, and no variable is looked up
    for it; a text without placeholders stays as it is. What a placeholder that stands for itself or one for
    a variable comes to is put between what the text around it comes to, whatever it holds. -/
theorem escape_stands_for_text (text : String) :
    (∀ (lookup : Lookup Expansion) (room : Room) (path : KeyPath),
      expand lookup room path (.str (Piece.escape text)) = pure (.str text)) ∧
    (∀ (vars : Variables) (earlier : List (Room × Value)) (room : Room),
      vars.outcomeAfter earlier room (.str (Piece.escape text)) = .ok (.str text)) ∧
    (Piece.Bare text.toList → ∀ (vars : Variables) (earlier : List (Room × Value)) (room : Room),
      vars.outcomeAfter earlier room (.str text) = .ok (.str text)) ∧
    ∀ (vars : Variables) (earlier : List (Room × Value)) (name : String), isName name.toList = true →
      (∀ front back, vars.outcomeAfter earlier none (.str (front ++ "$" ++ Piece.bracedText name ++ back)) =
        vars.between [] front back (.ok (Piece.bracedText name))) ∧
      ∀ value, vars.expanded? name = some value →
        vars.outcomeAfter earlier none (.str (Piece.bracedText name)) = .ok value ∧
        (splice name [] value = .ok text → ∀ front back : String, front.toList.getLast? ≠ some '$' →
          front ++ back ≠ "" →
          vars.outcomeAfter earlier none (.str (front ++ Piece.bracedText name ++ back)) =
            vars.between [] front back (.ok text)) := by
  have escaped : ∀ (vars : Variables) (earlier : List (Room × Value)) (room : Room),
      vars.outcomeAfter earlier room (.str (Piece.escape text)) = .ok (.str text) := by
    intro vars earlier room
    rw [outcomeAfter, substitute, expand_escape]
    rfl
  refine ⟨fun lookup room path => expand_escape lookup room path text, escaped, ?_, ?_⟩
  · intro bare vars earlier room
    have same := escaped vars earlier room
    rw [Piece.escape_of_bare bare] at same
    exact same
  · intro vars earlier name named
    simp only [outcomeAfter_unbounded]
    refine ⟨expand_escaped named, fun value expanded => ⟨comesTo_whole named expanded [], ?_⟩⟩
    intro spliced front back apart long
    rw [fresh, expand_embedded named apart long expanded, spliced]

/-- One variable, in whose value a placeholder stands for itself. -/
def guarded : Variables := ⟨[(.str "a", .str "$${b}")]⟩

/-- A placeholder behind a dollar sign is written with two of them. A name without braces is no placeholder.
    A variable that comes to the text of a placeholder gives that text. -/
theorem written_and_spliced_once :
    Piece.escape "$${b}" = "$$${b}" ∧
      guarded.outcomeAfter [] usualRoom (.str "$$${b}") = .ok (.str "$${b}") ∧
      Piece.Bare "$b".toList ∧ guarded.outcomeAfter [] usualRoom (.str "$b") = .ok (.str "$b") ∧
      isName "a".toList = true ∧ guarded.expanded? "a" = some (.str "${b}") ∧
      splice "a" [] (.str "${b}") = .ok "${b}" ∧
      guarded.outcomeAfter [] none (.str "x${a}") = .ok (.str "x${b}") := by
  have written : Piece.escape "$${b}" = "$$${b}" := by decide
  have bare : Piece.Bare "$b".toList := by decide
  have found : guarded.named.lookup "a" = some (.str "$${b}") := rfl
  have expanded : guarded.expanded? "a" = some (.str "${b}") := by
    rw [expanded?, freshValue_of_found List.not_mem_nil found]
    rfl
  have once := (escape_stands_for_text "$${b}").2.1 guarded [] usualRoom
  rw [written] at once
  have plain := (escape_stands_for_text "$b").2.2.1 bare guarded [] usualRoom
  obtain ⟨-, -, -, inserted⟩ := escape_stands_for_text "${b}"
  have spliced := ((inserted guarded [] "a" rfl).2 _ expanded).2 rfl "x" "" (by decide) (by decide)
  exact ⟨written, once, bare, plain, rfl, expanded, rfl, spliced⟩

end Variables

end ShaderBuild.Manifest
