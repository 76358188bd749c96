import ShaderBuild.Proofs.Manifest.Placeholders
import ShaderBuild.Proofs.Manifest.Resolvable

/-! # What comes of a placeholder in a text

A placeholder in a longer text is replaced between what the text before it and the text behind it come to,
each as if it stood there without the other. What is put in its place is not looked at again.
-/

namespace ShaderBuild.Manifest

namespace Piece

/-- What a piece stands for if it stands for itself. -/
def literal : Piece → String
  | .char c => String.singleton c
  | .variable name | .escaped name => bracedText name

/-- A text whose placeholders stand for themselves. -/
def unescape (text : String) : String := String.join ((ofString text).map literal)

theorem unescape_of_plain {text : String} (plain : '$' ∉ text.toList) : unescape text = text := by
  rw [unescape, ofString_eq, ofChars_plain plain, ← String.toList_inj]
  simp [String.toList_join, List.flatMap_map, literal]

end Piece

section

variable {m : Type → Type} [Monad m] [LawfulMonad m] [MonadExceptOf ExpansionFault m]

theorem expandPieces_literal (lookup : Lookup m) (room : Room) (path : KeyPath) {pieces : List Piece}
    (none : ∀ name, .variable name ∉ pieces) :
    pieces.mapM (expandPiece lookup room path) = pure (pieces.map Piece.literal) := by
  induction pieces with
  | nil => rfl
  | cons piece pieces ih =>
      have others := ih fun name member => none name (List.mem_cons_of_mem _ member)
      have first : expandPiece lookup room path piece = pure piece.literal := by
        match piece with
        | .variable name => exact absurd List.mem_cons_self (none name)
        | .char _ | .escaped _ => rfl
      rw [List.mapM_cons, first, pure_bind, others, pure_bind, List.map_cons]

/-- Where no variable is to be replaced none is looked up. -/
theorem expandText_literal (lookup : Lookup m) (room : Room) (path : KeyPath) {text : String}
    (none : ∀ name, .variable name ∉ Piece.ofString text) :
    expandText lookup room path text = pure (.str (Piece.unescape text)) := by
  unfold expandText
  split
  · next name single => exact absurd (by simp [single]) (none name)
  · rw [expandPieces_literal lookup room path none, pure_bind, Piece.unescape]

end

namespace Variables

variable {vars : Variables} {name front back : String} {value : Value} {path : KeyPath}

/-- Wherever a value stands in a payload, it is expanded to another one. -/
def ComesTo (vars : Variables) (value made : Value) : Prop :=
  ∀ path, expand (vars.freshValue []) none path value = .ok made

/-- What a text at a place comes to as a part of a longer one. -/
def textOf (vars : Variables) (path : KeyPath) (text : String) : Except ExpansionFault String := do
  let texts ← (Piece.ofString text).mapM (expandPiece (vars.freshValue []) none path)
  return String.join texts

/-- A text that is made between two others, each of which comes to what it does on its own. -/
def between (vars : Variables) (path : KeyPath) (front back : String)
    (inside : Except ExpansionFault String) : Except ExpansionFault Value := do
  let before ← vars.textOf path front
  let made ← inside
  let after ← vars.textOf path back
  return .str (before ++ made ++ after)

theorem textOf_of_plain {text : String} (plain : '$' ∉ text.toList) : vars.textOf path text = .ok text := by
  have none : ∀ name, .variable name ∉ Piece.ofString text := by
    simp [Piece.ofString_eq, Piece.ofChars_plain plain]
  rw [textOf, expandPieces_literal _ _ path none, Outcome.pure_eq, Outcome.ok_bind, ← Piece.unescape,
    Piece.unescape_of_plain plain, Outcome.pure_eq]

theorem expand_between {text : String} {piece : Piece}
    (pieces : Piece.ofString text = Piece.ofString front ++ piece :: Piece.ofString back)
    (long : ∀ name, Piece.ofString text ≠ [.variable name]) :
    expand (vars.freshValue []) none path (.str text) =
      vars.between path front back (expandPiece (vars.freshValue []) none path piece) := by
  rw [expand, expandText_of_long _ _ long, pieces, between, textOf, textOf, List.mapM_append,
    List.mapM_cons]
  cases (Piece.ofString front).mapM (expandPiece (vars.freshValue []) none path) with
  | error fault => rfl
  | ok before =>
      cases expandPiece (vars.freshValue []) none path piece with
      | error fault => rfl
      | ok made =>
          cases (Piece.ofString back).mapM (expandPiece (vars.freshValue []) none path) with
          | error fault => rfl
          | ok after => simp [String.join_append, String.join_cons, String.append_assoc]

/-- A placeholder that stands for itself is its own text between the others. -/
theorem expand_escaped (named : isName name.toList = true) (front back : String) :
    expand (vars.freshValue []) none path (.str (front ++ "$" ++ Piece.bracedText name ++ back)) =
      vars.between path front back (.ok (Piece.bracedText name)) := by
  have pieces := Piece.ofString_escaped named front back
  rw [expand_between pieces]
  · rfl
  · intro other single
    have inside : .escaped name ∈ [Piece.variable other] := by simp [← single, pieces]
    simp at inside

theorem yields_of_expanded (expanded : vars.expanded? name = some value) : vars.Yields [] name value :=
  yields_here (Outcome.toOption_eq_some.mp expanded)

theorem comesTo_whole (named : isName name.toList = true) (expanded : vars.expanded? name = some value) :
    vars.ComesTo (.str (Piece.bracedText name)) value := by
  intro path
  have single : Piece.ofString (Piece.bracedText name) = [.variable name] := by
    have read := @Piece.ofString_braced _ named "" (by simp)
    simpa using read
  rw [expand, expandText_of_single _ path single]
  exact yields_of_expanded expanded _ _

/-- A variable in a longer text is what its value is spliced as, between the others. -/
theorem expand_embedded (named : isName name.toList = true) (apart : front.toList.getLast? ≠ some '$')
    (long : front ++ back ≠ "") (expanded : vars.expanded? name = some value) :
    expand (vars.freshValue []) none path (.str (front ++ Piece.bracedText name ++ back)) =
      vars.between path front back (splice name path value) := by
  have pieces := Piece.ofString_embedded named apart back
  rw [expand_between pieces]
  · rw [expandPiece, yields_of_expanded expanded splicedSteps path, Outcome.ok_bind]
    cases splice name path value <;> rfl
  · intro other single
    rw [pieces] at single
    have total := congrArg List.length single
    simp only [List.length_append, List.length_cons, List.length_nil] at total
    have noFront : Piece.ofString front = [] := List.length_eq_zero_iff.mp (by omega)
    have noBack : Piece.ofString back = [] := List.length_eq_zero_iff.mp (by omega)
    rw [Piece.ofString_eq_nil] at noFront noBack
    exact long (by rw [noFront, noBack]; rfl)

end Variables

end ShaderBuild.Manifest
