import Mathlib.Data.List.Basic
import ShaderBuild.Proofs.Directive.Acceptance
import ShaderBuild.Proofs.Directive.Due
import ShaderBuild.Proofs.Directive.Lexing

/-! # Where mistakes show

A mistake shows at the first token with which the tokens from the front can no longer be part of a
directive list: everything before it could still be completed. If there is no such token, the end of
the text is what is wrong.
-/

namespace ShaderBuild.Directive

open Outcome

def Token.Spelled (token : Token) : Prop := Spells token.kind token.text.toList

/-- Whatever is due, a list can be completed from there. -/
theorem Due.exists_finishes (due : Due) :
    ∃ rest : List Token, (∀ token ∈ rest, token.Spelled) ∧ due.Finishes rest := by
  have vert : Token.Spelled ⟨.ident, "vert", 0⟩ := .ident (by decide)
  have empty : Token.Spelled ⟨.string, "\"\"", 0⟩ := @Spells.string [] rfl
  have sign : Token.Spelled ⟨.equals, "=", 0⟩ := .equals
  cases due with
  | start | keyword | macroSign | separator => exact ⟨[], by simp, rfl, rfl⟩
  | includeDir => exact ⟨[_], by simpa using empty, rfl, rfl⟩
  | macroName | macroValue | entryName => exact ⟨[_], by simpa using vert, rfl, rfl⟩
  | entrySign => exact ⟨[_, _], by simpa using ⟨sign, vert⟩, rfl, rfl⟩

/-- What stands before a token is the front of an accepted list, and with the token it is the front of
    none. Without a token there is only the front. -/
structure StopsAt (accepted : List Token → Prop) (before : List Token) (token? : Option Token) :
    Prop where
  viable : ∃ rest, (∀ token ∈ rest, token.Spelled) ∧ accepted (before ++ rest)
  wrong : ∀ token ∈ token?, ∀ more, ¬ accepted (before ++ token :: more)

/-- A token list that is accepted on top of the given defaults. -/
def Accepts (defaults : Config) (tokens : List Token) : Prop :=
  ∃ config, parseConfig defaults (.tokens tokens) = .ok config

theorem accepts_iff {defaults : Config} {tokens : List Token} :
    Accepts defaults tokens ↔ ∃ directives, Reads tokens directives := by
  simp only [Accepts, parseConfig_tokens_eq_ok_iff]
  rw [exists_comm]
  simp

/-- The parser stops at the first token that cannot stand where it does. -/
theorem parseTokens_stopsAt (defaults : Config) {tokens blame}
    (h : parseTokens tokens = .error blame) :
    ∃ before after, tokens = before ++ after ∧ blame.token? = after.head? ∧
      StopsAt (Accepts defaults) before after.head? := by
  obtain @⟨before, after, stops, shown⟩ := parseTokens_blames h
  refine ⟨before, after, rfl, shown, ?_, ?_⟩
  · obtain ⟨reached, -⟩ := stops
    obtain ⟨rest, spelled, finishes⟩ := Due.exists_finishes _
    exact ⟨rest, spelled, accepts_iff.mpr (reads_iff_finishes.mpr (finishes.behind reached))⟩
  · rintro token next more accepted
    obtain ⟨rest, rfl⟩ := List.head?_eq_some_iff.mp next
    obtain ⟨reached, -⟩ := reads_iff_finishes.mp (accepts_iff.mp accepted)
    exact stops.not_reached reached

/-! ## The error that is reported -/

/-- The first item that is equal to one is that one itself if none before it is. -/
theorem idxOf_eq_front_iff {α : Type} [DecidableEq α] {front back : List α} {a : α} :
    (front ++ a :: back).idxOf a = front.length ↔ a ∉ front := by
  constructor
  · intro same member
    rw [List.idxOf_append_of_mem member] at same
    exact Nat.ne_of_lt (List.idxOf_lt_length_of_mem member) same
  · intro fresh
    rw [List.idxOf_append_of_notMem fresh, List.idxOf_cons_self, Nat.add_zero]

/-- Tokens that are read off a text differ, so each is found where it stands. -/
theorem idxOf_of_lexed {text : String} {before after : List Token} {token : Token}
    (lexed : tokenize text = .ok (before ++ token :: after)) :
    (before ++ token :: after).idxOf token = before.length := by
  have ordered := (tokenize_eq_ok_iff.mp lexed).ordered
  have apart : token ∉ before := fun member => by
    have less := (List.pairwise_append.mp ordered).2.2 token member token List.mem_cons_self
    omega
  exact idxOf_eq_front_iff.mpr apart

/-- A text that is not accepted is refused at the first token that cannot be right: the tokens before it
    begin a list that is accepted, and together with it they begin none. If every token can be right, the
    text is refused at its end. -/
theorem parseConfig_text_stops (defaults : Config) {text : String} {tokens : List Token}
    (lexed : tokenize text = .ok tokens)
    (refused : ∀ config, parseConfig defaults (.text text) ≠ .ok config) :
    ∃ error, parseConfig defaults (.text text) = .error error ∧ error.index ≤ tokens.length ∧
      (∃ rest, (∀ token ∈ rest, token.Spelled) ∧
        Accepts defaults (tokens.take error.index ++ rest)) ∧
      (∀ token, tokens[error.index]? = some token →
        (∀ rest, ¬ Accepts defaults (tokens.take (error.index + 1) ++ rest)) ∧
        error.token = token.text ∧ error.offset = token.offset ∧
        0 ≤ error.offset ∧ error.token.toList <+: text.toList.drop error.offset.toNat) ∧
      (error.index = tokens.length →
        error.token = "<end of input>" ∧ error.offset = text.length) := by
  cases outcome : parseTokens tokens with
  | ok directives =>
      have accepted : parseConfig defaults (.text text) = .ok (applyAll defaults directives) := by
        simp [parseConfig, parseDirectives, tokensOf, lexed, outcome, Except.map]
      exact (refused _ accepted).elim
  | error blame =>
      refine ⟨blame.locate tokens text.length, ?_, ?_⟩
      · simp [parseConfig, parseDirectives, tokensOf, lexed, outcome, Except.map]
      obtain ⟨before, after, rfl, shown, viable, wrong⟩ := parseTokens_stopsAt defaults outcome
      cases after with
      | nil =>
          have place : blame.locate (before ++ []) text.length =
              ⟨blame.mistake, "<end of input>", before.length, text.length⟩ := by
            simp [Blame.locate, shown, endOfInput]
          rw [place]
          refine ⟨by simp, by simpa using viable, by simp, by simp⟩
      | cons token after =>
          have place : blame.locate (before ++ token :: after) text.length =
              ⟨blame.mistake, token.text, before.length, token.offset⟩ := by
            simp [Blame.locate, shown, idxOf_of_lexed lexed]
          rw [place]
          refine ⟨by simp, by simpa using viable, ?_, by simp⟩
          intro found same
          obtain rfl : token = found := by simpa using same
          obtain ⟨offset, stands, starts⟩ := (tokenize_eq_ok_iff.mp lexed).stands token (by simp)
          rw [Nat.zero_add] at stands
          have front : (before ++ token :: after).take (before.length + 1) = before ++ [token] := by
            simp [List.take_append, List.take_of_length_le]
          refine ⟨fun rest accepted => wrong token rfl rest ?_, rfl, rfl, by simp [stands],
            by simpa [stands] using starts⟩
          simpa [front] using accepted

/-- The value of a macro is missing where a separator stands. -/
theorem parseConfig_stops_at_separator :
    let tokens : List Token := [⟨.ident, "D", 0⟩, ⟨.ident, "N", 2⟩, ⟨.equals, "=", 4⟩,
      ⟨.separator, ",", 6⟩, ⟨.ident, "D", 8⟩, ⟨.ident, "N", 10⟩]
    tokenize "D N = , D N" = .ok tokens ∧
      (∀ config, parseConfig {} (.text "D N = , D N") ≠ .ok config) ∧
      ∃ error, parseConfig {} (.text "D N = , D N") = .error error ∧ error.index = 3 ∧
        (∀ rest, ¬ Accepts {} (tokens.take 4 ++ rest)) ∧ error.token = "," := by
  intro tokens
  have lexed : tokenize "D N = , D N" = .ok tokens := by decide +kernel
  have failed : parseConfig {} (.text "D N = , D N") =
      .error ⟨.missingMacroValue "N", ",", 3, 6⟩ := by decide +kernel
  have refused : ∀ config, parseConfig {} (.text "D N = , D N") ≠ .ok config := by simp [failed]
  refine ⟨lexed, refused, ⟨.missingMacroValue "N", ",", 3, 6⟩, failed, rfl, ?_, rfl⟩
  obtain ⟨error, same, -, -, wrong, -⟩ := parseConfig_text_stops {} lexed refused
  obtain rfl := Except.error.inj (failed.symm.trans same)
  exact (wrong ⟨.separator, ",", 6⟩ rfl).1

end ShaderBuild.Directive
