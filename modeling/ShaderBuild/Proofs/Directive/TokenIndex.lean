import ShaderBuild.Proofs.Directive.FirstMistake

/-! # The index of the wrong token

Tokens that are given as such may be equal. The error of a list of tokens does not count those that are
taken before the wrong one but those before the first one equal to it. These are the same unless an
equal token is among them.
-/

namespace ShaderBuild.Directive

open Outcome

theorem parseConfig_tokens_eq_error {defaults : Config} {tokens : List Token} {error : SyntaxError}
    (h : parseConfig defaults (.tokens tokens) = .error error) :
    ∃ blame, parseTokens tokens = .error blame ∧ error = blame.locate tokens (endOf tokens) := by
  simp only [parseConfig, parseDirectives, tokensOf, ok_bind] at h
  cases outcome : parseTokens tokens with
  | ok directives => simp [outcome, Except.map] at h
  | error blame =>
      simp only [outcome, Except.map, Except.error.injEq] at h
      exact ⟨blame, rfl, h.symm⟩

/-- A list of tokens is refused at the one place at which reading stops, one token at a time. At the end
    the error counts all tokens. Elsewhere it counts those before the first token that is equal to the
    one at this place, so its index is the place itself if and only if no such token has been taken. -/
theorem parseConfig_tokens_index (defaults : Config) {tokens : List Token} {error : SyntaxError}
    (refused : parseConfig defaults (.tokens tokens) = .error error) :
    ∃ taken left, tokens = taken ++ left ∧ Due.start.Stops error.mistake taken left ∧
      (∀ mistake others after, tokens = others ++ after → Due.start.Stops mistake others after →
        others = taken) ∧
      (left = [] → error.index = tokens.length ∧ error.token = "<end of input>") ∧
      ∀ token ∈ left.head?, error.token = token.text ∧ error.offset = token.offset ∧
        tokens[error.index]? = some token ∧ token ∉ tokens.take error.index ∧
        (error.index = taken.length ↔ token ∉ taken) := by
  obtain ⟨blame, failed, rfl⟩ := parseConfig_tokens_eq_error refused
  obtain @⟨taken, left, stops, shown⟩ := parseTokens_eq_error_iff.mp failed
  refine ⟨taken, left, rfl, ?_, ?_, ?_, ?_⟩
  · cases token? : blame.token? <;> simpa [Blame.locate, token?] using stops
  · intro mistake others after same other
    exact (other.unique stops same.symm).1
  · rintro rfl
    simp [Blame.locate, shown, endOfInput]
  · intro token next
    obtain ⟨rest, rfl⟩ := List.head?_eq_some_iff.mp next
    have inside : token ∈ taken ++ token :: rest := by simp
    simp only [Blame.locate, shown, List.head?_cons, List.getElem?_idxOf inside, idxOf_eq_front_iff,
      List.mem_take_iff_idxOf_lt inside, Nat.lt_irrefl, not_false_eq_true, and_self]

/-- Of two separators that stand side by side the second one is wrong, and the first one is counted. -/
theorem comma_counted_first :
    let vert : Token := ⟨.ident, "vert", 0⟩
    let comma : Token := ⟨.separator, ",", 0⟩
    ∃ error, parseConfig {} (.tokens [vert, comma, comma]) = .error error ∧
      Due.start.Stops error.mistake [vert, comma] [comma] ∧
      [vert, comma, comma][error.index]? = some comma ∧ error.index ≠ 2 := by
  intro vert comma
  have failed : parseConfig {} (.tokens [vert, comma, comma]) = .error ⟨.missingKeyword, ",", 1, 0⟩ := by
    decide +kernel
  have stops : Due.start.Stops .missingKeyword [vert, comma] [comma] := ⟨rfl, rfl⟩
  obtain ⟨taken, left, same, -, only, -, place⟩ := parseConfig_tokens_index {} failed
  obtain rfl := only _ _ _ rfl stops
  obtain rfl : [comma] = left := by simpa using same
  obtain ⟨-, -, first, -, itself⟩ := place comma rfl
  exact ⟨_, failed, stops, first, mt itself.mp (by simp)⟩

/-- Tokens of two texts, one after the other: the second word is wrong, for want of a separator before it,
    and the first one is counted. -/
theorem second_word_counted_first :
    let vert : Token := ⟨.ident, "vert", 0⟩
    tokenize "vert" = .ok [vert] ∧ Due.start.Stops .missingComma [vert] [vert] ∧
      ∃ error, parseConfig {} (.tokens ([vert] ++ [vert])) = .error error ∧
        error.mistake = .missingComma ∧ error.index ≠ [vert].length := by
  intro vert
  exact ⟨by decide +kernel, ⟨rfl, rfl⟩, ⟨.missingComma, "vert", 0, 0⟩, by decide +kernel, rfl, by decide⟩

end ShaderBuild.Directive
