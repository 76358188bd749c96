import ShaderBuild.Proofs.Directive.Expressible
import ShaderBuild.Proofs.Directive.FirstMistake

/-! # Tokens in print

Tokens are read again from their texts with spaces in between if and only if each text is spelled in the
way of its kind. Any text at all is the value of a string token.
-/

namespace ShaderBuild.Directive

/-- A token without its place. -/
def Token.word (token : Token) : Word := ⟨token.kind, token.text.toList⟩

/-- The texts of tokens, with a space between neighbours. -/
def printed (tokens : List Token) : String := " ".intercalate (tokens.map (·.text))

/-- The texts of tokens, with a space behind each. -/
def spacedOut (tokens : List Token) : String := String.join (tokens.map (·.text ++ " "))

/-- Tokens with the kinds and texts of others, each at the offset at which its text stands in their print. -/
structure Reprinted (tokens again : List Token) : Prop where
  words : again.map (·.word) = tokens.map (·.word)
  places : ∀ (before : List Token) (token : Token) (after : List Token),
    again = before ++ token :: after → token.offset = (spacedOut before).length ∧
      ∃ rest, printed tokens = spacedOut before ++ token.text ++ rest

@[simp] theorem spacedOut_cons (token : Token) (tokens : List Token) :
    spacedOut (token :: tokens) = token.text ++ " " ++ spacedOut tokens := String.join_cons

theorem toList_printed (tokens : List Token) :
    (printed tokens).toList = Word.spaced (tokens.map (·.word)) := by
  rw [printed, String.toList_intercalate, Word.spaced, Text.joinWith_eq_intercalate, List.map_map,
    List.map_map]
  rfl

/-- What is printed of tokens does not depend on their places. -/
theorem printed_congr {tokens again : List Token} (same : again.map (·.word) = tokens.map (·.word)) :
    printed again = printed tokens := by
  rw [← String.toList_inj, toList_printed, toList_printed, same]

/-- In print, the texts before a token stand in front of its own, each with a space behind it. -/
theorem printed_append (before : List Token) (token : Token) (after : List Token) :
    ∃ rest, printed (before ++ token :: after) = spacedOut before ++ token.text ++ rest := by
  induction before with
  | nil =>
      cases after with
      | nil => exact ⟨"", by simp [printed, spacedOut]⟩
      | cons next after =>
          refine ⟨" " ++ printed (next :: after), ?_⟩
          simp [printed, spacedOut, String.intercalate_cons_cons, String.append_assoc]
  | cons first before ih =>
      obtain ⟨rest, same⟩ := ih
      have some : (before ++ token :: after).map (·.text) ≠ [] := by simp
      refine ⟨rest, ?_⟩
      rw [printed] at same
      rw [printed, List.cons_append, List.map_cons, String.intercalate_cons_of_ne_nil some, same,
        spacedOut_cons]
      simp only [String.append_assoc]

namespace Word

theorem word_token (word : Word) (offset : Nat) : (word.token offset).word = word := by
  simp [token, Token.word]

theorem map_word_placed (words : List Word) (offset : Nat) :
    (placed offset words).map (·.word) = words := by
  induction words generalizing offset with
  | nil => rfl
  | cons word words ih => rw [placed, List.map_cons, word_token, ih]

/-- Each word stands behind the words before it and as many spaces. -/
theorem offset_of_placed {words : List Word} {start : Nat} {before after : List Token} {token : Token}
    (h : placed start words = before ++ token :: after) :
    token.offset = (start + (spacedOut before).length : Nat) := by
  induction before generalizing words start with
  | nil =>
      cases words with
      | nil => cases h
      | cons word words =>
          obtain ⟨rfl, -⟩ := List.cons.inj h
          rfl
  | cons first before ih =>
      cases words with
      | nil => cases h
      | cons word words =>
          obtain ⟨rfl, others⟩ := List.cons.inj h
          have space : " ".length = 1 := rfl
          rw [ih others, spacedOut_cons, String.length_append, String.length_append, space]
          simp [next, Word.token, Nat.add_assoc]

end Word

theorem reprinted_placed (tokens : List Token) :
    Reprinted tokens (Word.placed 0 (tokens.map (·.word))) where
  words := Word.map_word_placed _ _
  places := by
    intro before token after placed
    refine ⟨by simpa using Word.offset_of_placed placed, ?_⟩
    rw [← printed_congr (Word.map_word_placed (tokens.map (·.word)) 0), placed]
    exact printed_append before token after

/-- Any text in quotation marks, with a backslash before each quotation mark and each backslash in it. -/
def literal (text : String) : String := String.ofList ('"' :: (escape text.toList ++ ['"']))

theorem tokenize_literal (text : String) :
    tokenize (literal text) = .ok [⟨.string, literal text, 0⟩] := by
  have spelled : ∀ word ∈ [Word.quoted text], word.Spelled := by simpa using Word.quoted_spelled text
  have lexed := Word.tokenize_spaced spelled
  rwa [Word.spaced, List.map_singleton, Text.joinWith] at lexed

/-- Tokens are read again from their print, each where its text stands in it, if and only if each text is
    spelled in the way of its token's kind. A literal is a single token, and its value is the text that it
    is made of. -/
theorem tokens_survive_print (tokens : List Token) (text : String) :
    ((∃ again, tokenize (printed tokens) = .ok again ∧ Reprinted tokens again) ↔
      ∀ token ∈ tokens, token.Spelled) ∧
    tokenize (literal text) = .ok [⟨.string, literal text, 0⟩] ∧
      Token.value ⟨.string, literal text, 0⟩ = text := by
  refine ⟨⟨?_, ?_⟩, tokenize_literal text, Word.quoted_value text 0⟩
  · rintro ⟨again, lexed, reprinted⟩ token member
    have found : token.word ∈ again.map (·.word) := by
      rw [reprinted.words]
      exact List.mem_map_of_mem member
    obtain ⟨other, inside, same⟩ := List.mem_map.mp found
    have spelled : other.word.Spelled := tokenize_spells lexed other inside
    rwa [same] at spelled
  · intro spelled
    have words : ∀ word ∈ tokens.map (·.word), word.Spelled := List.forall_mem_map.mpr spelled
    have lexed := Word.tokenize_spaced words
    rw [← toList_printed, String.ofList_toList] at lexed
    exact ⟨_, lexed, reprinted_placed tokens⟩

theorem string_and_number_survive :
    let tokens : List Token := [⟨.string, "\"a, \\\" b\n\"", 7⟩, ⟨.number, "2.x", 7⟩]
    (∀ token ∈ tokens, token.Spelled) ∧
      ∃ again, tokenize "\"a, \\\" b\n\" 2.x" = .ok again ∧ Reprinted tokens again := by
  intro tokens
  have string : Token.Spelled ⟨.string, "\"a, \\\" b\n\"", 7⟩ :=
    @Spells.string ['a', ',', ' ', '\\', '"', ' ', 'b', '\n'] rfl
  have number : Token.Spelled ⟨.number, "2.x", 7⟩ := @Spells.number '2' ['.', 'x'] rfl rfl
  have spelled : ∀ token ∈ tokens, token.Spelled := by simpa [tokens] using ⟨string, number⟩
  exact ⟨spelled, (tokens_survive_print tokens "").1.mpr spelled⟩

end ShaderBuild.Directive
