import ShaderBuild.Proofs.Directive.Grammar
import ShaderBuild.Proofs.Directive.Spelling

/-! # Printing directive lists

A list of directives is written word by word, strings with a backslash before each quotation mark
and each backslash. The text is read as the list that it was printed from.
-/

namespace ShaderBuild

namespace Directive

/-- A text with a backslash before each quotation mark and each backslash. -/
def escape : List Char → List Char
  | [] => []
  | c :: rest => if c = '"' ∨ c = '\\' then '\\' :: c :: escape rest else c :: escape rest

theorem isGuarded_escape (text : List Char) : isGuarded (escape text) = true := by
  induction text with
  | nil => rfl
  | cons c rest ih =>
      simp only [escape]
      split
      · simpa only [isGuarded] using ih
      · next plain =>
          obtain ⟨notQuote, notBackslash⟩ := not_or.mp plain
          rw [isGuarded.eq_3 c _ (fun _ _ backslash _ => notBackslash backslash)]
          simp [notQuote, notBackslash, ih]

theorem unescape_escape (text : List Char) : unescape (escape text) = text := by
  induction text with
  | nil => rfl
  | cons c rest ih =>
      simp only [escape]
      split
      · next special =>
          have itself : escaped c = c := by rcases special with rfl | rfl <;> rfl
          rw [unescape, ih, itself]
      · next plain =>
          obtain ⟨-, notBackslash⟩ := not_or.mp plain
          rw [unescape.eq_3 c _ (fun _ _ backslash _ => notBackslash backslash), ih]

namespace Word

def ident (text : String) : Word := ⟨.ident, text.toList⟩

def quoted (text : String) : Word := ⟨.string, '"' :: (escape text.toList ++ ['"'])⟩

def equals : Word := ⟨.equals, ['=']⟩

def separator : Word := ⟨.separator, [',']⟩

theorem quoted_spelled (text : String) : (quoted text).Spelled :=
  .string (isGuarded_escape text.toList)

@[simp] theorem quoted_value (text : String) (offset : Nat) :
    ((quoted text).token offset).value = text := by
  simp [token, quoted, Token.value, unescape_escape]

@[simp] theorem ident_text (text : String) (offset : Nat) :
    ((ident text).token offset).text = text := by
  simp [token, ident]

/-- The length of words with a space after each. -/
def span : List Word → Nat
  | [] => 0
  | word :: words => word.text.length + 1 + span words

theorem placed_append (left right : List Word) (offset : Nat) :
    placed offset (left ++ right) = placed offset left ++ placed (offset + span left) right := by
  induction left generalizing offset with
  | nil => rfl
  | cons word left ih =>
      simp only [List.cons_append, placed, ih, next, span, Nat.add_assoc]

end Word

end Directive

def Flag.word (flag : Flag) : String :=
  ((Flag.words.find? fun entry => entry.2 = flag).map (·.1)).getD ""

theorem Flag.isName_of_known {word flag} (known : Flag.ofWord? word = some flag) :
    isName word.toList = true := by
  have names : ∀ entry ∈ Flag.words, isName entry.1.toList = true := by decide
  have member : (word, flag) ∈ Flag.words := by
    simp only [Flag.ofWord?] at known
    generalize Flag.words = entries at known ⊢
    induction entries with
    | nil => cases known
    | cons entry entries ih =>
        obtain ⟨name, chosen⟩ := entry
        simp only [List.lookup_cons] at known
        split at known
        · next same =>
            cases known
            obtain rfl : word = name := by simpa using same
            simp
        · exact List.mem_cons_of_mem _ (ih known)
  exact names _ member

namespace Directive

/-- A directive that some words say: its flag has a word, and its macro a name. -/
def Writable : Directive → Prop
  | .flag chosen => Flag.ofWord? chosen.word = some chosen
  | .define name _ => isName name.toList = true
  | .includeDir _ | .entryPoint _ => True

def words : Directive → List Word
  | .flag chosen => [.ident chosen.word]
  | .includeDir dir => [.ident "I", .quoted dir]
  | .define name none => [.ident "D", .ident name]
  | .define name (some value) => [.ident "D", .ident name, .equals, .quoted value]
  | .entryPoint name => [.ident "entry", .equals, .quoted name]

/-- The words of some directives, with a separator between neighbours. -/
def listWords : List Directive → List Word
  | [] => []
  | [directive] => directive.words
  | directive :: directives => directive.words ++ .separator :: listWords directives

def print (directives : List Directive) : String := String.ofList (Word.spaced (listWords directives))

theorem words_spelled {directive : Directive} (h : directive.Writable) :
    ∀ word ∈ directive.words, word.Spelled := by
  have keyword : ∀ text : String, isName text.toList = true → (Word.ident text).Spelled :=
    fun _ name => .ident name
  cases directive with
  | flag chosen => simpa [words] using keyword _ (Flag.isName_of_known h)
  | includeDir dir => simpa [words] using ⟨keyword "I" (by decide), Word.quoted_spelled dir⟩
  | define name value =>
      cases value with
      | none => simpa [words] using ⟨keyword "D" (by decide), keyword name h⟩
      | some value =>
          simpa [words] using
            ⟨keyword "D" (by decide), keyword name h, .equals, Word.quoted_spelled value⟩
  | entryPoint name =>
      simpa [words] using ⟨keyword "entry" (by decide), .equals, Word.quoted_spelled name⟩

theorem listWords_spelled {directives : List Directive}
    (h : ∀ directive ∈ directives, directive.Writable) :
    ∀ word ∈ listWords directives, word.Spelled := by
  induction directives with
  | nil => simp [listWords]
  | cons directive directives ih =>
      have first := words_spelled (h directive (by simp))
      have others := ih fun other member => h other (List.mem_cons_of_mem _ member)
      cases directives with
      | nil => exact first
      | cons next directives =>
          intro word member
          simp only [listWords, List.mem_append, List.mem_cons] at member
          rcases member with member | rfl | member
          · exact first word member
          · exact .separator
          · exact others word member

/-- The words of a directive, wherever they stand, are a derivation of it. -/
theorem derives_words {directive : Directive} (h : directive.Writable) (offset : Nat) :
    Derives (Word.placed offset directive.words) directive := by
  cases directive with
  | flag chosen =>
      refine .flag rfl ?_
      rw [Word.ident_text]
      exact h
  | includeDir dir =>
      let keyword := Word.ident "I"
      have derived := @Derives.includeDir (keyword.token offset)
        ((Word.quoted dir).token (keyword.next offset)) rfl (by simp [keyword]) rfl
      rwa [Word.quoted_value] at derived
  | define name value =>
      let keyword := Word.ident "D"
      let ident := Word.ident name
      cases value with
      | none =>
          have derived := @Derives.define (keyword.token offset) (ident.token (keyword.next offset))
            rfl (by simp [keyword]) rfl
          rwa [Word.ident_text] at derived
      | some value =>
          let equalsAt := ident.next (keyword.next offset)
          have derived := @Derives.defineAs (keyword.token offset) (ident.token (keyword.next offset))
            (Word.equals.token equalsAt) ((Word.quoted value).token (Word.equals.next equalsAt))
            rfl (by simp [keyword]) rfl rfl (.head _)
          rwa [Word.ident_text, Word.quoted_value] at derived
  | entryPoint name =>
      let keyword := Word.ident "entry"
      let equalsAt := keyword.next offset
      have derived := @Derives.entryPoint (keyword.token offset) (Word.equals.token equalsAt)
        ((Word.quoted name).token (Word.equals.next equalsAt)) rfl (by simp [keyword]) rfl (.head _)
      rwa [Word.quoted_value] at derived

theorem listed_listWords {directives : List Directive}
    (h : ∀ directive ∈ directives, directive.Writable)
    (offset : Nat) : Listed (Word.placed offset (listWords directives)) directives := by
  induction directives generalizing offset with
  | nil => exact .nil
  | cons directive directives ih =>
      have first := derives_words (h directive (by simp))
      cases directives with
      | nil => exact .last (first offset)
      | cons next directives =>
          have others := ih fun other member => h other (List.mem_cons_of_mem _ member)
          rw [listWords, Word.placed_append]
          exact .more (first offset) rfl (others _)
          simp

/-- A printed list is read as the list that it was printed from. -/
theorem parseDirectives_print {directives : List Directive}
    (h : ∀ directive ∈ directives, directive.Writable) :
    parseDirectives (.text (print directives)) = .ok directives := by
  have lexed := Word.tokenize_spaced (listWords_spelled h)
  have parsed := parseTokens_eq_ok_iff.mpr (.plain (listed_listWords h 0))
  simp [parseDirectives, tokensOf, print, lexed, Except.map, parsed]

end Directive

end ShaderBuild
