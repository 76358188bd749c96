import ShaderBuild.Directive.Parser
import ShaderBuild.Proofs.Outcome

/-! # The grammar of directive lists

Derivations say which tokens make which directives, without a cursor and without fuel. The parser
reads exactly what can be derived: a token list has a reading if and only if the parser returns it.
-/

namespace ShaderBuild.Directive

open Outcome

/-- The tokens of one directive. -/
inductive Derives : List Token → Directive → Prop where
  | flag {keyword : Token} {chosen : Flag} (word : keyword.kind = .ident)
      (known : Flag.ofWord? keyword.text = some chosen) : Derives [keyword] (.flag chosen)
  | includeDir {keyword dir : Token} (word : keyword.kind = .ident) (spelled : keyword.text = "I")
      (string : dir.kind = .string) : Derives [keyword, dir] (.includeDir dir.value)
  | define {keyword name : Token} (word : keyword.kind = .ident) (spelled : keyword.text = "D")
      (ident : name.kind = .ident) : Derives [keyword, name] (.define name.text none)
  | defineAs {keyword name equals value : Token} (word : keyword.kind = .ident)
      (spelled : keyword.text = "D") (ident : name.kind = .ident) (sign : equals.kind = .equals)
      (valued : value.kind ∈ [Kind.string, .ident, .number]) :
      Derives [keyword, name, equals, value] (.define name.text (some value.value))
  | entryPoint {keyword equals name : Token} (word : keyword.kind = .ident)
      (spelled : keyword.text = "entry") (sign : equals.kind = .equals)
      (valued : name.kind ∈ [Kind.string, .ident]) :
      Derives [keyword, equals, name] (.entryPoint name.value)

/-- Directives with a separator between neighbours; one more may follow the last. -/
inductive Listed : List Token → List Directive → Prop where
  | nil : Listed [] []
  | last {tokens : List Token} {directive : Directive} (one : Derives tokens directive) :
      Listed tokens [directive]
  | more {tokens rest : List Token} {separator : Token} {directive : Directive}
      {directives : List Directive} (one : Derives tokens directive)
      (kind : separator.kind = .separator) (others : Listed rest directives) :
      Listed (tokens ++ separator :: rest) (directive :: directives)

/-- A directive list, before which a separator may stand. -/
inductive Reads : List Token → List Directive → Prop where
  | plain {tokens : List Token} {directives : List Directive} (listed : Listed tokens directives) :
      Reads tokens directives
  | led {tokens : List Token} {separator : Token} {directives : List Directive}
      (kind : separator.kind = .separator) (listed : Listed tokens directives) :
      Reads (separator :: tokens) directives

/-- Every directive starts with an identifier. -/
theorem Derives.head {tokens directive} (h : Derives tokens directive) :
    ∃ keyword rest, tokens = keyword :: rest ∧ keyword.kind = .ident := by
  cases h with
  | flag word _ => exact ⟨_, _, rfl, word⟩
  | includeDir word _ _ => exact ⟨_, _, rfl, word⟩
  | define word _ _ => exact ⟨_, _, rfl, word⟩
  | defineAs word _ _ _ _ => exact ⟨_, _, rfl, word⟩
  | entryPoint word _ _ _ => exact ⟨_, _, rfl, word⟩

theorem Listed.head {token rest directives} (h : Listed (token :: rest) directives) :
    token.kind = .ident := by
  generalize shape : token :: rest = tokens at h
  cases h with
  | nil => cases shape
  | last one | more one =>
      obtain ⟨keyword, more, rfl, word⟩ := one.head
      cases shape
      exact word

theorem expect_eq_ok {mistake kinds tokens token rest} :
    expect mistake kinds tokens = .ok (token, rest) ↔ tokens = token :: rest ∧ token.kind ∈ kinds := by
  cases tokens with
  | nil => simp [expect]
  | cons head tail =>
      simp only [expect, List.cons.injEq]
      split
      · simp only [Except.ok.injEq, Prod.mk.injEq]
        constructor
        · rintro ⟨rfl, rfl⟩
          exact ⟨⟨rfl, rfl⟩, ‹_›⟩
        · exact fun h => h.1
      · simp only [reduceCtorEq, false_iff, not_and]
        rintro ⟨rfl, rfl⟩
        assumption

@[simp] theorem expect_cons {mistake kinds token rest} (h : token.kind ∈ kinds) :
    expect mistake kinds (token :: rest) = .ok (token, rest) := expect_eq_ok.mpr ⟨rfl, h⟩

theorem parseIncludeDir_sound {tokens directive rest}
    (h : parseIncludeDir tokens = .ok (directive, rest)) {keyword : Token}
    (word : keyword.kind = .ident)
    (spelled : keyword.text = "I") :
    ∃ taken, tokens = taken ++ rest ∧ Derives (keyword :: taken) directive := by
  obtain ⟨⟨dir, after⟩, taken, done⟩ := bind_eq_ok.mp h
  obtain ⟨rfl, kind⟩ := expect_eq_ok.mp taken
  cases done
  exact ⟨[dir], rfl, .includeDir word spelled (by simpa using kind)⟩

theorem parseDefine_sound {tokens directive rest} (h : parseDefine tokens = .ok (directive, rest))
    {keyword : Token} (word : keyword.kind = .ident) (spelled : keyword.text = "D") :
    ∃ taken, tokens = taken ++ rest ∧ Derives (keyword :: taken) directive := by
  obtain ⟨⟨name, after⟩, named, done⟩ := bind_eq_ok.mp h
  obtain ⟨rfl, kind⟩ := expect_eq_ok.mp named
  have ident : name.kind = .ident := by simpa using kind
  simp only at done
  split at done
  · obtain ⟨⟨value, behind⟩, valued, ended⟩ := bind_eq_ok.mp done
    obtain ⟨rfl, kinds⟩ := expect_eq_ok.mp valued
    cases ended
    exact ⟨[name, _, value], rfl, .defineAs word spelled ident rfl kinds⟩
  · cases done
    exact ⟨[name], rfl, .define word spelled ident⟩

theorem parseEntryPoint_sound {tokens directive rest}
    (h : parseEntryPoint tokens = .ok (directive, rest)) {keyword : Token}
    (word : keyword.kind = .ident)
    (spelled : keyword.text = "entry") :
    ∃ taken, tokens = taken ++ rest ∧ Derives (keyword :: taken) directive := by
  obtain ⟨⟨equals, after⟩, signed, more⟩ := bind_eq_ok.mp h
  obtain ⟨rfl, sign⟩ := expect_eq_ok.mp signed
  obtain ⟨⟨name, behind⟩, named, done⟩ := bind_eq_ok.mp more
  obtain ⟨rfl, kinds⟩ := expect_eq_ok.mp named
  cases done
  exact ⟨[equals, name], rfl, .entryPoint word spelled (by simpa using sign) kinds⟩

/-- What the parser takes for a directive can be derived. -/
theorem parseOne_sound {tokens directive rest} (h : parseOne tokens = .ok (directive, rest)) :
    ∃ taken, tokens = taken ++ rest ∧ Derives taken directive := by
  obtain ⟨⟨keyword, after⟩, expected, done⟩ := bind_eq_ok.mp h
  obtain ⟨rfl, kind⟩ := expect_eq_ok.mp expected
  have word : keyword.kind = .ident := by simpa using kind
  simp only at done
  have step : (∃ taken, after = taken ++ rest ∧ Derives (keyword :: taken) directive) →
      ∃ taken, keyword :: after = taken ++ rest ∧ Derives taken directive := by
    rintro ⟨taken, rfl, derived⟩
    exact ⟨keyword :: taken, rfl, derived⟩
  split at done
  · next chosen known =>
      cases done
      exact ⟨[keyword], rfl, .flag word known⟩
  · split at done
    · exact step (parseIncludeDir_sound done word ‹_›)
    · split at done
      · exact step (parseDefine_sound done word ‹_›)
      · split at done
        · exact step (parseEntryPoint_sound done word ‹_›)
        · cases done

/-- A directive that can be derived is read, unless an equals sign after it asks for a value. -/
theorem parseOne_complete {tokens directive rest} (h : Derives tokens directive)
    (next : ∀ token ∈ rest.head?, token.kind ≠ .equals) :
    parseOne (tokens ++ rest) = .ok (directive, rest) := by
  cases h with
  | flag word known => simp [parseOne, word, known]
  | @includeDir keyword dir word spelled string =>
      have notFlag : Flag.ofWord? "I" = none := by decide
      simp [parseOne, parseIncludeDir, word, notFlag, spelled, string]
  | @define keyword name word spelled ident =>
      have notFlag : Flag.ofWord? "D" = none := by decide
      have unvalued : parseDefine (name :: rest) = .ok (.define name.text none, rest) := by
        cases rest with
        | nil => simp [parseDefine, ident]
        | cons token rest =>
            obtain ⟨kind, text, offset⟩ := token
            cases kind <;> simp_all [parseDefine]
      simp [parseOne, word, notFlag, spelled, unvalued]
  | @defineAs keyword name equals value word spelled ident sign valued =>
      have notFlag : Flag.ofWord? "D" = none := by decide
      obtain ⟨kind, text, offset⟩ := equals
      obtain rfl : kind = .equals := sign
      simp [parseOne, parseDefine, word, notFlag, spelled, ident, expect_cons valued]
  | @entryPoint keyword equals name word spelled sign valued =>
      have notFlag : Flag.ofWord? "entry" = none := by decide
      simp [parseOne, parseEntryPoint, word, notFlag, spelled, sign, expect_cons valued]

/-- What the parser takes for a list of directives can be derived, whatever the fuel left at the
    end. -/
theorem parseMany_sound {fuel tokens directives} (h : parseMany fuel tokens = .ok directives)
    (enough : tokens.length ≤ fuel) : Listed tokens directives := by
  induction fuel generalizing tokens directives with
  | zero =>
      obtain rfl : tokens = [] := List.length_eq_zero_iff.mp (by omega)
      cases h
      exact .nil
  | succ fuel ih =>
      cases tokens with
      | nil =>
          cases h
          exact .nil
      | cons head tail =>
          obtain ⟨⟨directive, after⟩, read, done⟩ := bind_eq_ok.mp h
          obtain ⟨taken, split_eq, derived⟩ := parseOne_sound read
          rw [split_eq]
          cases after with
          | nil =>
              cases done
              simpa using Listed.last derived
          | cons separator rest =>
              simp only at done
              split at done
              · next kind =>
                  obtain ⟨others, parsed, ended⟩ := bind_eq_ok.mp done
                  cases ended
                  obtain ⟨keyword, more, rfl, -⟩ := derived.head
                  have shorter : rest.length ≤ fuel := by
                    have lengths := congrArg List.length split_eq
                    simp only [List.length_cons, List.length_append] at lengths enough
                    omega
                  exact .more derived kind (ih parsed shorter)
              · cases done

theorem parseMany_complete {fuel tokens directives} (h : Listed tokens directives)
    (enough : tokens.length ≤ fuel) : parseMany fuel tokens = .ok directives := by
  induction h generalizing fuel with
  | nil => cases fuel <;> rfl
  | @last tokens directive one =>
      obtain ⟨keyword, more, rfl, -⟩ := one.head
      have read : parseOne (keyword :: more) = .ok (directive, []) := by
        simpa using @parseOne_complete _ _ [] one (by simp)
      cases fuel with
      | zero => simp at enough
      | succ fuel => simp [parseMany, read]
  | @more tokens rest separator directive directives one kind _ ih =>
      obtain ⟨keyword, more, rfl, -⟩ := one.head
      have read : parseOne (keyword :: (more ++ separator :: rest)) =
          .ok (directive, separator :: rest) := by
        simpa using @parseOne_complete _ _ (separator :: rest) one (by simp [kind])
      cases fuel with
      | zero => simp at enough
      | succ fuel =>
          have shorter : rest.length ≤ fuel := by
            simp only [List.cons_append, List.length_cons, List.length_append] at enough
            omega
          simp [parseMany, read, kind, ih shorter]

/-- The parser returns exactly the readings of a token list. -/
theorem parseTokens_eq_ok_iff {tokens directives} :
    parseTokens tokens = .ok directives ↔ Reads tokens directives := by
  constructor
  · intro h
    unfold parseTokens at h
    split at h
    · exact .led rfl (parseMany_sound h (by simp))
    · exact .plain (parseMany_sound h (Nat.le_refl _))
  · intro h
    cases h with
    | plain listed =>
        unfold parseTokens
        split
        · cases listed.head
        · exact parseMany_complete listed (Nat.le_refl _)
    | @led tokens separator directives kind listed =>
        obtain ⟨sort, text, offset⟩ := separator
        obtain rfl : sort = .separator := kind
        exact parseMany_complete listed (by simp)

end ShaderBuild.Directive
