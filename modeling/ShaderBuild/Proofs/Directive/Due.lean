import ShaderBuild.Proofs.Directive.Separation

/-! # One token at a time

A reader that takes the tokens of a directive list one by one has to remember nothing but what is due
next. It takes a list to its end, and may end there, if and only if the parser accepts it. It stops where
the parser does, for the same mistake.
-/

namespace ShaderBuild.Directive

open Outcome

/-- What is due next in a directive list. -/
inductive Due where
  /-- The first directive, before which a separator may stand. -/
  | start
  | keyword
  | includeDir
  | macroName
  /-- The equals sign behind the name of a macro, which may be missing. -/
  | macroSign (macroName : String)
  | macroValue (macroName : String)
  | entrySign
  | entryName
  | separator
  deriving Repr, DecidableEq

namespace Due

/-- Take a token of one of the given kinds. -/
def require (mistake : Mistake) (kinds : List Kind) (next : Due) (token : Token) : Except Mistake Due :=
  if token.kind ∈ kinds then .ok next else .error mistake

/-- What is due behind a keyword. -/
def behind? (word : String) : Option Due :=
  if (Flag.ofWord? word).isSome then some .separator
  else if word = "I" then some .includeDir
  else if word = "D" then some .macroName
  else if word = "entry" then some .entrySign
  else none

def takeKeyword (token : Token) : Except Mistake Due :=
  if token.kind = .ident then
    match behind? token.text with
    | some next => .ok next
    | none => .error .unknownKeyword
  else .error .missingKeyword

/-- What is due after a token, or what is wrong with it. -/
def take : Due → Token → Except Mistake Due
  | .start, token => if token.kind = .separator then .ok .keyword else takeKeyword token
  | .keyword, token => takeKeyword token
  | .includeDir, token => require .missingIncludeDir [.string] .separator token
  | .macroName, token => require .missingMacroName [.ident] (.macroSign token.text) token
  | .macroSign name, token =>
    if token.kind = .equals then .ok (.macroValue name)
    else require .missingComma [.separator] .keyword token
  | .macroValue name, token =>
    require (.missingMacroValue name) [.string, .ident, .number] .separator token
  | .entrySign, token => require .missingEntryEquals [.equals] .entryName token
  | .entryName, token => require .missingEntryName [.string, .ident] .separator token
  | .separator, token => require .missingComma [.separator] .keyword token

/-- What is wrong with a list that ends here. -/
def missing? : Due → Option Mistake
  | .includeDir => some .missingIncludeDir
  | .macroName => some .missingMacroName
  | .macroValue name => some (.missingMacroValue name)
  | .entrySign => some .missingEntryEquals
  | .entryName => some .missingEntryName
  | .start | .keyword | .macroSign _ | .separator => none

/-- What is wrong with the next token, or with the end if there is none. -/
def refusal? (due : Due) : Option Token → Option Mistake
  | none => due.missing?
  | some token =>
    match due.take token with
    | .ok _ => none
    | .error mistake => some mistake

/-- The tokens that are taken one after another before a mistake, and those from the mistake on. -/
inductive Stops (due : Due) (mistake : Mistake) (taken left : List Token) : Prop where
  | intro {last : Due} (reached : taken.foldlM take due = .ok last)
      (refused : last.refusal? left.head? = some mistake)

/-- Tokens that are all taken one after another, and that may end there. -/
inductive Finishes (due : Due) (tokens : List Token) : Prop where
  | intro {last : Due} (reached : tokens.foldlM take due = .ok last) (ends : last.missing? = none)

@[simp] theorem behind?_include : behind? "I" = some .includeDir := by decide

@[simp] theorem behind?_define : behind? "D" = some .macroName := by decide

@[simp] theorem behind?_entry : behind? "entry" = some .entrySign := by decide

theorem take_keyword {token : Token} {next : Due} (word : token.kind = .ident)
    (known : behind? token.text = some next) : take .keyword token = .ok next := by
  simp [take, takeKeyword, word, known]

theorem require_of_mem {mistake : Mistake} {kinds : List Kind} {next : Due} {token : Token}
    (kind : token.kind ∈ kinds) : require mistake kinds next token = .ok next := if_pos kind

/-- A token other than a separator is taken in front as it is behind a separator. -/
theorem take_start {token : Token} (other : token.kind ≠ .separator) :
    take .start token = take .keyword token := if_neg other

/-- A token other than an equals sign is taken behind the name of a macro as it is behind a directive. -/
theorem take_macroSign {name : String} {token : Token} (other : token.kind ≠ .equals) :
    take (.macroSign name) token = take .separator token := if_neg other

theorem refusal?_of_error {due : Due} {token : Token} {mistake : Mistake}
    (wrong : due.take token = .error mistake) : due.refusal? (some token) = some mistake := by
  simp [refusal?, wrong]

variable {due next last : Due} {mistake another : Mistake} {taken left others after : List Token}

theorem Stops.behind {front : List Token} (h : next.Stops mistake taken left)
    (reached : front.foldlM take due = .ok next) : due.Stops mistake (front ++ taken) left := by
  obtain ⟨more, refused⟩ := h
  exact ⟨by rw [List.foldlM_append, reached, ok_bind, more], refused⟩

theorem Finishes.behind {front : List Token} (h : next.Finishes left)
    (reached : front.foldlM take due = .ok next) : due.Finishes (front ++ left) := by
  obtain ⟨more, ends⟩ := h
  exact ⟨by rw [List.foldlM_append, reached, ok_bind, more], ends⟩

theorem Finishes.behind_token {token : Token} (h : next.Finishes left)
    (taken : due.take token = .ok next) : due.Finishes (token :: left) :=
  @behind due next left [token] h (by simp [taken])

/-- Where reading stops, no further token is taken. -/
theorem Stops.not_reached {token : Token} {more : List Token} (h : due.Stops mistake taken (token :: left))
    (reached : (taken ++ token :: more).foldlM take due = .ok last) : False := by
  obtain ⟨own, refused⟩ := h
  rw [List.foldlM_append, own, ok_bind, List.foldlM_cons] at reached
  obtain ⟨next, accepted, -⟩ := bind_eq_ok.mp reached
  simp [refusal?, accepted] at refused

theorem Stops.not_finishes (h : due.Stops mistake taken left) : ¬ due.Finishes (taken ++ left) := by
  rintro ⟨reached, ends⟩
  cases left with
  | nil =>
      obtain ⟨own, refused⟩ := h
      rw [List.append_nil, own] at reached
      cases reached
      simp [refusal?, ends] at refused
  | cons token left => exact h.not_reached reached

/-- Reading stops at one place, for one mistake. -/
theorem Stops.unique (one : due.Stops mistake taken left) (other : due.Stops another others after)
    (same : taken ++ left = others ++ after) : taken = others ∧ mistake = another := by
  have place : taken = others := by
    rcases List.append_eq_append_iff.mp same with ⟨more, rfl, rfl⟩ | ⟨more, rfl, rfl⟩
    · cases more with
      | nil => simp
      | cons token more =>
          obtain ⟨reached, -⟩ := other
          exact (one.not_reached reached).elim
    · cases more with
      | nil => simp
      | cons token more =>
          obtain ⟨reached, -⟩ := one
          exact (other.not_reached reached).elim
  subst place
  obtain rfl := List.append_cancel_left same
  obtain ⟨reached, refused⟩ := one
  obtain ⟨again, refusedToo⟩ := other
  cases reached.symm.trans again
  exact ⟨rfl, Option.some.inj (refused.symm.trans refusedToo)⟩

end Due

/-! ## The parser stops there -/

/-- The mistake and the token that are blamed are those at which reading stops. -/
inductive Blames (due : Due) (blame : Blame) : List Token → Prop where
  | intro {taken left : List Token} (stops : due.Stops blame.mistake taken left)
      (shown : blame.token? = left.head?) : Blames due blame (taken ++ left)

namespace Blames

variable {due next : Due} {blame : Blame} {token : Token} {tokens rest : List Token}

theorem behind {front : List Token} (h : Blames next blame tokens)
    (reached : front.foldlM Due.take due = .ok next) : Blames due blame (front ++ tokens) := by
  obtain ⟨stops, shown⟩ := h
  rw [← List.append_assoc]
  exact ⟨stops.behind reached, shown⟩

theorem behind_token (h : Blames next blame tokens) (taken : due.take token = .ok next) :
    Blames due blame (token :: tokens) :=
  @behind due next blame tokens [token] h (by simp [taken])

theorem at_token {mistake : Mistake} (wrong : due.take token = .error mistake) :
    Blames due ⟨mistake, some token⟩ (token :: rest) :=
  @intro due ⟨mistake, some token⟩ [] (token :: rest) ⟨rfl, Due.refusal?_of_error wrong⟩ rfl

theorem unique {other : Blame} (h : Blames due blame tokens) (again : Blames due other tokens) :
    blame = other := by
  obtain @⟨taken, left, stops, shown⟩ := h
  generalize same : taken ++ left = tokens at again
  obtain ⟨stopsToo, shownToo⟩ := again
  obtain ⟨rfl, mistake⟩ := stops.unique stopsToo same
  obtain rfl := List.append_cancel_left same
  exact congr (congrArg Blame.mk mistake) (shown.trans shownToo.symm)

/-- The parser's demand is the one that is due. -/
theorem of_expect {mistake : Mistake} {kinds : List Kind} {after : Token → Due}
    (failed : expect mistake kinds tokens = .error blame)
    (demands : ∀ token, due.take token = Due.require mistake kinds (after token) token)
    (ends : due.missing? = some mistake) : Blames due blame tokens := by
  cases tokens with
  | nil =>
      cases failed
      exact @intro due ⟨mistake, none⟩ [] [] ⟨rfl, ends⟩ rfl
  | cons token rest =>
      simp only [expect] at failed
      split at failed
      · cases failed
      · next other =>
          cases failed
          exact at_token (by rw [demands, Due.require, if_neg other])

/-- Without a separator in front the first directive is read like any other one. -/
theorem start (h : Blames .keyword blame tokens) (apart : StartsApart tokens) :
    Blames .start blame tokens := by
  obtain @⟨taken, left, ⟨reached, refused⟩, shown⟩ := h
  cases taken with
  | nil =>
      cases reached
      refine @intro .start blame [] left ⟨rfl, ?_⟩ shown
      cases left with
      | nil => exact refused
      | cons token rest => rwa [List.head?_cons, Due.refusal?, Due.take_start (apart token rfl)]
  | cons token rest =>
      refine .intro ⟨?_, refused⟩ shown
      rwa [List.foldlM_cons, Due.take_start (apart token rfl)]

end Blames

theorem parseIncludeDir_blames {rest blame} (h : parseIncludeDir rest = .error blame) :
    Blames .includeDir blame rest := by
  obtain failed | ⟨_, _, done⟩ := bind_eq_error.mp h
  · exact .of_expect failed (fun _ => rfl) rfl
  · cases done

theorem parseDefine_blames {rest blame} (h : parseDefine rest = .error blame) :
    Blames .macroName blame rest := by
  obtain failed | ⟨⟨name, after⟩, named, more⟩ := bind_eq_error.mp h
  · exact .of_expect failed (fun _ => rfl) rfl
  · obtain ⟨rfl, kind⟩ := expect_eq_ok.mp named
    simp only at more
    split at more
    · obtain failed | ⟨_, _, done⟩ := bind_eq_error.mp more
      · have valued : Blames (.macroValue name.text) blame _ := .of_expect failed (fun _ => rfl) rfl
        exact (valued.behind_token rfl).behind_token (if_pos kind)
      · cases done
    · cases more

theorem parseEntryPoint_blames {rest blame} (h : parseEntryPoint rest = .error blame) :
    Blames .entrySign blame rest := by
  obtain failed | ⟨⟨sign, after⟩, signed, more⟩ := bind_eq_error.mp h
  · exact .of_expect failed (fun _ => rfl) rfl
  · obtain ⟨rfl, kind⟩ := expect_eq_ok.mp signed
    obtain failed | ⟨_, _, done⟩ := bind_eq_error.mp more
    · have named : Blames .entryName blame after := .of_expect failed (fun _ => rfl) rfl
      exact named.behind_token (if_pos kind)
    · cases done

theorem parseOne_blames {token rest blame} (h : parseOne (token :: rest) = .error blame) :
    Blames .keyword blame (token :: rest) := by
  obtain failed | ⟨⟨keyword, after⟩, expected, more⟩ := bind_eq_error.mp h
  · simp only [expect] at failed
    split at failed
    · cases failed
    · next other =>
        cases failed
        exact .at_token (if_neg (by simpa using other))
  · obtain ⟨same, kind⟩ := expect_eq_ok.mp expected
    obtain ⟨rfl, rfl⟩ := List.cons.inj same
    have word : token.kind = .ident := by simpa using kind
    simp only at more
    split at more
    · cases more
    · split at more
      · next spelled =>
          exact (parseIncludeDir_blames more).behind_token (Due.take_keyword word (by simp [spelled]))
      · split at more
        · next spelled =>
            exact (parseDefine_blames more).behind_token (Due.take_keyword word (by simp [spelled]))
        · split at more
          · next spelled =>
              exact (parseEntryPoint_blames more).behind_token (Due.take_keyword word (by simp [spelled]))
          · cases more
            exact .at_token (by simp_all [Due.take, Due.takeKeyword, Due.behind?])

/-- Behind a directive a separator is due, or the equals sign of a macro that has no value. -/
theorem Derives.reached {tokens directive} (h : Derives tokens directive) :
    tokens.foldlM Due.take .keyword = .ok .separator ∨
      ∃ keyword name, tokens = [keyword, name] ∧ keyword.text = "D" ∧
        tokens.foldlM Due.take .keyword = .ok (.macroSign name.text) := by
  cases h with
  | flag word known =>
      exact .inl (by simp [Due.take, Due.takeKeyword, Due.behind?, word, known])
  | includeDir word spelled string =>
      exact .inl (by simp [Due.take, Due.takeKeyword, Due.require, word, spelled, string])
  | define word spelled ident =>
      refine .inr ⟨_, _, rfl, spelled, ?_⟩
      simp [Due.take, Due.takeKeyword, Due.require, word, spelled, ident]
  | defineAs word spelled ident sign valued =>
      exact .inl (by simp [Due.take, Due.takeKeyword, Due.require_of_mem, word, spelled, ident, sign, valued])
  | entryPoint word spelled sign valued =>
      exact .inl (by simp [Due.take, Due.takeKeyword, Due.require_of_mem, word, spelled, sign, valued])

/-- An equals sign behind the name of a macro is not left over. -/
theorem parseOne_takes_sign {keyword name token : Token} {rest : List Token} {directive : Directive}
    (h : parseOne (keyword :: name :: token :: rest) = .ok (directive, token :: rest))
    (spelled : keyword.text = "D") : token.kind ≠ .equals := by
  intro sign
  have notFlag : Flag.ofWord? "D" = none := by decide
  obtain ⟨⟨_, after⟩, expected, define⟩ := bind_eq_ok.mp h
  obtain ⟨same, -⟩ := expect_eq_ok.mp expected
  obtain ⟨rfl, rfl⟩ := List.cons.inj same
  simp only [spelled, notFlag] at define
  obtain ⟨⟨_, behind⟩, named, done⟩ := bind_eq_ok.mp define
  obtain ⟨same, -⟩ := expect_eq_ok.mp named
  obtain ⟨rfl, rfl⟩ := List.cons.inj same
  obtain ⟨kind, text, offset⟩ := token
  obtain rfl : kind = .equals := sign
  obtain ⟨⟨_, left⟩, valued, ended⟩ := bind_eq_ok.mp done
  obtain ⟨rfl, -⟩ := expect_eq_ok.mp valued
  cases ended

theorem parseOne_reaches {tokens directive rest} (read : parseOne tokens = .ok (directive, rest)) :
    ∃ taken last, tokens = taken ++ rest ∧ taken.foldlM Due.take .keyword = .ok last ∧
      ∀ token ∈ rest.head?, last.take token = Due.separator.take token := by
  obtain ⟨taken, rfl, one⟩ := parseOne_sound read
  rcases one.reached with reached | ⟨keyword, name, rfl, spelled, reached⟩
  · exact ⟨taken, _, rfl, reached, fun _ _ => rfl⟩
  · refine ⟨[keyword, name], _, rfl, reached, fun token next => ?_⟩
    obtain ⟨more, rfl⟩ := List.head?_eq_some_iff.mp next
    exact Due.take_macroSign (parseOne_takes_sign read spelled)

theorem parseMany_blames {fuel tokens blame} (h : parseMany fuel tokens = .error blame) :
    Blames .keyword blame tokens := by
  induction fuel generalizing tokens with
  | zero => cases h
  | succ fuel ih =>
      cases tokens with
      | nil => cases h
      | cons head tail =>
          obtain failed | ⟨⟨directive, rest⟩, read, more⟩ := bind_eq_error.mp h
          · exact parseOne_blames failed
          · obtain ⟨taken, last, split_eq, reached, due⟩ := parseOne_reaches read
            rw [split_eq]
            cases rest with
            | nil => cases more
            | cons token rest =>
                have next : last.take token = Due.separator.take token := due token rfl
                simp only at more
                split at more
                · next kind =>
                    have divided : last.take token = .ok .keyword := by
                      rw [next]
                      exact Due.require_of_mem (by simpa using kind)
                    obtain failed | ⟨_, _, done⟩ := bind_eq_error.mp more
                    · exact ((ih failed).behind_token divided).behind reached
                    · cases done
                · next other =>
                    cases more
                    refine Blames.behind (.at_token ?_) reached
                    rw [next]
                    exact if_neg (by simpa using other)

theorem parseTokens_blames {tokens blame} (h : parseTokens tokens = .error blame) :
    Blames .start blame tokens := by
  unfold parseTokens at h
  split at h
  · exact (parseMany_blames h).behind_token rfl
  · next apart =>
      refine (parseMany_blames h).start fun token front kind => ?_
      obtain ⟨rest, rfl⟩ := List.head?_eq_some_iff.mp front
      obtain ⟨sort, text, offset⟩ := token
      obtain rfl : sort = .separator := kind
      exact apart _ _ _ rfl

/-! ## What is accepted is taken to its end -/

theorem Derives.finishes {tokens directive} (h : Derives tokens directive) :
    Due.keyword.Finishes tokens := by
  rcases h.reached with reached | ⟨_, _, -, -, reached⟩
  · exact ⟨reached, rfl⟩
  · exact ⟨reached, rfl⟩

/-- Behind a directive a separator is taken, and then a keyword is due. -/
theorem Derives.divided {tokens rest directive} (h : Derives tokens directive) {separator : Token}
    (kind : separator.kind = .separator) (others : Due.keyword.Finishes rest) :
    Due.keyword.Finishes (tokens ++ separator :: rest) := by
  have divided : Due.separator.take separator = .ok .keyword := Due.require_of_mem (by simp [kind])
  rcases h.reached with reached | ⟨_, name, -, -, reached⟩
  · exact (others.behind_token divided).behind reached
  · have dividedToo : (Due.macroSign name.text).take separator = .ok .keyword := by
      rw [Due.take_macroSign (by simp [kind]), divided]
    exact (others.behind_token dividedToo).behind reached

theorem Listed.finishes {tokens directives} (h : Listed tokens directives) :
    Due.keyword.Finishes tokens := by
  induction h with
  | nil => exact ⟨rfl, rfl⟩
  | last one => exact one.finishes
  | more one kind _ ih => exact one.divided kind ih

theorem Reads.finishes {tokens directives} (h : Reads tokens directives) : Due.start.Finishes tokens := by
  cases h with
  | plain listed =>
      cases tokens with
      | nil => exact ⟨rfl, rfl⟩
      | cons token rest =>
          obtain ⟨reached, ends⟩ := listed.finishes
          refine ⟨?_, ends⟩
          rwa [List.foldlM_cons, Due.take_start (listed.startsApart token rfl)]
  | led kind listed => exact listed.finishes.behind_token (if_pos kind)

/-- The errors of the parser are the stops of the reader. -/
theorem parseTokens_eq_error_iff {tokens blame} :
    parseTokens tokens = .error blame ↔ Blames .start blame tokens := by
  refine ⟨parseTokens_blames, fun blames => ?_⟩
  cases outcome : parseTokens tokens with
  | ok directives =>
      obtain ⟨stops, -⟩ := blames
      exact (stops.not_finishes (parseTokens_eq_ok_iff.mp outcome).finishes).elim
  | error other => rw [(parseTokens_blames outcome).unique blames]

/-- What can be read is what the reader takes to its end. -/
theorem reads_iff_finishes {tokens : List Token} :
    (∃ directives, Reads tokens directives) ↔ Due.start.Finishes tokens := by
  constructor
  · rintro ⟨_, reads⟩
    exact reads.finishes
  · intro finishes
    cases outcome : parseTokens tokens with
    | ok directives => exact ⟨directives, parseTokens_eq_ok_iff.mp outcome⟩
    | error blame =>
        obtain ⟨stops, -⟩ := parseTokens_blames outcome
        exact (stops.not_finishes finishes).elim

end ShaderBuild.Directive
