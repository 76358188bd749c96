import ShaderBuild.Proofs.Directive.Grammar

/-! # Separators divide directive lists

No directive has a separator in it. So a separator anywhere in a token list divides its reading into
that of what stands before and that of what stands behind, and two separators never meet.
-/

namespace ShaderBuild.Directive

/-- Tokens that do not start with a separator. -/
def StartsApart (tokens : List Token) : Prop := ∀ token ∈ tokens.head?, token.kind ≠ .separator

/-- Tokens that do not end with a separator. -/
def EndsApart (tokens : List Token) : Prop := ∀ token ∈ tokens.getLast?, token.kind ≠ .separator

/-- How tokens end is up to the last of their parts. -/
theorem endsApart_append {front back : List Token} (some : back ≠ []) :
    EndsApart (front ++ back) ↔ EndsApart back := by
  obtain ⟨token, last⟩ := Option.ne_none_iff_exists'.mp (mt List.getLast?_eq_none_iff.mp some)
  simp [EndsApart, List.getLast?_append, last]

theorem Derives.no_separator {tokens directive} (h : Derives tokens directive) :
    ∀ token ∈ tokens, token.kind ≠ .separator := by
  cases h with
  | flag word _ => simp [word]
  | includeDir word _ string => simp [word, string]
  | define word _ ident => simp [word, ident]
  | defineAs word _ ident sign valued =>
      simp only [List.mem_cons, List.not_mem_nil, or_false] at valued
      rcases valued with kind | kind | kind <;> simp [word, ident, sign, kind]
  | entryPoint word _ sign valued =>
      simp only [List.mem_cons, List.not_mem_nil, or_false] at valued
      rcases valued with kind | kind <;> simp [word, sign, kind]

theorem Derives.ne_nil {tokens directive} (h : Derives tokens directive) : tokens ≠ [] := by
  obtain ⟨_, _, rfl, _⟩ := h.head
  simp

theorem Derives.endsApart {tokens directive} (h : Derives tokens directive) : EndsApart tokens :=
  fun token last => h.no_separator token (List.mem_of_getLast? last)

theorem Listed.startsApart {tokens directives} (h : Listed tokens directives) :
    StartsApart tokens := by
  cases tokens with
  | nil => simp [StartsApart]
  | cons token rest => simp [StartsApart, h.head]

theorem Listed.eq_nil {directives} (h : Listed [] directives) : directives = [] := by
  generalize none : ([] : List Token) = tokens at h
  cases h with
  | nil => rfl
  | last one => exact (one.ne_nil none.symm).elim
  | more => simp at none

/-- Without a separator in front, a reading is one of a list. -/
theorem Reads.listed {tokens directives} (h : Reads tokens directives) (starts : StartsApart tokens) :
    Listed tokens directives := by
  cases h with
  | plain listed => exact listed
  | led kind _ => exact (starts _ rfl kind).elim

theorem Listed.divided {left right : List Token} {separator : Token} {directives : List Directive}
    (h : Listed (left ++ separator :: right) directives) (kind : separator.kind = .separator) :
    ∃ front back, directives = front ++ back ∧ Listed left front ∧ Listed right back ∧
      left ≠ [] ∧ EndsApart left := by
  generalize shape : left ++ separator :: right = tokens at h
  induction h generalizing left with
  | nil => simp at shape
  | last one => exact (one.no_separator separator (by simp [← shape]) kind).elim
  | @more first rest between directive directives one kindBetween others ih =>
      -- the separator cannot stand inside of the first directive
      have behind : ∃ more, left = first ++ more ∧ between :: rest = more ++ separator :: right := by
        rcases List.append_eq_append_iff.mp shape with ⟨more, rfl, same⟩ | found
        · cases more with
          | nil => exact ⟨[], by simp, by simpa using same.symm⟩
          | cons inner more =>
              obtain ⟨rfl, rfl⟩ := List.cons.inj same
              exact (one.no_separator separator (by simp) kind).elim
        · exact found
      obtain ⟨more, rfl, same⟩ := behind
      cases more with
      | nil =>
          obtain ⟨rfl, rfl⟩ := List.cons.inj same
          rw [List.append_nil]
          exact ⟨[directive], directives, rfl, .last one, others, one.ne_nil, one.endsApart⟩
      | cons inner more =>
          obtain ⟨rfl, rfl⟩ := List.cons.inj same
          obtain ⟨front, back, rfl, listed, behind, some, ends⟩ := ih rfl
          refine ⟨directive :: front, back, rfl, .more one kindBetween listed, behind, by simp, ?_⟩
          rw [← List.singleton_append, ← List.append_assoc]
          exact (endsApart_append some).mpr ends

theorem Listed.joined {left right : List Token} {separator : Token} {front back : List Directive}
    (first : Listed left front) (some : left ≠ []) (ends : EndsApart left)
    (kind : separator.kind = .separator) (second : Listed right back) :
    Listed (left ++ separator :: right) (front ++ back) := by
  induction first with
  | nil => exact (some rfl).elim
  | last one => exact .more one kind second
  | @more tokens rest between directive directives one kindBetween others ih =>
      have left : rest ≠ [] := by
        rintro rfl
        exact ends between (by simp) kindBetween
      rw [← List.singleton_append, ← List.append_assoc, endsApart_append left] at ends
      rw [List.append_assoc, List.cons_append]
      exact .more one kindBetween (ih left ends)

/-- A token list with a separator in it is read part by part, and no other separator stands next to
    this one. A part may be empty. -/
theorem reads_append_iff {left right : List Token} {separator : Token} {directives : List Directive}
    (kind : separator.kind = .separator) :
    Reads (left ++ separator :: right) directives ↔
      ∃ front back, directives = front ++ back ∧ Reads left front ∧ Reads right back ∧
        EndsApart left ∧ StartsApart right := by
  constructor
  · intro h
    generalize shape : left ++ separator :: right = tokens at h
    cases h with
    | plain listed =>
        subst shape
        obtain ⟨front, back, rfl, first, second, -, ends⟩ := listed.divided kind
        exact ⟨front, back, rfl, .plain first, .plain second, ends, second.startsApart⟩
    | led kindLead listed =>
        cases left with
        | nil =>
            obtain ⟨rfl, rfl⟩ := List.cons.inj shape
            exact ⟨[], directives, rfl, .plain .nil, .plain listed, by simp [EndsApart],
              listed.startsApart⟩
        | cons lead left =>
            obtain ⟨rfl, rfl⟩ := List.cons.inj shape
            obtain ⟨front, back, rfl, first, second, some, ends⟩ := listed.divided kind
            have apart : EndsApart ([lead] ++ left) := (endsApart_append some).mpr ends
            exact ⟨front, back, rfl, .led kindLead first, .plain second, apart, second.startsApart⟩
  · rintro ⟨front, back, rfl, first, second, ends, starts⟩
    have behind := second.listed starts
    cases first with
    | plain listed =>
        by_cases none : left = []
        · subst none
          rw [listed.eq_nil]
          exact .led kind behind
        · exact .plain (listed.joined none ends kind behind)
    | @led rest lead _ kindLead listed =>
        have some : rest ≠ [] := by
          rintro rfl
          exact ends lead rfl kindLead
        rw [← List.singleton_append, endsApart_append some] at ends
        exact .led kindLead (listed.joined some ends kind behind)

end ShaderBuild.Directive
