import ShaderBuild.Include.Depfile
import ShaderBuild.Proofs.Text.Replacing

/-! # Finding the listed paths of a rule

A rule is read in steps: its lines are joined, what stands behind the target is taken, and that is trimmed
and cut at its blanks. Parts that stand apart by blanks are found again, as long as no part is cut itself
and the last one does not end with a blank.
-/

namespace ShaderBuild.Depfile

/-! ## Joining lines -/

/-- What may stand between two paths of a rule. -/
inductive Filler where
  | space
  /-- The end of a line, taken away by a backslash. -/
  | lineEnd
  /-- The same where lines end with a carriage return and a line feed. -/
  | returnLineEnd
  deriving Repr, DecidableEq

def Filler.text : Filler → List Char
  | .space => [' ']
  | .lineEnd => ['\\', '\n']
  | .returnLineEnd => ['\\', '\r', '\n']

def fillers (kinds : List Filler) : List Char := kinds.flatMap Filler.text

/-- A text without an end of a line is passed over, unless it ends with what may begin a taken one. -/
theorem joinLines_append {text : List Char} (oneLine : '\n' ∉ text)
    (ends : ∀ c ∈ text.getLast?, c ≠ '\\' ∧ c ≠ '\r') (rest : List Char) :
    joinLines (text ++ rest) = text ++ joinLines rest := by
  have withReturn := @Text.replace_append_of_apart [' '] ['\\', '\r'] [] text '\n' oneLine
    (fun c last => by simpa using ends c last)
  have without := @Text.replace_append_of_apart [' '] ['\\'] [] text '\n' oneLine
    (fun c last => by simpa using (ends c last).1)
  simp only [List.cons_append, List.nil_append] at withReturn without
  rw [joinLines, withReturn, without, joinLines]

theorem joinLines_filler (kind : Filler) (rest : List Char) :
    joinLines (kind.text ++ rest) = ' ' :: joinLines rest := by
  cases kind with
  | space => exact @joinLines_append [' '] (by simp) (by simp) rest
  | lineEnd =>
      have taken := @Text.replace_part ['\\', '\n'] [' '] (by simp)
      simp only [List.cons_append, List.nil_append] at taken
      simp [joinLines, Filler.text, Text.replace_cons, Text.after?, taken]
  | returnLineEnd =>
      have taken := @Text.replace_part ['\\', '\r', '\n'] [' '] (by simp)
      rw [joinLines, Filler.text, taken, List.singleton_append, Text.replace_cons_of_ne (by decide),
        joinLines]

/-- Every filler leaves one space. -/
theorem joinLines_fillers (kinds : List Filler) (rest : List Char) :
    joinLines (fillers kinds ++ rest) = List.replicate kinds.length ' ' ++ joinLines rest := by
  induction kinds with
  | nil => rfl
  | cons kind kinds ih =>
      rw [fillers, List.flatMap_cons, List.append_assoc, joinLines_filler, ← fillers, ih]
      rfl

/-! ## Behind the target -/

theorem afterSpacedColon?_cons {c : Char} {rest : List Char}
    (apart : c = ':' → rest.head? ≠ some ' ') :
    afterSpacedColon? (c :: rest) = afterSpacedColon? rest :=
  afterSpacedColon?.eq_3 _ _ fun _ colon same => apart colon (by simp [same])

/-- A target without a spaced colon is passed over. -/
theorem afterSpacedColon?_append {target : List Char} (plain : ¬ [':', ' '] <:+: target)
    (rest : List Char) : afterSpacedColon? (target ++ ':' :: rest) = afterSpacedColon? (':' :: rest) := by
  induction target with
  | nil => rfl
  | cons c target ih =>
      have others : ¬ [':', ' '] <:+: target := fun inside => plain (List.infix_cons inside)
      rw [List.cons_append, afterSpacedColon?_cons ?_, ih others]
      rintro rfl
      cases target with
      | nil => simp
      | cons d target =>
          rw [List.cons_append, List.head?_cons, ne_eq, Option.some_inj]
          rintro rfl
          exact plain ⟨[], target, rfl⟩

/-! ## Texts that are not cut -/

/-- A text that no blank in it cuts, whatever follows. -/
structure Whole (part : List Char) : Prop where
  some : part ≠ []
  uncut : ∀ {rest piece : List Char} {pieces : List (List Char)},
    cutFrom false rest = piece :: pieces → cutFrom false (part ++ rest) = (part ++ piece) :: pieces

/-- Parts as they stand one behind the other, each with the gap before it. -/
def spread (entries : List (List Char × List Char)) : List Char :=
  entries.flatMap fun (gap, part) => gap ++ part

variable {gap part rest ending : List Char} {entries : List (List Char × List Char)}

theorem spread_cons (entry : List Char × List Char) (entries : List (List Char × List Char)) :
    spread (entry :: entries) = entry.1 ++ (entry.2 ++ spread entries) := by
  simp [spread]

/-! ## One character -/

/-- In a path with no blanks but spaces, every other character is visible. -/
theorem visible_of_ne {path : List Char} (spaces : ∀ c ∈ path, Text.isBlank c = true → c = ' ') {c : Char}
    (member : c ∈ path) (other : c ≠ ' ') : Text.isBlank c = false :=
  Bool.eq_false_iff.mpr (mt (spaces c member) other)

theorem cutFrom_blank {c : Char} (blank : Text.isBlank c = true) (rest : List Char) :
    cutFrom false (c :: rest) = [] :: cutFrom false rest := by
  simp [cutFrom, blank]

/-- A visible character is not cut at, and neither is what follows a backslash. -/
theorem cutFrom_kept {afterSlash : Bool} {c : Char} (kept : afterSlash = true ∨ Text.isBlank c = false)
    {piece : List Char} {pieces : List (List Char)} (cut : cutFrom (c == '\\') rest = piece :: pieces) :
    cutFrom afterSlash (c :: rest) = (c :: piece) :: pieces := by
  rcases kept with rfl | visible
  · simp [cutFrom, cut]
  · simp [cutFrom, visible, cut]

/-- A backslash before a visible character makes no difference. -/
theorem cutFrom_visible {c : Char} (visible : Text.isBlank c = false) (afterSlash : Bool)
    (rest : List Char) : cutFrom afterSlash (c :: rest) = cutFrom false (c :: rest) := by
  simp [cutFrom, visible]

/-- A text that is not cut starts visibly. -/
theorem Whole.starts (h : Whole part) : ∀ c ∈ part.head?, Text.isBlank c = false := by
  cases part with
  | nil => exact (h.some rfl).elim
  | cons c part =>
      have uncut := h.uncut (show cutFrom false [] = [[]] from rfl)
      rintro _ ⟨⟩
      refine Bool.eq_false_iff.mpr fun blank => ?_
      rw [List.cons_append, cutFrom_blank blank] at uncut
      cases (List.cons.inj uncut).1

/-! ## Parts and gaps -/

/-- Only empty parts come of a gap. -/
theorem filter_cutFrom_gap (blank : ∀ c ∈ gap, Text.isBlank c = true) (rest : List Char) :
    (cutFrom false (gap ++ rest)).filter (fun part => !part.isEmpty) =
      (cutFrom false rest).filter fun part => !part.isEmpty := by
  induction gap with
  | nil => rfl
  | cons c gap ih =>
      obtain ⟨first, others⟩ := List.forall_mem_cons.mp blank
      rw [List.cons_append, cutFrom_blank first, List.filter_cons_of_neg (by simp), ih others]

/-- A part ends where a gap follows. -/
theorem filter_cutFrom_part (whole : Whole part) (ends : ∀ c ∈ rest.head?, Text.isBlank c = true) :
    (cutFrom false (part ++ rest)).filter (fun part => !part.isEmpty) =
      part :: (cutFrom false rest).filter fun part => !part.isEmpty := by
  have behind : ∃ pieces, cutFrom false rest = [] :: pieces := by
    cases rest with
    | nil => exact ⟨[], rfl⟩
    | cons c rest => exact ⟨_, cutFrom_blank (ends c rfl) rest⟩
  obtain ⟨pieces, cut⟩ := behind
  rw [whole.uncut cut, cut, List.append_nil, List.filter_cons_of_pos (by simpa using whole.some),
    List.filter_cons_of_neg (by simp)]

/-- Parts with gaps between them. -/
structure Apart (entries : List (List Char × List Char)) : Prop where
  blank : ∀ entry ∈ entries, ∀ c ∈ entry.1, Text.isBlank c = true
  whole : ∀ entry ∈ entries, Whole entry.2
  gaps : ∀ entry ∈ entries.tail, entry.1 ≠ []

theorem Apart.tail {entry : List Char × List Char} (h : Apart (entry :: entries)) : Apart entries where
  blank := fun entry member => h.blank entry (List.mem_cons_of_mem _ member)
  whole := fun entry member => h.whole entry (List.mem_cons_of_mem _ member)
  gaps := fun entry member => h.gaps entry (List.mem_of_mem_tail member)

/-- Behind the first part stands a blank or nothing. -/
theorem Apart.starts {entry : List Char × List Char} (h : Apart (entry :: entries))
    (blank : ∀ c ∈ ending, Text.isBlank c = true) :
    ∀ c ∈ (spread entries ++ ending).head?, Text.isBlank c = true := by
  intro c first
  cases entries with
  | nil => exact blank c (List.mem_of_mem_head? first)
  | cons next others =>
      obtain ⟨gap, part⟩ := next
      obtain ⟨d, more, rfl⟩ := List.exists_cons_of_ne_nil (h.gaps (gap, part) (by simp))
      have same : d = c := by simpa [spread] using first
      exact same ▸ h.blank (d :: more, part) (by simp) d (by simp)

/-- Parts with gaps between them are cut apart at the gaps. -/
theorem filter_cutFrom_spread (h : Apart entries) (blank : ∀ c ∈ ending, Text.isBlank c = true) :
    (cutFrom false (spread entries ++ ending)).filter (fun part => !part.isEmpty) =
      entries.map (·.2) := by
  induction entries with
  | nil => simpa [spread, cutFrom] using filter_cutFrom_gap blank []
  | cons entry entries ih =>
      rw [spread_cons, List.append_assoc, List.append_assoc,
        filter_cutFrom_gap (h.blank entry List.mem_cons_self),
        filter_cutFrom_part (h.whole entry List.mem_cons_self) (h.starts blank), ih h.tail,
        List.map_cons]

theorem Apart.without_gap (h : Apart ((gap, part) :: entries)) : Apart (([], part) :: entries) where
  blank := List.forall_mem_cons.mpr ⟨by simp, h.tail.blank⟩
  whole := List.forall_mem_cons.mpr ⟨h.whole (gap, part) List.mem_cons_self, h.tail.whole⟩
  gaps := h.gaps

/-- Spread parts end as the last one ends. -/
theorem getLast?_spread (whole : ∀ entry ∈ entries, Whole entry.2) :
    (spread entries).getLast? = (entries.map (·.2)).getLast?.bind List.getLast? := by
  rcases List.eq_nil_or_concat entries with rfl | ⟨front, ⟨gap, part⟩, rfl⟩
  · rfl
  · have some := (whole (gap, part) (by simp)).some
    have shape : spread (front.concat (gap, part)) = (spread front ++ gap) ++ part := by simp [spread]
    rw [shape, List.getLast?_append_of_ne_nil _ some]
    simp

/-- Parts are found as well if the text is trimmed first, unless the last one ends with a blank. -/
theorem filter_cutFrom_trim (h : Apart entries) (blank : ∀ c ∈ ending, Text.isBlank c = true)
    (last : ∀ part ∈ (entries.map (·.2)).getLast?, ∀ c ∈ part.getLast?, Text.isBlank c = false) :
    (cutFrom false (Text.trim (spread entries ++ ending))).filter (fun part => !part.isEmpty) =
      entries.map (·.2) := by
  cases entries with
  | nil =>
      have nothing : Text.trim ending = [] := by
        rw [Text.trim, Text.trimLeft, List.dropWhile_eq_nil_iff.mpr (by simpa using blank)]
        rfl
      simp [spread, nothing, cutFrom]
  | cons entry others =>
      obtain ⟨gap, part⟩ := entry
      have bare := h.without_gap
      have whole := h.whole (gap, part) List.mem_cons_self
      have some := whole.some
      have shape : spread ((gap, part) :: others) ++ ending =
          gap ++ spread (([], part) :: others) ++ ending := by
        simp [spread]
      have starts : ∀ c ∈ (spread (([], part) :: others)).head?, Text.isBlank c = false := by
        rw [spread_cons, List.nil_append, List.head?_append_of_ne_nil _ some]
        exact whole.starts
      have ends : ∀ c ∈ (spread (([], part) :: others)).getLast?, Text.isBlank c = false := by
        rw [getLast?_spread bare.whole]
        intro c isLast
        obtain ⟨piece, found, isLast⟩ := Option.bind_eq_some_iff.mp isLast
        exact last piece found c isLast
      have nonempty : spread (([], part) :: others) ≠ [] := by
        rw [spread_cons, List.nil_append]
        exact List.append_ne_nil_of_left_ne_nil some _
      rw [shape, Text.trim_between (h.blank (gap, part) List.mem_cons_self) blank starts ends nonempty]
      have cut := @filter_cutFrom_spread [] _ bare (by simp)
      rwa [List.append_nil] at cut

end ShaderBuild.Depfile
