import ShaderBuild.Backend.Shaderc
import ShaderBuild.Proofs.Build.Steps
import ShaderBuild.Proofs.Text.Parts

/-! # Includes line by line

A source is looked through for includes as a whole. This comes to looking at each of its lines alone as
long as every include ends on the line on which it starts. A name that is not closed there runs over the
lines that follow, up to the next mark that closes it, and an include on one of these lines is not found.
-/

namespace ShaderBuild.Include

/-! ## What an include looks like -/

/-- The mark before the name of an include. -/
def openingMark : IncludeKind → Char
  | .relative => '"'
  | .standard => '<'

/-- The mark behind the name of an include. -/
def closingMark : IncludeKind → Char
  | .relative => '"'
  | .standard => '>'

/-- A text that starts with an include and goes on with `after`. -/
structure Opens (text : List Char) (found : Include) (after : List Char) : Prop where
  words : ∃ before between behind, text = before ++ '#' :: (between ++ ("include".toList ++
    (behind ++ openingMark found.kind :: (found.name.toList ++ closingMark found.kind :: after)))) ∧
    ∀ c ∈ before ++ between ++ behind, isGap c = true
  named : found.name ≠ ""
  closed : closingMark found.kind ∉ found.name.toList

theorem nameUpTo?_eq_some_iff {close : Char} {text name after : List Char} :
    nameUpTo? close text = some (name, after) ↔
      text = name ++ close :: after ∧ name ≠ [] ∧ close ∉ name := by
  have apart (c : Char) : (c != close) = true ↔ c ≠ close := bne_iff_ne
  constructor
  · intro found
    unfold nameUpTo? at found
    split at found
    · next c more rest =>
        have stops := @Text.not_of_head?_dropWhile (· != close) text c (by rw [rest]; rfl)
        obtain rfl : c = close := by simpa using stops
        have whole := @List.takeWhile_append_dropWhile _ (· != c) text
        simp only [Option.ite_none_left_eq_some, Option.some.injEq, Prod.mk.injEq] at found
        obtain ⟨named, rfl, rfl⟩ := found
        refine ⟨by rw [← rest, whole], by simpa using named, fun member => ?_⟩
        exact (apart c).mp (List.mem_takeWhile_imp (p := (· != c)) member) rfl
    · cases found
  · rintro ⟨rfl, named, closed⟩
    have inside : ∀ c ∈ name, (c != close) = true := fun c member =>
      (apart c).mpr fun same => closed (same ▸ member)
    rw [nameUpTo?, Text.takeWhile_upTo inside (by simp), Text.dropWhile_upTo inside (by simp)]
    exact if_neg (by simpa using named)

theorem skipGap_append {gap : List Char} (gaps : ∀ c ∈ gap, isGap c = true) {rest : List Char}
    (ends : ∀ c ∈ rest.head?, isGap c = false) : skipGap (gap ++ rest) = rest :=
  (Text.takeWhile_append_of_next gaps ends).2

theorem exists_gap (text : List Char) :
    ∃ gap, text = gap ++ skipGap text ∧ ∀ c ∈ gap, isGap c = true :=
  ⟨text.takeWhile isGap, List.takeWhile_append_dropWhile.symm, fun _ => List.mem_takeWhile_imp⟩

theorem afterKeyword?_eq_some {text rest : List Char} (found : afterKeyword? text = some rest) :
    ∃ before between behind, text = before ++ '#' :: (between ++ ("include".toList ++ (behind ++ rest))) ∧
      ∀ c ∈ before ++ between ++ behind, isGap c = true := by
  obtain ⟨before, first, gaps⟩ := exists_gap text
  unfold afterKeyword? at found
  split at found
  · next hash same =>
      obtain ⟨between, second, gapsBetween⟩ := exists_gap hash
      split at found
      · next word keyword =>
          cases found
          obtain ⟨behind, third, gapsBehind⟩ := exists_gap word
          have all : ∀ c ∈ before ++ between ++ behind, isGap c = true := by
            simpa only [List.forall_mem_append] using ⟨⟨gaps, gapsBetween⟩, gapsBehind⟩
          refine ⟨before, between, behind, ?_, all⟩
          rw [first, same]
          nth_rewrite 1 [second]
          rw [keyword]
          nth_rewrite 1 [third]
          rfl
      · cases found
  · cases found

theorem afterKeyword?_words {before between behind rest : List Char}
    (gaps : ∀ c ∈ before ++ between ++ behind, isGap c = true)
    (ends : ∀ c ∈ rest.head?, isGap c = false) :
    afterKeyword? (before ++ '#' :: (between ++ ("include".toList ++ (behind ++ rest)))) = some rest := by
  simp only [List.forall_mem_append] at gaps
  obtain ⟨⟨first, second⟩, third⟩ := gaps
  have hash : ∀ more, skipGap (before ++ '#' :: more) = '#' :: more := fun more =>
    skipGap_append first (by simp [isGap])
  have word : ∀ more, skipGap (between ++ ("include".toList ++ more)) = "include".toList ++ more :=
    fun more => skipGap_append second (by simp [isGap])
  simp only [afterKeyword?, hash]
  rw [word]
  exact congrArg some (skipGap_append third ends)

/-- The reader takes what looks like an include at the start of a text. -/
theorem atLineStart?_eq_some_iff {text after : List Char} {found : Include} :
    atLineStart? text = some (found, after) ↔ Opens text found after := by
  constructor
  · intro read
    unfold atLineStart? at read
    split at read
    all_goals try cases read
    all_goals
      next rest keyword =>
      obtain ⟨⟨name, behind⟩, named, same⟩ := Option.map_eq_some_iff.mp read
      cases same
      obtain ⟨rfl, some, closed⟩ := nameUpTo?_eq_some_iff.mp named
      obtain ⟨before, between, gap, same, gaps⟩ := afterKeyword?_eq_some keyword
      refine ⟨⟨before, between, gap, ?_, gaps⟩, by simpa using some, ?_⟩
      · simpa [openingMark, closingMark] using same
      · simpa [closingMark] using closed
  · rintro ⟨⟨before, between, behind, rfl, gaps⟩, named, closed⟩
    obtain ⟨name, kind⟩ := found
    have read := @nameUpTo?_eq_some_iff (closingMark kind) _ name.toList after |>.mpr
      ⟨rfl, by simpa using named, closed⟩
    cases kind
    all_goals
      rw [atLineStart?, afterKeyword?_words gaps (by simp [openingMark, isGap])]
      simp only [openingMark, closingMark] at read ⊢
      simp [read]

/-! ## An include within its line -/

variable {text line rest after : List Char} {found : Include}

theorem Opens.append (h : Opens text found after) (more : List Char) :
    Opens (text ++ more) found (after ++ more) := by
  obtain ⟨⟨before, between, behind, rfl, gaps⟩, named, closed⟩ := h
  exact ⟨⟨before, between, behind, by simp, gaps⟩, named, closed⟩

/-- An include itself, apart from what follows: only in its name can there be a line end. -/
theorem Opens.itself (h : Opens text found after) :
    ∃ own, text = own ++ after ∧ Opens own found [] ∧ (∀ c ∈ found.name.toList, c ∈ own) ∧
      ('\n' ∉ found.name.toList → '\n' ∉ own) := by
  obtain ⟨⟨before, between, behind, rfl, gaps⟩, named, closed⟩ := h
  refine ⟨_, ?_, ⟨⟨before, between, behind, rfl, gaps⟩, named, closed⟩, ?_, ?_⟩
  · simp
  · intro c member
    simp [member]
  · intro inLine
    have noGap : ∀ part : List Char, (∀ c ∈ part, isGap c = true) → '\n' ∉ part := fun part gaps member =>
      Bool.false_ne_true (gaps '\n' member)
    simp only [List.forall_mem_append] at gaps
    obtain ⟨⟨first, second⟩, third⟩ := gaps
    cases kind : found.kind <;>
      simp [openingMark, closingMark, inLine, noGap _ first, noGap _ second, noGap _ third]

/-- An include whose name ends on its line stands on that line alone. -/
theorem Opens.within (h : Opens (line ++ '\n' :: rest) found after)
    (inLine : '\n' ∉ found.name.toList) : ∃ tail, after = tail ++ '\n' :: rest ∧ Opens line found tail := by
  obtain ⟨own, same, opens, -, noEnd⟩ := h.itself
  obtain ⟨more, rfl, behind⟩ | ⟨more, rfl, rfl⟩ := List.append_eq_append_iff.mp same
  · cases more with
    | nil => exact ⟨[], by simpa using behind.symm, by simpa using opens⟩
    | cons c more =>
        obtain ⟨rfl, -⟩ := List.cons.inj behind
        exact (noEnd inLine (by simp)).elim
  · exact ⟨more, rfl, opens.append more⟩

/-! ## Looking through a text -/

/-- The includes of a text; `fresh` says whether a line starts with it. -/
def includesFrom (fresh : Bool) (text : List Char) : List Include := scanFrom text.length fresh text

theorem scan_eq (source : String) : scan source = includesFrom true source.toList := by
  rw [scan, includesFrom, String.length_toList]

theorem Opens.shorter (h : Opens text found after) : after.length < text.length := by
  obtain ⟨⟨before, between, behind, rfl, -⟩, -, -⟩ := h
  simp only [List.length_append, List.length_cons]
  omega

/-- Fuel for every character is enough, and more of it changes nothing. -/
theorem scanFrom_of_le {fuel : Nat} {fresh : Bool} (enough : text.length ≤ fuel) :
    scanFrom fuel fresh text = includesFrom fresh text := by
  have same : ∀ one other fresh text, text.length ≤ one → text.length ≤ other →
      scanFrom one fresh text = scanFrom other fresh text := by
    intro one
    induction one with
    | zero =>
        intro other fresh text none _
        obtain rfl := List.length_eq_zero_iff.mp (Nat.le_zero.mp none)
        cases other <;> rfl
    | succ one ih =>
        intro other fresh text first second
        cases text with
        | nil => cases other <;> rfl
        | cons c rest =>
            obtain ⟨other, rfl⟩ := Nat.exists_eq_add_one.mpr (Nat.lt_of_lt_of_le (Nat.succ_pos _) second)
            simp only [scanFrom]
            split
            · next found after read =>
                have start : atLineStart? (c :: rest) = some (found, after) := by
                  split at read
                  · exact read
                  · cases read
                have less := (atLineStart?_eq_some_iff.mp start).shorter
                simp only [List.length_cons] at first second less
                rw [ih other false after (by omega) (by omega)]
            · simp only [List.length_cons] at first second
              exact ih other _ rest (by omega) (by omega)
  exact same _ _ fresh text enough (Nat.le_refl _)

@[simp] theorem includesFrom_nil (fresh : Bool) : includesFrom fresh [] = [] := rfl

theorem includesFrom_of_opens (h : Opens text found after) :
    includesFrom true text = found :: includesFrom false after := by
  have less := h.shorter
  cases text with
  | nil => simp at less
  | cons c rest =>
      rw [includesFrom, List.length_cons, scanFrom, if_pos rfl, atLineStart?_eq_some_iff.mpr h]
      exact congrArg _ (scanFrom_of_le (Nat.lt_succ_iff.mp less))

theorem includesFrom_of_not_opens {c : Char} (none : ∀ found after, ¬ Opens (c :: rest) found after) :
    includesFrom true (c :: rest) = includesFrom (c == '\n') rest := by
  have nothing : atLineStart? (c :: rest) = Option.none :=
    Option.eq_none_iff_forall_ne_some.mpr fun read found => none _ _ (atLineStart?_eq_some_iff.mp found)
  rw [includesFrom, List.length_cons, scanFrom, if_pos rfl, nothing]
  rfl

theorem includesFrom_within (c : Char) (rest : List Char) :
    includesFrom false (c :: rest) = includesFrom (c == '\n') rest := rfl

/-- Nothing is found in the rest of a line. -/
theorem includesFrom_tail (noEnd : '\n' ∉ line) (ending : List Char) :
    includesFrom false (line ++ ending) = includesFrom false ending := by
  induction line with
  | nil => rfl
  | cons c line ih =>
      obtain ⟨differ, noEnd⟩ := not_or.mp (mt List.mem_cons.mpr noEnd)
      rw [List.cons_append, includesFrom_within, beq_false_of_ne (Ne.symm differ), ih noEnd]

/-! ## One line after the other -/

theorem includesFrom_of_opens_line (noEnd : '\n' ∉ line) (h : Opens line found after)
    (ending : List Char) : includesFrom true (line ++ ending) = found :: includesFrom false ending := by
  obtain ⟨own, rfl, -⟩ := h.itself
  obtain ⟨-, noEnd⟩ := not_or.mp (mt List.mem_append.mpr noEnd)
  rw [includesFrom_of_opens (h.append ending), includesFrom_tail noEnd]

theorem includesFrom_of_not_opens_line (noEnd : '\n' ∉ line) {ending : List Char}
    (ends : ∀ c ∈ ending.head?, c = '\n')
    (none : ∀ found after, ¬ Opens (line ++ ending) found after) :
    includesFrom true (line ++ ending) = includesFrom false ending := by
  cases line with
  | nil =>
      cases ending with
      | nil => rfl
      | cons c rest =>
          obtain rfl := ends c rfl
          exact includesFrom_of_not_opens none
  | cons c line =>
      obtain ⟨differ, noEnd⟩ := not_or.mp (mt List.mem_cons.mpr noEnd)
      rw [List.cons_append] at none ⊢
      rw [includesFrom_of_not_opens none, beq_false_of_ne (Ne.symm differ), includesFrom_tail noEnd]

/-- A line holds one include at most, which it starts with. -/
theorem includesFrom_eq_singleton (noEnd : '\n' ∉ line) (h : Opens line found after) :
    includesFrom true line = [found] := by
  simpa using includesFrom_of_opens_line noEnd h []

theorem includesFrom_eq_nil (noEnd : '\n' ∉ line) (none : ∀ found after, ¬ Opens line found after) :
    includesFrom true line = [] := by
  simpa using @includesFrom_of_not_opens_line line noEnd [] (by simp) (by simpa using none)

/-- Looking goes on line by line, unless the name of an include runs over the end of the first line. -/
theorem includesFrom_line (noEnd : '\n' ∉ line)
    (ends : ¬ ∃ found after, Opens (line ++ '\n' :: rest) found after ∧ '\n' ∈ found.name.toList) :
    includesFrom true (line ++ '\n' :: rest) = includesFrom true line ++ includesFrom true rest := by
  by_cases opens : ∃ found after, Opens line found after
  · obtain ⟨found, tail, opens⟩ := opens
    rw [includesFrom_of_opens_line noEnd opens, includesFrom_eq_singleton noEnd opens]
    rfl
  · have none : ∀ found after, ¬ Opens line found after := fun found after h => opens ⟨found, after, h⟩
    have noneHere : ∀ found after, ¬ Opens (line ++ '\n' :: rest) found after := by
      intro found after h
      obtain ⟨tail, -, alone⟩ := h.within fun runs => ends ⟨found, after, h, runs⟩
      exact none found tail alone
    rw [includesFrom_of_not_opens_line noEnd (by simp) noneHere, includesFrom_eq_nil noEnd none]
    rfl

/-- On some line starts an include whose name goes on over the end of that line. -/
def RunsOver (text : List Char) : Prop :=
  ∃ front start found after, text = front ++ start ∧ (∀ c ∈ front.getLast?, c = '\n') ∧
    Opens start found after ∧ '\n' ∈ found.name.toList

theorem not_runsOver_line (noEnd : '\n' ∉ line) : ¬ RunsOver line := by
  rintro ⟨front, start, found, after, rfl, -, opens, runs⟩
  obtain ⟨own, rfl, -, inside, -⟩ := opens.itself
  exact noEnd (List.mem_append_right _ (List.mem_append_left _ (inside _ runs)))

theorem runsOver_line_iff (noEnd : '\n' ∉ line) :
    RunsOver (line ++ '\n' :: rest) ↔
      (∃ found after, Opens (line ++ '\n' :: rest) found after ∧ '\n' ∈ found.name.toList) ∨
        RunsOver rest := by
  constructor
  · rintro ⟨front, start, found, after, same, fresh, opens, runs⟩
    rw [← List.singleton_append, ← List.append_assoc] at same
    obtain ⟨more, rfl, rfl⟩ | ⟨more, whole, rfl⟩ := List.append_eq_append_iff.mp same
    · refine .inr ⟨more, start, found, after, rfl, fun c last => fresh c ?_, opens, runs⟩
      rw [List.getLast?_append, Option.mem_def.mp last]
      rfl
    · rcases List.eq_nil_or_concat more with rfl | ⟨begun, c, rfl⟩
      · exact .inr ⟨[], rest, found, after, rfl, by simp, by simpa using opens, runs⟩
      · -- the line ends behind the front, so the front is empty: it holds no line end
        rw [List.concat_eq_append, ← List.append_assoc] at whole
        obtain ⟨rfl, ending⟩ := List.append_inj' whole rfl
        obtain rfl := List.singleton_inj.mp ending
        cases front with
        | nil => exact .inl ⟨found, after, by simpa using opens, runs⟩
        | cons d front =>
            have last := fresh _ (List.getLast?_eq_some_getLast (List.cons_ne_nil d front))
            refine (noEnd (List.mem_append_left _ ?_)).elim
            rw [← last]
            exact List.getLast_mem _
  · rintro (⟨found, after, opens, runs⟩ | ⟨front, start, found, after, rfl, fresh, opens, runs⟩)
    · exact ⟨[], _, found, after, rfl, by simp, opens, runs⟩
    · refine ⟨line ++ '\n' :: front, start, found, after, by simp, fun c last => ?_, opens, runs⟩
      cases front with
      | nil => simpa using last.symm
      | cons d front => exact fresh c (by simpa using last)

theorem exists_of_runsOver (h : RunsOver text) :
    ∃ found ∈ includesFrom true text, '\n' ∈ found.name.toList := by
  induction text using Text.pieces_induction '\n' with
  | last line noEnd => exact (not_runsOver_line noEnd h).elim
  | more line rest noEnd ih =>
      by_cases here : ∃ found after, Opens (line ++ '\n' :: rest) found after ∧ '\n' ∈ found.name.toList
      · obtain ⟨found, after, opens, runs⟩ := here
        refine ⟨found, ?_, runs⟩
        rw [includesFrom_of_opens opens]
        exact List.mem_cons_self
      · obtain ⟨found, member, runs⟩ := ih (((runsOver_line_iff noEnd).mp h).resolve_left here)
        refine ⟨found, ?_, runs⟩
        rw [includesFrom_line noEnd here]
        exact List.mem_append_right _ member

theorem not_mem_of_mem_includesFrom_line (noEnd : '\n' ∉ line) (member : found ∈ includesFrom true line) :
    '\n' ∉ found.name.toList := by
  by_cases opens : ∃ other after, Opens line other after
  · obtain ⟨other, after, opens⟩ := opens
    obtain ⟨own, rfl, -, inside, -⟩ := opens.itself
    rw [includesFrom_eq_singleton noEnd opens, List.mem_singleton] at member
    exact fun runs => noEnd (List.mem_append_left _ (inside _ (member ▸ runs)))
  · rw [includesFrom_eq_nil noEnd fun other after h => opens ⟨other, after, h⟩] at member
    cases member

/-- Looking through a text comes to looking at its lines alone if and only if no name runs over the end
    of its line. -/
theorem includesFrom_eq_flatMap_iff :
    includesFrom true text = (Text.splitAt '\n' text).flatMap (includesFrom true) ↔ ¬ RunsOver text := by
  constructor
  · intro same runs
    obtain ⟨found, member, inName⟩ := exists_of_runsOver runs
    rw [same] at member
    obtain ⟨line, isLine, member⟩ := List.mem_flatMap.mp member
    exact not_mem_of_mem_includesFrom_line (Text.not_mem_of_mem_splitAt isLine) member inName
  · intro inLines
    induction text using Text.pieces_induction '\n' with
    | last line noEnd => rw [Text.splitAt_of_not_mem noEnd, List.flatMap_singleton]
    | more line rest noEnd ih =>
        obtain ⟨here, behind⟩ := not_or.mp (mt (runsOver_line_iff noEnd).mpr inLines)
        rw [includesFrom_line noEnd here, ih behind, Text.splitAt_piece noEnd, List.flatMap_cons]

/-! ## Sources -/

/-- The lines of a source, without their ends. -/
def lines (source : String) : List String := (Text.splitAt '\n' source.toList).map String.ofList

theorem not_mem_of_mem_lines {source line : String} (member : line ∈ lines source) :
    '\n' ∉ line.toList := by
  obtain ⟨piece, isPiece, rfl⟩ := List.mem_map.mp member
  rw [String.toList_ofList]
  exact Text.not_mem_of_mem_splitAt isPiece

theorem scan_eq_flatMap_iff (source : String) :
    scan source = (lines source).flatMap scan ↔ ¬ RunsOver source.toList := by
  have each : (lines source).flatMap scan =
      (Text.splitAt '\n' source.toList).flatMap (includesFrom true) := by
    simp [lines, List.flatMap_map, scan_eq]
  rw [scan_eq, each, includesFrom_eq_flatMap_iff]

/-- A line that is a relative include. -/
def Quotes (line name : String) : Prop := ∃ after, Opens line.toList ⟨name, .relative⟩ after

/-- The first line that is a relative include, and the name on it. -/
def FirstQuoted (lines : List String) (name : String) : Prop :=
  ∃ before line behind, lines = before ++ line :: behind ∧ Quotes line name ∧
    ∀ other ∈ before, ∀ name, ¬ Quotes other name

theorem exists_firstQuoted {lines : List String} {line name : String} (member : line ∈ lines)
    (quotes : Quotes line name) : ∃ name, FirstQuoted lines name := by
  induction lines with
  | nil => cases member
  | cons first rest ih =>
      by_cases here : ∃ name, Quotes first name
      · obtain ⟨name, here⟩ := here
        exact ⟨name, [], first, rest, rfl, here, by simp⟩
      · rcases List.mem_cons.mp member with rfl | member
        · exact (here ⟨name, quotes⟩).elim
        · obtain ⟨name, before, line, behind, rfl, quotes, none⟩ := ih member
          exact ⟨name, first :: before, line, behind, rfl, quotes,
            List.forall_mem_cons.mpr ⟨not_exists.mp here, none⟩⟩

/-- The relative include of a line, if the line is one. -/
theorem find?_scan_line {line : String} (noEnd : '\n' ∉ line.toList) :
    ((scan line).find? fun found => found.kind = .relative) = some found ↔
      Quotes line found.name ∧ found.kind = .relative := by
  obtain ⟨name, kind⟩ := found
  rw [scan_eq]
  by_cases opens : ∃ other after, Opens line.toList other after
  · obtain ⟨other, after, opens⟩ := opens
    rw [includesFrom_eq_singleton noEnd opens, List.find?_singleton]
    simp only [decide_eq_true_eq, Option.ite_none_right_eq_some, Option.some.injEq]
    constructor
    · rintro ⟨relative, rfl⟩
      obtain rfl : kind = .relative := relative
      exact ⟨⟨after, opens⟩, rfl⟩
    · rintro ⟨⟨tail, again⟩, rfl⟩
      have read := (atLineStart?_eq_some_iff.mpr opens).symm.trans (atLineStart?_eq_some_iff.mpr again)
      obtain rfl := congrArg Prod.fst (Option.some.inj read)
      exact ⟨rfl, rfl⟩
  · rw [includesFrom_eq_nil noEnd fun other after h => opens ⟨other, after, h⟩, List.find?_nil]
    exact iff_of_false nofun fun ⟨⟨after, h⟩, _⟩ => opens ⟨_, after, h⟩

theorem findSome?_eq_some_iff_firstQuoted {lines : List String}
    (noEnds : ∀ line ∈ lines, '\n' ∉ line.toList) :
    (lines.findSome? fun line => (scan line).find? fun found => found.kind = .relative) = some found ↔
      FirstQuoted lines found.name ∧ found.kind = .relative := by
  rw [List.findSome?_eq_some_iff]
  constructor
  · rintro ⟨before, line, behind, rfl, here, none⟩
    obtain ⟨quotes, relative⟩ := (find?_scan_line (noEnds line (by simp))).mp here
    refine ⟨⟨before, line, behind, rfl, quotes, fun other member name again => ?_⟩, relative⟩
    have found := @find?_scan_line ⟨name, .relative⟩ other (noEnds other (by simp [member])) |>.mpr
      ⟨again, rfl⟩
    cases found.symm.trans (none other member)
  · rintro ⟨⟨before, line, behind, rfl, quotes, none⟩, relative⟩
    refine ⟨before, line, behind, rfl, (find?_scan_line (noEnds line (by simp))).mpr ⟨quotes, relative⟩,
      fun other member => Option.eq_none_iff_forall_ne_some.mpr fun again found => ?_⟩
    exact none other member _ ((find?_scan_line (noEnds other (by simp [member]))).mp found).1

theorem checkInline_eq_error_iff {source : String} (inLines : ¬ RunsOver source.toList)
    {e : IncludeError} : checkInline source = .error e ↔
      ∃ name, FirstQuoted (lines source) name ∧ e = ⟨⟨name, .relative⟩, .noDirectory⟩ := by
  rw [checkInline, (scan_eq_flatMap_iff source).mpr inLines, List.find?_flatMap]
  constructor
  · intro refused
    split at refused
    · next found same =>
        cases refused
        obtain ⟨quoted, relative⟩ :=
          (findSome?_eq_some_iff_firstQuoted fun _ => not_mem_of_mem_lines).mp same
        exact ⟨found.name, quoted, by rw [← relative]⟩
    · cases refused
  · rintro ⟨name, quoted, rfl⟩
    have same := @findSome?_eq_some_iff_firstQuoted ⟨name, .relative⟩ (lines source)
      (fun _ => not_mem_of_mem_lines) |>.mpr ⟨quoted, rfl⟩
    rw [same]

/-- A source on its own that is refused for an include is refused before anything is done for it. -/
theorem run_compile_of_checkInline {σ : Type} {executable? : Option String} {request : Request}
    {session : Session σ} {e : IncludeError} (alone : request.origin? = none)
    (refused : checkInline request.source = .error e) :
    (Shaderc.compile executable? request).run.run session =
      (.error (RequestError.inclusion e).fault, session) := by
  have checked : Shaderc.checkSource request = .error (.inclusion e) := by
    rw [Shaderc.checkSource, alone]
    simp [refused]
  rw [Shaderc.compile, Outcome.run_bind, Action.run_ofRequest, checked]
  rfl

/-- A source is looked through for includes as if each line stood alone, if and only if no name runs over
    the end of its line. Then it is refused if and only if a line is a relative include, for the first
    such line; the compiler of such a source starts no tool and leaves everything as it was. -/
theorem scan_line_by_line (source : String) :
    (scan source = (lines source).flatMap scan ↔ ¬ RunsOver source.toList) ∧
    (¬ RunsOver source.toList →
      ((∃ e, checkInline source = .error e) ↔ ∃ line ∈ lines source, ∃ name, Quotes line name) ∧
      ∀ name, FirstQuoted (lines source) name →
        checkInline source = .error ⟨⟨name, .relative⟩, .noDirectory⟩ ∧
        ∀ {σ : Type} (executable? : Option String) (request : Request) (session : Session σ),
          request.source = source → request.origin? = none →
          (Shaderc.compile executable? request).run.run session =
            (.error (RequestError.inclusion ⟨⟨name, .relative⟩, .noDirectory⟩).fault, session)) := by
  refine ⟨scan_eq_flatMap_iff source, fun inLines => ⟨?_, fun name first => ?_⟩⟩
  · constructor
    · rintro ⟨e, refused⟩
      obtain ⟨name, ⟨before, line, behind, same, quotes, -⟩, -⟩ :=
        (checkInline_eq_error_iff inLines).mp refused
      exact ⟨line, by simp [same], name, quotes⟩
    · rintro ⟨line, member, name, quotes⟩
      obtain ⟨name, first⟩ := exists_firstQuoted member quotes
      exact ⟨_, (checkInline_eq_error_iff inLines).mpr ⟨name, first, rfl⟩⟩
  · have refused := (checkInline_eq_error_iff inLines).mpr ⟨name, first, rfl⟩
    refine ⟨refused, fun executable? request session same alone => ?_⟩
    exact run_compile_of_checkInline alone (same ▸ refused)

/-- A session in which every tool ends well and writes nothing. -/
def quietSession : Session Unit where
  tree := .empty
  environment := []
  launcher := fun _ _ _ => .finished ⟨0, [], [], []⟩
  scratch := "scratch"
  calls := []
  log := []
  dependencies := []
  extra := ()

/-- A source with an include in angle brackets, two in quotation marks and one that is not closed. -/
def fourIncludes : Request where
  source := "#include <a.h>\n\t# include \"b.h\" // c.h\n#include \"c.h\"\n#include <d.h\n"
  origin? := none
  config := { language := .glsl }
  searchPath := []

/-- The second line is the first one with a name in quotation marks. -/
theorem second_line_refused :
    ¬ RunsOver fourIncludes.source.toList ∧ FirstQuoted (lines fourIncludes.source) "b.h" ∧
      (Shaderc.compile (some "glslc") fourIncludes).run.run quietSession =
        (.error (RequestError.inclusion ⟨⟨"b.h", .relative⟩, .noDirectory⟩).fault, quietSession) := by
  have inLines : ¬ RunsOver fourIncludes.source.toList :=
    (scan_line_by_line fourIncludes.source).1.mp (by decide +kernel)
  have first : FirstQuoted (lines fourIncludes.source) "b.h" := by
    refine ⟨["#include <a.h>"], "\t# include \"b.h\" // c.h", ["#include \"c.h\"", "#include <d.h", ""],
      by decide +kernel, ⟨" // c.h".toList, atLineStart?_eq_some_iff.mp (by decide +kernel)⟩, ?_⟩
    rintro other member name ⟨after, opens⟩
    obtain rfl := List.mem_singleton.mp member
    have read := atLineStart?_eq_some_iff.mpr opens
    have own : atLineStart? "#include <a.h>".toList = some (⟨"a.h", .standard⟩, []) := by decide +kernel
    cases own.symm.trans read
  have refused := ((scan_line_by_line fourIncludes.source).2 inLines).2 "b.h" first
  exact ⟨inLines, first, refused.2 (some "glslc") fourIncludes quietSession rfl rfl⟩

/-- A source whose second line is an include in quotation marks, behind a name that is not closed on the
    first one. -/
def coveredInclude : Request where
  source := "#include <a\n#include \"b\"\n>"
  origin? := none
  config := { language := .glsl }
  searchPath := []

/-- The name that is not closed runs over the include on the next line: it is not found, the source is
    not refused, and the tool is started. -/
theorem covered_line_let_through :
    scan coveredInclude.source = [⟨"a\n#include \"b\"\n", .standard⟩] ∧
      (lines coveredInclude.source).flatMap scan = [⟨"b", .relative⟩] ∧
      "#include \"b\"" ∈ lines coveredInclude.source ∧ Quotes "#include \"b\"" "b" ∧
      checkInline coveredInclude.source = .ok () ∧
      ((Shaderc.compile (some "glslc") coveredInclude).run.run quietSession).2.calls.length = 1 := by
  have quotes : Quotes "#include \"b\"" "b" := ⟨[], atLineStart?_eq_some_iff.mp (by decide +kernel)⟩
  refine ⟨?_, ?_, ?_, quotes, ?_, ?_⟩ <;> decide +kernel

end ShaderBuild.Include
