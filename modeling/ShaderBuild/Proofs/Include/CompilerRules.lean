import ShaderBuild.Proofs.Include.Cutting

/-! # Reading rules of compilers

A compiler lays out a rule as it likes: between two paths stand any spaces, and any ends of lines that a
backslash takes away. A space in a path has a backslash before it. Whatever the layout, the paths are read
that were listed.
-/

namespace ShaderBuild.Depfile

/-! ## Layouts -/

def escapeSpace (c : Char) : List Char := if c = ' ' then ['\\', ' '] else [c]

/-- A path as a compiler writes it: with a backslash before each space. -/
def escape (path : List Char) : List Char := path.flatMap escapeSpace

/-- A rule as a compiler lays it out. -/
structure Layout where
  target : List Char
  /-- The paths, each with what stands before it. -/
  entries : List (List Filler × List Char)
  /-- What stands behind the last path. -/
  closing : List Filler
  ending : List Char
  deriving Repr, DecidableEq

namespace Layout

def text (layout : Layout) : List Char :=
  layout.target ++ ':' :: ' ' :: (layout.entries.flatMap (fun (gap, path) => fillers gap ++ escape path) ++
    fillers layout.closing ++ layout.ending)

def paths (layout : Layout) : List (List Char) := layout.entries.map (·.2)

end Layout

/-- A path that a compiler's rule can hold: its backslashes stand before no space, and not at its end. -/
structure Writable (path : List Char) : Prop where
  notEmpty : path ≠ []
  spaces : ∀ c ∈ path, Text.isBlank c = true → c = ' '
  plain : ¬ ['\\', ' '] <:+: path
  ends : path.getLast? ≠ some '\\'

theorem writable_iff {path : List Char} :
    Writable path ↔ path ≠ [] ∧ path.all (fun c => !Text.isBlank c || c == ' ') = true ∧
      ¬ ['\\', ' '] <:+: path ∧ path.getLast? ≠ some '\\' := by
  simp only [List.all_eq_true, Bool.or_eq_true, Bool.not_eq_true', beq_iff_eq, ← Bool.not_eq_true,
    ← imp_iff_not_or]
  exact ⟨fun h => ⟨h.notEmpty, h.spaces, h.plain, h.ends⟩,
    fun ⟨notEmpty, spaces, plain, ends⟩ => ⟨notEmpty, spaces, plain, ends⟩⟩

instance (path : List Char) : Decidable (Writable path) := decidable_of_iff _ writable_iff.symm

/-- A rule whose paths can be told apart. -/
structure Layout.Readable (layout : Layout) : Prop where
  target : ¬ [':', ' '] <:+: layout.target
  oneLine : '\n' ∉ layout.target
  paths : ∀ path ∈ layout.paths, Writable path
  gaps : ∀ entry ∈ layout.entries.tail, entry.1 ≠ []
  closed : ∀ path ∈ layout.paths.getLast?, path.getLast? ≠ some ' '
  ending : ∀ c ∈ layout.ending, c ∈ [' ', '\n', '\r']

/-! ## A written path -/

/-- Every backslash has a character behind it that is no space. -/
def Bound (path : List Char) : Prop :=
  ∀ front rest, path = front ++ '\\' :: rest → ∃ c more, rest = c :: more ∧ c ≠ ' '

theorem Bound.tail {c : Char} {path : List Char} (h : Bound (c :: path)) : Bound path :=
  fun front rest same => h (c :: front) rest (by rw [same, List.cons_append])

variable {path rest : List Char}

theorem Writable.bound (h : Writable path) : Bound path := by
  rintro front rest rfl
  cases rest with
  | nil => exact (h.ends (by simp)).elim
  | cons c more =>
      refine ⟨c, more, rfl, ?_⟩
      rintro rfl
      exact h.plain ⟨front, more, by simp⟩

theorem Writable.not_mem (h : Writable path) {c : Char} (blank : Text.isBlank c = true) (other : c ≠ ' ') :
    c ∉ path :=
  fun member => other (h.spaces c member blank)

theorem escape_cons (c : Char) (path : List Char) : escape (c :: path) = escapeSpace c ++ escape path :=
  List.flatMap_cons

theorem escape_ne_nil (some : path ≠ []) : escape path ≠ [] := by
  obtain ⟨c, rest, rfl⟩ := List.exists_cons_of_ne_nil some
  rw [escape_cons, escapeSpace]
  split <;> simp

theorem mem_escape {c : Char} (member : c ∈ escape path) : c = '\\' ∨ c ∈ path := by
  obtain ⟨d, inPath, member⟩ := List.mem_flatMap.mp member
  unfold escapeSpace at member
  split at member
  · next space =>
      rcases List.mem_cons.mp member with slash | member
      · exact .inl slash
      · exact .inr (List.mem_singleton.mp member ▸ space ▸ inPath)
  · exact .inr (List.mem_singleton.mp member ▸ inPath)

/-- A written path ends as the path itself. -/
theorem getLast?_escape (path : List Char) : (escape path).getLast? = path.getLast? := by
  rcases List.eq_nil_or_concat path with rfl | ⟨front, c, rfl⟩
  · rfl
  · have last : (escapeSpace c).getLast? = some c := by
      unfold escapeSpace
      split <;> simp_all
    have shape : escape (front.concat c) = escape front ++ escapeSpace c := by simp [escape]
    rw [shape, List.getLast?_append, last, List.concat_eq_append, List.getLast?_append]
    rfl

/-- No blank of a written path is one to cut at. -/
theorem cutFrom_escape (spaces : ∀ c ∈ path, Text.isBlank c = true → c = ' ') (bound : Bound path)
    {piece : List Char} {pieces : List (List Char)} (cut : cutFrom false rest = piece :: pieces) :
    cutFrom false (escape path ++ rest) = (escape path ++ piece) :: pieces := by
  induction path with
  | nil => simpa [escape] using cut
  | cons c path ih =>
      obtain ⟨-, others⟩ := List.forall_mem_cons.mp spaces
      have behind := ih others bound.tail
      rw [escape_cons, List.append_assoc]
      by_cases space : c = ' '
      · rw [space, escapeSpace, if_pos rfl]
        exact cutFrom_kept (.inr Text.isBlank_backslash) (cutFrom_kept (.inl rfl) behind)
      · have visible := visible_of_ne spaces List.mem_cons_self space
        rw [escapeSpace, if_neg space]
        refine cutFrom_kept (.inr visible) ?_
        by_cases same : c = '\\'
        · -- the backslash protects nothing: no space follows it
          subst same
          obtain ⟨d, more, rfl, other⟩ := bound [] path rfl
          have nextVisible := visible_of_ne others List.mem_cons_self other
          rw [escape_cons, escapeSpace, if_neg other] at behind ⊢
          exact (cutFrom_visible nextVisible _ _).trans behind
        · rw [beq_false_of_ne same]
          exact behind

theorem Writable.whole (h : Writable path) : Whole (escape path) where
  some := escape_ne_nil h.notEmpty
  uncut := cutFrom_escape h.spaces h.bound

theorem unescape_escape (bound : Bound path) : unescape (escape path) = path := by
  induction path with
  | nil => rfl
  | cons c path ih =>
      have behind := ih bound.tail
      rw [escape_cons]
      by_cases space : c = ' '
      · have part := @Text.replace_part ['\\', ' '] [' '] (by simp) (escape path)
        rw [space, escapeSpace, if_pos rfl, unescape, part, ← unescape, behind]
        rfl
      · rw [escapeSpace, if_neg space, List.singleton_append, unescape, Text.replace_cons ?_, ← unescape,
          behind]
        by_cases same : c = '\\'
        · subst same
          obtain ⟨d, more, rfl, other⟩ := bound [] path rfl
          simp [escape_cons, escapeSpace, other, Text.after?, Ne.symm other]
        · exact Text.after?_cons_of_ne (Ne.symm same) _ _

/-! ## A rule -/

theorem joinLines_escape (h : Writable path) (rest : List Char) :
    joinLines (escape path ++ rest) = escape path ++ joinLines rest := by
  refine joinLines_append (fun member => ?_) (fun c last => ?_) rest
  · exact (mem_escape member).elim (by decide) (h.not_mem rfl (by decide))
  · rw [getLast?_escape] at last
    refine ⟨fun slash => h.ends (slash ▸ last), ?_⟩
    rintro rfl
    exact h.not_mem rfl (by decide) (List.mem_of_getLast? last)

theorem joinLines_ending {ending : List Char} (only : ∀ c ∈ ending, c ∈ [' ', '\n', '\r']) :
    joinLines ending = ending := by
  have absent : '\\' ∉ ending := fun member => absurd (only _ member) (by decide)
  have kept := fun lead => @Text.replace_append_of_not_mem [' '] '\\' ending absent lead []
  simp only [List.append_nil, Text.replace_nil] at kept
  rw [joinLines, kept, kept]

/-- The listed paths as they stand once the lines are joined, each with the spaces before it. -/
def Layout.joined (entries : List (List Filler × List Char)) : List (List Char × List Char) :=
  entries.map fun (gap, path) => (List.replicate gap.length ' ', escape path)

theorem joinLines_entries {entries : List (List Filler × List Char)}
    (writable : ∀ path ∈ entries.map (·.2), Writable path) (rest : List Char) :
    joinLines (entries.flatMap (fun (gap, path) => fillers gap ++ escape path) ++ rest) =
      spread (Layout.joined entries) ++ joinLines rest := by
  induction entries with
  | nil => rfl
  | cons entry entries ih =>
      obtain ⟨first, others⟩ := List.forall_mem_cons.mp writable
      have shape : spread (Layout.joined (entry :: entries)) =
          List.replicate entry.1.length ' ' ++ (escape entry.2 ++ spread (Layout.joined entries)) :=
        spread_cons _ _
      rw [shape, List.flatMap_cons]
      simp only [List.append_assoc, joinLines_fillers, joinLines_escape first, ih others]

variable {layout : Layout}

theorem Layout.Readable.joinLines_text (h : layout.Readable) :
    joinLines layout.text = layout.target ++ ':' :: ' ' ::
      (spread (Layout.joined layout.entries) ++
        (List.replicate layout.closing.length ' ' ++ layout.ending)) := by
  have oneLine : '\n' ∉ layout.target ++ [':', ' '] := by simpa using h.oneLine
  have shape : layout.text = layout.target ++ [':', ' '] ++
      (layout.entries.flatMap (fun (gap, path) => fillers gap ++ escape path) ++
        (fillers layout.closing ++ layout.ending)) := by
    simp [Layout.text]
  rw [shape, joinLines_append oneLine (by simp), joinLines_entries h.paths, joinLines_fillers,
    joinLines_ending h.ending]
  simp

theorem Layout.Readable.apart (h : layout.Readable) : Apart (Layout.joined layout.entries) := by
  constructor
  · intro entry member c inGap
    obtain ⟨_, -, rfl⟩ := List.mem_map.mp member
    rw [List.eq_of_mem_replicate inGap]
    rfl
  · intro entry member
    obtain ⟨listed, isListed, rfl⟩ := List.mem_map.mp member
    exact (h.paths listed.2 (List.mem_map_of_mem isListed)).whole
  · intro entry member
    rw [Layout.joined, ← List.map_tail] at member
    obtain ⟨listed, isListed, rfl⟩ := List.mem_map.mp member
    simpa using h.gaps listed isListed

/-- Behind the last path stand blanks only. -/
theorem Layout.Readable.blank_behind (h : layout.Readable) :
    ∀ c ∈ List.replicate layout.closing.length ' ' ++ layout.ending, Text.isBlank c = true := by
  intro c member
  rcases List.mem_append.mp member with inClosing | inEnding
  · rw [List.eq_of_mem_replicate inClosing]
    rfl
  · have each := h.ending c inEnding
    simp only [List.mem_cons, List.not_mem_nil, or_false] at each
    rcases each with rfl | rfl | rfl <;> rfl

/-- The last written path ends visibly, since it does not end with a space. -/
theorem Layout.Readable.last_visible (h : layout.Readable) :
    ∀ part ∈ (layout.paths.map escape).getLast?, ∀ c ∈ part.getLast?, Text.isBlank c = false := by
  rw [List.getLast?_map]
  intro part isLast c last
  obtain ⟨path, found, rfl⟩ := Option.map_eq_some_iff.mp isLast
  rw [getLast?_escape] at last
  refine Bool.eq_false_iff.mpr fun blank => h.closed path found ?_
  have writable := h.paths path (List.mem_of_getLast? found)
  rw [← writable.spaces c (List.mem_of_getLast? last) blank]
  exact last

/-- Whatever the layout of a rule, reading it gives the listed paths. -/
theorem parse_layout (readable : layout.Readable) :
    parse (String.ofList layout.text) = layout.paths.map String.ofList := by
  have behind : ∀ rest, prerequisites? (layout.target ++ ':' :: ' ' :: rest) = some rest := by
    intro rest
    rw [prerequisites?, afterSpacedColon?_append readable.target, afterSpacedColon?]
  have written : (Layout.joined layout.entries).map (·.2) = layout.paths.map escape := by
    simp [Layout.joined, Layout.paths]
  have cut := filter_cutFrom_trim readable.apart readable.blank_behind (written ▸ readable.last_visible)
  rw [parse, String.toList_ofList, readable.joinLines_text, behind]
  dsimp only
  rw [cut, written, List.map_map]
  refine List.map_congr_left fun path member => ?_
  rw [Function.comp_apply, unescape_escape (readable.paths path member).bound]

/-- A rule over three lines: drive letters, colons and backslashes, and spaces at the ends of paths. -/
def windowsRule : Layout where
  target := "C:\\my out\\a:b.spv".toList
  entries := [([.lineEnd, .space], " x:y".toList),
    ([.space, .returnLineEnd], "D:\\inc dir\\a.h ".toList), ([.lineEnd], "..\\b  c".toList)]
  closing := [.space, .lineEnd]
  ending := [' ', '\r', '\n', '\n']

theorem parse_windowsRule : windowsRule.Readable ∧
    String.ofList windowsRule.text =
      "C:\\my out\\a:b.spv: \\\n \\ x:y \\\r\nD:\\inc\\ dir\\a.h\\ \\\n..\\b\\ \\ c \\\n \r\n\n" ∧
    parse (String.ofList windowsRule.text) = [" x:y", "D:\\inc dir\\a.h ", "..\\b  c"] := by
  have ending : ∀ c ∈ [' ', '\r', '\n', '\n'], c ∈ [' ', '\n', '\r'] := by simp
  have readable : windowsRule.Readable := by
    refine ⟨?_, ?_, ?_, ?_, ?_, ending⟩ <;> decide
  exact ⟨readable, by decide +kernel, parse_layout readable⟩

end ShaderBuild.Depfile
