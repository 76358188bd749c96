import ShaderBuild.Artifact.Render
import ShaderBuild.Proofs.Include.Cutting

/-! # Reading rendered rules

A rule that was rendered for a build system, read the way a compiler's rule is read. The reader joins the
broken line, cuts at the blanks and undoes the escapes of spaces; dollars and hashes have escapes as well,
and these it leaves in place.
-/

namespace ShaderBuild.Depfile

open Artifact

/-- A path that a rule can list: there is something of it, and neither a backslash nor a blank other
    than a space is in it. -/
structure Listable (path : List Char) : Prop where
  notEmpty : path ≠ []
  noSlash : '\\' ∉ path
  spaces : ∀ c ∈ path, Text.isBlank c = true → c = ' '

theorem listable_iff {path : List Char} :
    Listable path ↔ path ≠ [] ∧
      path.all (fun c => c != '\\' && (!Text.isBlank c || c == ' ')) = true := by
  simp only [List.all_eq_true, Bool.and_eq_true, bne_iff_ne, Bool.or_eq_true, Bool.not_eq_true',
    beq_iff_eq, ← Bool.not_eq_true, ← imp_iff_not_or]
  constructor
  · intro h
    exact ⟨h.notEmpty, fun c member => ⟨fun slash => h.noSlash (slash ▸ member), h.spaces c member⟩⟩
  · rintro ⟨filled, each⟩
    exact ⟨filled, fun member => (each _ member).1 rfl, fun c member => (each c member).2⟩

instance (path : List Char) : Decidable (Listable path) := decidable_of_iff _ listable_iff.symm

/-- One character of a path as it is read back. -/
def keptChar (c : Char) : List Char :=
  if c = '$' then ['$', '$'] else if c = '#' then ['\\', '#'] else [c]

/-- A path as it is read back: each dollar is there twice, and each hash has a backslash before it. -/
def keptPath (path : List Char) : List Char := path.flatMap keptChar

theorem keptPath_eq_self_iff {path : List Char} : keptPath path = path ↔ '$' ∉ path ∧ '#' ∉ path := by
  have grows : ∀ path, path.length ≤ (keptPath path).length := by
    intro path
    induction path with
    | nil => exact Nat.le_refl _
    | cons c path ih =>
        have one : 1 ≤ (keptChar c).length := by
          unfold keptChar
          split_ifs <;> simp
        simp only [keptPath, List.flatMap_cons, List.length_append, List.length_cons] at ih ⊢
        omega
  induction path with
  | nil => simp [keptPath]
  | cons c path ih =>
      have longer := grows path
      by_cases special : c = '$' ∨ c = '#'
      · refine iff_of_false (fun same => ?_) ?_
        · have lengths := congrArg List.length same
          rcases special with rfl | rfl <;>
            simp [keptPath, keptChar] at lengths longer <;> omega
        · rcases special with rfl | rfl <;> simp
      · obtain ⟨notDollar, notHash⟩ := not_or.mp special
        have plain : keptPath (c :: path) = c :: keptPath path := by
          simp [keptPath, keptChar, notDollar, notHash]
        simp only [plain, List.cons.injEq, true_and, List.mem_cons, not_or]
        simpa [Ne.symm notDollar, Ne.symm notHash] using ih

/-! ## A written path -/

/-- One character of a path in a rule. -/
def ruleChar (c : Char) : List Char :=
  if c = '\\' then ['/']
  else if c = '$' then ['$', '$']
  else if c = '#' then ['\\', '#']
  else if c = ' ' then ['\\', ' ']
  else [c]

/-- None of the replacements finds anything in what an earlier one has put in, so each character is
    written on its own. -/
theorem rulePath_eq_flatMap (path : List Char) : rulePath path = path.flatMap ruleChar := by
  simp only [rulePath, Text.replace_singleton, List.flatMap_assoc]
  refine List.flatMap_congr fun c _ => ?_
  unfold ruleChar
  split_ifs <;> simp_all

/-- What a rule writes for a character: the character itself, if it is none of the special ones. -/
theorem ruleChar_cases (c : Char) :
    (c = '\\' ∧ ruleChar c = ['/']) ∨ (c = '$' ∧ ruleChar c = ['$', '$']) ∨
      (c = '#' ∧ ruleChar c = ['\\', '#']) ∨ (c = ' ' ∧ ruleChar c = ['\\', ' ']) ∨
      (c ≠ '\\' ∧ c ≠ '$' ∧ c ≠ '#' ∧ c ≠ ' ' ∧ ruleChar c = [c]) := by
  unfold ruleChar
  split_ifs <;> simp_all

theorem rulePath_cons (c : Char) (path : List Char) :
    rulePath (c :: path) = ruleChar c ++ rulePath path := by
  simp only [rulePath_eq_flatMap, List.flatMap_cons]

/-- A written path starts with no space: a space has a backslash before it. -/
theorem head?_rulePath (path : List Char) : (rulePath path).head? ≠ some ' ' := by
  cases path with
  | nil => simp [rulePath]
  | cons c path =>
      rw [rulePath_cons]
      rcases ruleChar_cases c with ⟨-, same⟩ | ⟨-, same⟩ | ⟨-, same⟩ | ⟨-, same⟩ | ⟨-, -, -, other, same⟩ <;>
        simp [same]
      exact other

/-- A backslash that is replaced together with a line end is none of those in a written path. -/
theorem replace_rulePath {l : Char} (notHash : l ≠ '#') (notSpace : l ≠ ' ') (lead new : List Char)
    (path rest : List Char) :
    Text.replace ('\\' :: l :: lead) new (rulePath path ++ rest) =
      rulePath path ++ Text.replace ('\\' :: l :: lead) new rest := by
  induction path with
  | nil => rfl
  | cons c path ih =>
      have escaped : ∀ d, d ≠ '\\' → l ≠ d →
          Text.replace ('\\' :: l :: lead) new ('\\' :: d :: (rulePath path ++ rest)) =
            '\\' :: d :: Text.replace ('\\' :: l :: lead) new (rulePath path ++ rest) := by
        intro d notSlash differ
        rw [Text.replace_cons (by simp [Text.after?, differ]), Text.replace_cons_of_ne notSlash.symm]
      rw [rulePath_cons, List.append_assoc]
      rcases ruleChar_cases c with ⟨-, same⟩ | ⟨-, same⟩ | ⟨-, same⟩ | ⟨-, same⟩ | ⟨other, -, -, -, same⟩ <;>
        rw [same]
      · rw [Text.replace_append_of_not_mem (by simp), ih, List.append_assoc]
      · rw [Text.replace_append_of_not_mem (by simp), ih, List.append_assoc]
      · simp only [List.cons_append, List.nil_append, escaped '#' (by decide) notHash, ih]
      · simp only [List.cons_append, List.nil_append, escaped ' ' (by decide) notSpace, ih]
      · rw [Text.replace_append_of_not_mem (by simpa using other.symm), ih, List.append_assoc]

theorem joinLines_rulePath (path rest : List Char) :
    joinLines (rulePath path ++ rest) = rulePath path ++ joinLines rest := by
  simp only [joinLines, replace_rulePath (show '\r' ≠ '#' by decide) (by decide),
    replace_rulePath (show '\n' ≠ '#' by decide) (by decide)]

/-- What stands between the paths of a rule once the lines are joined. -/
def gap : List Char := [' ', ' ', ' ', ' ']

theorem joinLines_ruleBreak (rest : List Char) :
    joinLines (ruleBreak ++ rest) = gap ++ joinLines rest :=
  joinLines_fillers [.space, .lineEnd, .space, .space] rest

/-- The listed part of a rule, its lines joined. -/
def listed (paths : List (List Char)) : List Char :=
  paths.flatMap (fun path => gap ++ rulePath path) ++ ['\n']

theorem joinLines_renderDepfile (target : Path) (dependencies : List String) :
    joinLines (renderDepfile target dependencies) =
      rulePath target.toString.toList ++ ':' :: listed (dependencies.map String.toList) := by
  have behind : ∀ paths : List (List Char),
      joinLines ((paths.map rulePath).flatMap (ruleBreak ++ ·) ++ ['\n']) = listed paths := by
    intro paths
    induction paths with
    | nil => rfl
    | cons path paths ih =>
        simp only [List.map_cons, List.flatMap_cons, List.append_assoc, joinLines_ruleBreak,
          joinLines_rulePath, ih, listed]
  have colon : ∀ rest, joinLines (':' :: rest) = ':' :: joinLines rest := by
    intro rest
    simp [joinLines, Text.replace_cons_of_ne]
  rw [renderDepfile, Text.joinWith_cons, List.append_assoc, List.append_assoc, joinLines_rulePath,
    List.singleton_append, colon, ← behind, List.map_map]
  rfl

/-! ## Behind the target -/

/-- A written target holds no colon that a space follows. -/
theorem afterSpacedColon?_rulePath (path rest : List Char) :
    afterSpacedColon? (rulePath path ++ ':' :: rest) = afterSpacedColon? (':' :: rest) := by
  induction path with
  | nil => rfl
  | cons c path ih =>
      have next : (rulePath path ++ ':' :: rest).head? ≠ some ' ' := by
        rw [List.head?_append]
        cases head : (rulePath path).head? with
        | none => simp
        | some d => simpa [head] using head?_rulePath path
      have last : ∀ d, afterSpacedColon? (d :: (rulePath path ++ ':' :: rest)) =
          afterSpacedColon? (':' :: rest) := by
        intro d
        rw [afterSpacedColon?_cons fun _ => next, ih]
      rw [rulePath_cons, List.append_assoc]
      rcases ruleChar_cases c with ⟨-, same⟩ | ⟨-, same⟩ | ⟨-, same⟩ | ⟨-, same⟩ | ⟨-, -, -, -, same⟩ <;>
        simp only [same, List.cons_append, List.nil_append, last]
      · rw [afterSpacedColon?_cons (by simp), last]
      · rw [afterSpacedColon?_cons (by simp), last]
      · rw [afterSpacedColon?_cons (by simp), last]

/-! ## The listed paths -/

theorem rulePath_ne_nil {path : List Char} (some : path ≠ []) : rulePath path ≠ [] := by
  obtain ⟨c, rest, rfl⟩ := List.exists_cons_of_ne_nil some
  rw [rulePath_cons]
  rcases ruleChar_cases c with ⟨-, same⟩ | ⟨-, same⟩ | ⟨-, same⟩ | ⟨-, same⟩ | ⟨-, -, -, -, same⟩ <;>
    simp [same]

/-- A written path that does not end with a space ends with a visible character. -/
theorem last_visible {path : List Char} (h : Listable path) (closed : path.getLast? ≠ some ' ') :
    ∀ c ∈ (rulePath path).getLast?, Text.isBlank c = false := by
  obtain ⟨front, c, rfl⟩ := List.eq_nil_or_concat path |>.resolve_left h.notEmpty
  rw [List.concat_eq_append] at h closed ⊢
  have shown : rulePath (front ++ [c]) = rulePath front ++ ruleChar c := by simp [rulePath_eq_flatMap]
  have notSpace : c ≠ ' ' := by
    rintro rfl
    simp at closed
  rw [shown]
  rcases ruleChar_cases c with ⟨-, same⟩ | ⟨-, same⟩ | ⟨-, same⟩ | ⟨space, -⟩ | ⟨-, -, -, -, same⟩
  · simp [same]
  · simp [same]
  · simp [same]
  · exact (notSpace space).elim
  · have visible := visible_of_ne h.spaces (show c ∈ front ++ [c] by simp) notSpace
    simp [same, visible]

/-- No blank in a written character is one to cut at. -/
theorem cutFrom_ruleChar {c : Char} (spaces : Text.isBlank c = true → c = ' ')
    {rest part : List Char} {parts : List (List Char)} (others : cutFrom false rest = part :: parts) :
    cutFrom false (ruleChar c ++ rest) = (ruleChar c ++ part) :: parts := by
  rcases ruleChar_cases c with ⟨-, same⟩ | ⟨-, same⟩ | ⟨-, same⟩ | ⟨-, same⟩ | ⟨slash, -, -, other, same⟩
  · simp [same, cutFrom, others]
  · simp [same, cutFrom, others]
  · simp [same, cutFrom, others]
  · simp [same, cutFrom, others]
  · have plain : Text.isBlank c = false := Bool.eq_false_iff.mpr fun blank => other (spaces blank)
    simp [same, cutFrom, plain, beq_eq_false_iff_ne.mpr slash, others]

theorem cutFrom_rulePath {path : List Char} (spaces : ∀ c ∈ path, Text.isBlank c = true → c = ' ')
    {rest part : List Char} {parts : List (List Char)} (others : cutFrom false rest = part :: parts) :
    cutFrom false (rulePath path ++ rest) = (rulePath path ++ part) :: parts := by
  induction path with
  | nil => simpa [rulePath] using others
  | cons c path ih =>
      obtain ⟨first, spaces⟩ := List.forall_mem_cons.mp spaces
      rw [rulePath_cons, List.append_assoc, cutFrom_ruleChar first (ih spaces), List.append_assoc]

theorem Listable.whole {path : List Char} (h : Listable path) : Whole (rulePath path) where
  some := rulePath_ne_nil h.notEmpty
  uncut := cutFrom_rulePath h.spaces

/-- The written paths of a rule, each with the gap before it. -/
def gapped (paths : List (List Char)) : List (List Char × List Char) :=
  paths.map fun path => (gap, rulePath path)

theorem map_snd_gapped (paths : List (List Char)) : (gapped paths).map (·.2) = paths.map rulePath := by
  simp [gapped]

theorem listed_eq_spread (paths : List (List Char)) : listed paths = spread (gapped paths) ++ ['\n'] := by
  simp [listed, spread, gapped, List.flatMap_map]

theorem apart_gapped {paths : List (List Char)} (listable : ∀ path ∈ paths, Listable path) :
    Apart (gapped paths) := by
  constructor
  · simp [gapped, gap]
  · simpa [gapped] using fun path member => (listable path member).whole
  · simp [gapped, gap, ← List.map_tail]

/-- The listed part is cut into the written paths. -/
theorem filter_cutFrom_listed {paths : List (List Char)} (listable : ∀ path ∈ paths, Listable path)
    (closed : ∀ path ∈ paths.getLast?, path.getLast? ≠ some ' ') :
    (cutFrom false (Text.trim (listed paths))).filter (fun part => !part.isEmpty) =
      paths.map rulePath := by
  rw [listed_eq_spread, ← map_snd_gapped]
  refine filter_cutFrom_trim (apart_gapped listable) (by simp) ?_
  rw [map_snd_gapped, List.getLast?_map]
  intro part isLast
  obtain ⟨path, found, rfl⟩ := Option.map_eq_some_iff.mp isLast
  exact last_visible (listable path (List.mem_of_getLast? found)) (closed path found)

/-- Undoing the escapes of spaces undoes no other one. -/
theorem unescape_rulePath {path : List Char} (noSlash : '\\' ∉ path) :
    unescape (rulePath path) = keptPath path := by
  induction path with
  | nil => rfl
  | cons c path ih =>
      obtain ⟨differ, others⟩ := not_or.mp (mt List.mem_cons.mpr noSlash)
      have space := @Text.replace_part ['\\', ' '] [' '] (by simp) (rulePath path)
      have kept : keptPath (c :: path) = keptChar c ++ keptPath path := List.flatMap_cons
      have passed : ∀ text : List Char, '\\' ∉ text →
          unescape (text ++ rulePath path) = text ++ keptPath path := by
        intro text absent
        rw [unescape, Text.replace_append_of_not_mem absent, ← ih others, unescape]
      rw [rulePath_cons, kept]
      rcases ruleChar_cases c with ⟨slash, -⟩ | ⟨rfl, same⟩ | ⟨rfl, same⟩ | ⟨rfl, same⟩ |
        ⟨-, notDollar, notHash, -, same⟩
      · exact (differ slash.symm).elim
      · rw [same, passed _ (by simp)]
        rfl
      · have hash := passed ['#'] (by simp)
        rw [unescape] at hash
        rw [same, unescape, List.cons_append, Text.replace_cons (by simp [Text.after?]), hash]
        rfl
      · rw [same, unescape, space, ← ih others]
        rfl
      · rw [same, passed [c] (by simpa using differ)]
        simp [keptChar, notDollar, notHash]

theorem parse_rendered (target : Path) {dependencies : List String}
    (listable : ∀ path ∈ dependencies, Listable path.toList)
    (closed : ∀ path ∈ dependencies.getLast?, path.toList.getLast? ≠ some ' ') :
    parse (String.ofList (renderDepfile target dependencies)) =
      dependencies.map fun path => String.ofList (keptPath path.toList) := by
  rw [parse, String.toList_ofList, joinLines_renderDepfile]
  cases dependencies with
  | nil =>
      have none : prerequisites? (rulePath target.toString.toList ++ ':' :: listed []) = some ['\n'] := by
        simp [prerequisites?, afterSpacedColon?_rulePath, afterSpacedColon?, afterLastColon?, listed]
      rw [List.map_nil, none]
      rfl
  | cons first others =>
      have found : prerequisites? (rulePath target.toString.toList ++
          ':' :: listed ((first :: others).map String.toList)) =
            some (listed ((first :: others).map String.toList)).tail := by
        simp [prerequisites?, afterSpacedColon?_rulePath, listed, gap, afterSpacedColon?]
      have isListable : ∀ path ∈ (first :: others).map String.toList, Listable path := by
        simpa using listable
      have isClosed : ∀ path ∈ ((first :: others).map String.toList).getLast?,
          path.getLast? ≠ some ' ' := by
        rw [List.getLast?_map]
        simpa using closed
      -- the colon takes the first space, which is trimmed away in any case
      have trimmed : Text.trim (listed ((first :: others).map String.toList)).tail =
          Text.trim (listed ((first :: others).map String.toList)) := rfl
      rw [found]
      dsimp only
      rw [trimmed, filter_cutFrom_listed isListable isClosed, List.map_map, List.map_map]
      refine List.map_congr_left fun path member => ?_
      rw [Function.comp_apply, Function.comp_apply, unescape_rulePath (listable path member).noSlash]

/-- A rendered rule is read back path by path, but for the escapes of dollars and hashes, which stay.
    So what is read are the very paths if and only if there are none of these characters in them. -/
theorem parse_renderDepfile (target : Path) {dependencies : List String}
    (listable : ∀ path ∈ dependencies, Listable path.toList)
    (closed : ∀ path ∈ dependencies.getLast?, path.toList.getLast? ≠ some ' ') :
    parse (String.ofList (renderDepfile target dependencies)) =
        dependencies.map (fun path => String.ofList (keptPath path.toList)) ∧
      (parse (String.ofList (renderDepfile target dependencies)) = dependencies ↔
        ∀ path ∈ dependencies, '$' ∉ path.toList ∧ '#' ∉ path.toList) := by
  have read := parse_rendered target listable closed
  refine ⟨read, ?_⟩
  have same : ∀ path : String, String.ofList (keptPath path.toList) = path ↔
      '$' ∉ path.toList ∧ '#' ∉ path.toList := by
    intro path
    rw [← keptPath_eq_self_iff, ← String.toList_inj, String.toList_ofList]
  rw [read]
  conv_lhs => rhs; rw [← List.map_id dependencies]
  simp only [List.map_inj_left, id_eq, same]

/-- Spaces at both ends, in the middle and next to a hash: only the dollar and the hash have kept their
    escapes. -/
theorem parse_special_paths :
    (∀ path ∈ [" a b", "c #d ", " $x"], Listable path.toList) ∧
      (∀ path ∈ [" a b", "c #d ", " $x"].getLast?, path.toList.getLast? ≠ some ' ') ∧
      parse (String.ofList (renderDepfile (Path.ofString "my out/x.h") [" a b", "c #d ", " $x"])) =
        [" a b", "c \\#d ", " $$x"] := by
  have listable : ∀ path ∈ [" a b", "c #d ", " $x"], Listable path.toList := by decide
  have closed : ∀ path ∈ [" a b", "c #d ", " $x"].getLast?, path.toList.getLast? ≠ some ' ' := by
    simp
  exact ⟨listable, closed, (parse_renderDepfile (Path.ofString "my out/x.h") listable closed).1⟩

/-- Two paths that are not read back: the dollar of the first stays doubled, and the space that ends the
    second one is trimmed away from its backslash. -/
theorem parse_renderDepfile_ne :
    Listable "a$b".toList ∧ Listable "a ".toList ∧
      parse (String.ofList (renderDepfile (Path.ofString "out") ["a$b"])) = ["a$$b"] ∧
      parse (String.ofList (renderDepfile (Path.ofString "out") ["a "])) = ["a\\"] := by
  refine ⟨by decide, by decide, ?_, ?_⟩ <;> decide +kernel

end ShaderBuild.Depfile
