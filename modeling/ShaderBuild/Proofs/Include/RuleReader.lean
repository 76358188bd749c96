import ShaderBuild.Proofs.Include.RenderedRules

/-! # A reader for rendered rules

What a build system has to do to get back the target and the paths of a rule that was rendered for it. It
joins the broken lines, finds the end of the target at a colon, cuts the rest at its blanks and undoes all
the escapes. Nothing is lost on the way, so a rule says which paths it was rendered from.
-/

namespace ShaderBuild.Depfile

open Artifact

/-! ## The reader -/

/-- A text cut at its last colon. -/
def atLastColon? : List Char → Option (List Char × List Char)
  | [] => none
  | c :: rest =>
    match atLastColon? rest with
    | some (before, after) => some (c :: before, after)
    | none => if c = ':' then some ([], rest) else none

/-- A path without its escapes. They are undone from the left, each one once. -/
def undo : List Char → List Char
  | '$' :: '$' :: rest => '$' :: undo rest
  | '\\' :: '#' :: rest => '#' :: undo rest
  | '\\' :: ' ' :: rest => ' ' :: undo rest
  | c :: rest => c :: undo rest
  | [] => []

/-- The target of a rule and the paths it depends on. The target ends at the last colon before the first
    blank that has no backslash before it. -/
def readRule? (text : String) : Option (String × List String) :=
  let joined := joinLines text.toList
  let front := (cutFrom false joined).headD []
  match atLastColon? front with
  | none => none
  | some (target, _) =>
    let listed := joined.drop (target.length + 1)
    let parts := (cutFrom false listed).filter fun part => !part.isEmpty
    some (String.ofList (undo target), parts.map fun part => String.ofList (undo part))

/-- A rule whose paths can be told apart. -/
structure PlainRule (target : Path) (dependencies : List String) : Prop where
  noSlash : '\\' ∉ target.toString.toList
  spaces : ∀ c ∈ target.toString.toList, Text.isBlank c = true → c = ' '
  listable : ∀ path ∈ dependencies, Listable path.toList

/-! ## What is read back -/

theorem atLastColon?_append (text : List Char) : atLastColon? (text ++ [':']) = some (text, []) := by
  induction text with
  | nil => rfl
  | cons c text ih => rw [List.cons_append, atLastColon?, ih]

/-- Whatever follows, undoing takes a written character back. -/
theorem undo_ruleChar {c : Char} (notSlash : c ≠ '\\') (rest : List Char) :
    undo (ruleChar c ++ rest) = c :: undo rest := by
  rcases ruleChar_cases c with ⟨slash, -⟩ | ⟨rfl, same⟩ | ⟨rfl, same⟩ | ⟨rfl, same⟩ |
    ⟨-, notDollar, -, -, same⟩
  · exact (notSlash slash).elim
  · rw [same]
    rfl
  · rw [same]
    rfl
  · rw [same]
    rfl
  · rw [same, List.singleton_append,
      undo.eq_4 _ _ (fun _ dollar => (notDollar dollar).elim) (fun _ slash => (notSlash slash).elim)
        (fun _ slash => (notSlash slash).elim)]

theorem undo_rulePath {path : List Char} (noSlash : '\\' ∉ path) : undo (rulePath path) = path := by
  induction path with
  | nil => rfl
  | cons c path ih =>
      obtain ⟨differ, others⟩ := not_or.mp (mt List.mem_cons.mpr noSlash)
      rw [rulePath_cons, undo_ruleChar (Ne.symm differ), ih others]

/-- What is cut off first is the target with its colon. -/
theorem headD_cutFrom_target {target : List Char}
    (spaces : ∀ c ∈ target, Text.isBlank c = true → c = ' ') (paths : List (List Char)) :
    (cutFrom false (rulePath target ++ ':' :: listed paths)).headD [] = rulePath target ++ [':'] := by
  have behind : ∃ pieces, cutFrom false (listed paths) = [] :: pieces := by
    cases paths with
    | nil => exact ⟨_, cutFrom_blank rfl []⟩
    | cons path paths => exact ⟨_, cutFrom_blank rfl _⟩
  obtain ⟨pieces, cut⟩ := behind
  have colon : cutFrom false (':' :: listed paths) = [':'] :: pieces := cutFrom_kept (.inr rfl) cut
  rw [cutFrom_rulePath spaces colon, List.headD_cons]

/-- Here no path has to end visibly, since nothing is trimmed. -/
theorem filter_cutFrom_untrimmed {paths : List (List Char)} (listable : ∀ path ∈ paths, Listable path) :
    (cutFrom false (listed paths)).filter (fun part => !part.isEmpty) = paths.map rulePath := by
  rw [listed_eq_spread, filter_cutFrom_spread (apart_gapped listable) (by simp), map_snd_gapped]

variable {target : Path} {dependencies : List String}

theorem map_undo_written (listable : ∀ path ∈ dependencies, Listable path.toList) :
    ((dependencies.map String.toList).map rulePath).map (fun part => String.ofList (undo part)) =
      dependencies := by
  induction dependencies with
  | nil => rfl
  | cons path dependencies ih =>
      obtain ⟨first, others⟩ := List.forall_mem_cons.mp listable
      simp only [List.map_cons, undo_rulePath first.noSlash, String.ofList_toList, ih others]

theorem readRule?_renderDepfile (plain : PlainRule target dependencies) :
    readRule? (String.ofList (renderDepfile target dependencies)) =
      some (target.toString, dependencies) := by
  have listable : ∀ path ∈ dependencies.map String.toList, Listable path := by
    simpa using plain.listable
  have behind : (rulePath target.toString.toList ++ ':' :: listed (dependencies.map String.toList)).drop
      ((rulePath target.toString.toList).length + 1) = listed (dependencies.map String.toList) := by
    rw [List.drop_length_add_append]
    rfl
  simp only [readRule?, String.toList_ofList, joinLines_renderDepfile]
  rw [headD_cutFrom_target plain.spaces, atLastColon?_append]
  dsimp only
  rw [behind, filter_cutFrom_untrimmed listable, undo_rulePath plain.noSlash, String.ofList_toList,
    map_undo_written plain.listable]

/-- A rendered rule is read back as it was, so no other one is rendered to the same text. -/
theorem renderDepfile_uniquely_readable (plain : PlainRule target dependencies) :
    readRule? (String.ofList (renderDepfile target dependencies)) =
        some (target.toString, dependencies) ∧
      ∀ otherTarget otherDependencies, PlainRule otherTarget otherDependencies →
        renderDepfile otherTarget otherDependencies = renderDepfile target dependencies →
          otherTarget.toString = target.toString ∧ otherDependencies = dependencies := by
  refine ⟨readRule?_renderDepfile plain, fun otherTarget otherDependencies otherPlain same => ?_⟩
  have other := readRule?_renderDepfile otherPlain
  rw [same, readRule?_renderDepfile plain] at other
  exact Prod.mk.inj (Option.some.inj other.symm)

/-- Spaces at both ends, and every character that has an escape. To write two of the paths as one makes
    another rule, though there is a space between them in both. -/
theorem renderDepfile_special_paths :
    PlainRule (Path.ofString " $out:/a: b:") [" a$", "#b: ", "$$#"] ∧
      readRule? (String.ofList (renderDepfile (Path.ofString " $out:/a: b:") [" a$", "#b: ", "$$#"])) =
        some (" $out:/a: b:", [" a$", "#b: ", "$$#"]) ∧
      renderDepfile (Path.ofString " $out:/a: b:") [" a$ #b: ", "$$#"] ≠
        renderDepfile (Path.ofString " $out:/a: b:") [" a$", "#b: ", "$$#"] := by
  have shown : (Path.ofString " $out:/a: b:").toString = " $out:/a: b:" := by decide +kernel
  have target : Listable " $out:/a: b:".toList := by decide
  have plain : ∀ {dependencies : List String}, (∀ path ∈ dependencies, Listable path.toList) →
      PlainRule (Path.ofString " $out:/a: b:") dependencies := fun listable =>
    ⟨shown ▸ target.noSlash, shown ▸ target.spaces, listable⟩
  have read := renderDepfile_uniquely_readable
    (plain (show ∀ path ∈ [" a$", "#b: ", "$$#"], Listable path.toList by decide))
  refine ⟨plain (by decide), ?_, fun same => ?_⟩
  · rw [read.1, shown]
  · exact absurd (read.2 _ _ (plain (by decide)) same).2 (by decide)

end ShaderBuild.Depfile
