import ShaderBuild.Proofs.Files.Places
import ShaderBuild.Proofs.Text.Parts

/-! # Where paths lead

A path leads where its folder leads, and one step down. Paths go on leading where they lead as long as
the directories of the tree stay.
-/

namespace ShaderBuild

namespace FileTree

variable {tree grown : FileTree} {place last middle : Location} {subject : String} {parts more : List String}

/-! ## Walking -/

/-- Where one component leads. -/
def next? (place : Location) (part : String) : Option Location :=
  if part = "" ∨ part = "." then some place
  else if part = ".." then some place.up
  else if part.utf8ByteSize > longestName then none
  else some (place.down part)

/-- A walk that arrives. -/
inductive Leads (tree : FileTree) : Location → List String → Location → Prop where
  | here {place : Location} : Leads tree place [] place
  | step {place next last : Location} {part : String} {parts : List String}
      (directory : tree.node? place = some .directory) (goes : next? place part = some next)
      (others : Leads tree next parts last) : Leads tree place (part :: parts) last

theorem walk_eq_ok_iff : tree.walk subject place parts = .ok last ↔ Leads tree place parts last := by
  constructor
  · intro found
    fun_induction walk tree subject place parts with
    | case1 => cases found; exact .here
    | case2 => cases found
    | case3 => cases found
    | case4 place part parts directory still ih =>
        exact .step directory (if_pos still) (ih found)
    | case5 place parts directory still ih =>
        exact .step directory (by rw [next?, if_neg still, if_pos rfl]) (ih found)
    | case6 => cases found
    | case7 place part parts directory still up fits ih =>
        exact .step directory (by rw [next?, if_neg still, if_neg up, if_neg fits]) (ih found)
  · intro leads
    induction leads with
    | here => rfl
    | step directory goes _ ih =>
        rw [walk, directory]
        dsimp only
        unfold next? at goes
        split at goes
        · next still => cases goes; rw [if_pos still, ih]
        · next still =>
            rw [if_neg still]
            split at goes
            · next up => cases goes; rw [if_pos up, ih]
            · next up =>
                rw [if_neg up]
                split at goes
                · cases goes
                · next fits => cases goes; rw [if_neg fits, ih]

theorem leads_append_iff :
    Leads tree place (parts ++ more) last ↔
      ∃ middle, Leads tree place parts middle ∧ Leads tree middle more last := by
  constructor
  · intro leads
    induction parts generalizing place with
    | nil => exact ⟨place, .here, leads⟩
    | cons part parts ih =>
        cases leads with
        | step directory goes others =>
            obtain ⟨middle, first, second⟩ := ih others
            exact ⟨middle, .step directory goes first, second⟩
  · rintro ⟨middle, first, second⟩
    induction first with
    | here => exact second
    | step directory goes _ ih => exact .step directory goes (ih second)

theorem Leads.unique (one : Leads tree place parts last) (other : Leads tree place parts middle) :
    last = middle := by
  induction one with
  | here => cases other; rfl
  | step _ goes _ ih =>
      cases other with
      | step _ same others =>
          rw [goes] at same
          cases same
          exact ih others

def Keeps (tree grown : FileTree) : Prop :=
  ∀ place, tree.node? place = some .directory → grown.node? place = some .directory

theorem Leads.keeps (leads : Leads tree place parts last) (keeps : Keeps tree grown) :
    Leads grown place parts last := by
  induction leads with
  | here => exact .here
  | step directory goes _ ih => exact .step (keeps _ directory) goes ih

/-! ## Locating -/

/-- Where the walk along a path starts. -/
def startOf (path : List Char) : Location :=
  if Path.rootOf path = .relative then .here else ⟨.absolute, []⟩

def components (path : List Char) : List String := (Text.splitAt '/' path).map String.ofList

theorem locate_eq_ok_iff {path : String} :
    tree.locate path = .ok place ↔ '\x00' ∉ path.toList ∧ path ≠ "" ∧
      path.utf8ByteSize ≤ longestPath ∧ Leads tree (startOf path.toList) (components path.toList) place := by
  unfold locate
  by_cases nul : '\x00' ∈ path.toList
  · simp [nul]
  by_cases void : path = ""
  · simp [void]
  by_cases long : path.utf8ByteSize > longestPath
  · simp [nul, void, long, Nat.not_le.mpr long]
  have fits := Nat.not_lt.mp long
  have walks : tree.walk path (startOf path.toList) (components path.toList) = .ok place ↔ _ := walk_eq_ok_iff
  rw [← walks, startOf, components]
  simp only [List.contains_eq_mem, nul, decide_false, Bool.false_eq_true, ↓reduceIte, String.isEmpty_iff,
    void, long, not_false_eq_true, ne_eq, fits, true_and]
  split
  · next walked => simp [walked]
  · next walked => simp [walked]

theorem locate_keeps {path : String} (located : tree.locate path = .ok place)
    (keeps : Keeps tree grown) : grown.locate path = .ok place := by
  obtain ⟨noNul, some, fits, leads⟩ := locate_eq_ok_iff.mp located
  exact locate_eq_ok_iff.mpr ⟨noNul, some, fits, leads.keeps keeps⟩

/-! ## Directories that stay -/

def SameDirectories (tree grown : FileTree) : Prop :=
  ∀ place, grown.node? place = some .directory ↔ tree.node? place = some .directory

theorem SameDirectories.refl (tree : FileTree) : SameDirectories tree tree := fun _ => .rfl

theorem SameDirectories.trans {middle : FileTree} (one : SameDirectories tree middle)
    (other : SameDirectories middle grown) : SameDirectories tree grown :=
  fun place => (other place).trans (one place)

theorem SameDirectories.keeps (same : SameDirectories tree grown) : Keeps tree grown :=
  fun place => (same place).mpr

/-- Where paths lead depends on the directories alone. -/
theorem SameDirectories.locate {path : String} (same : SameDirectories tree grown) :
    grown.locate path = .ok place ↔ tree.locate path = .ok place :=
  ⟨fun located => locate_keeps located fun other => (same other).mp,
    fun located => locate_keeps located same.keeps⟩

theorem Wrote.sameDirectories {content : Bytes} (wrote : Wrote tree place content grown) :
    SameDirectories tree grown := by
  obtain ⟨executable, node?⟩ := wrote.node?
  intro other
  rw [node?]
  split
  · next same =>
      subst same
      exact iff_of_false nofun wrote.noDirectory
  · rfl

/-! ## Names in a folder -/

/-- A text that makes a path with a name behind it. -/
def IsFolder (folder : String) : Prop := folder = "" ∨ ∃ text, folder.toList = text ++ ['/']

/-- A name that is one component and leads one step down. -/
structure IsEntry (name : String) : Prop where
  noSeparator : '/' ∉ name.toList
  notEmpty : name ≠ ""
  notSelf : name ≠ "."
  notUp : name ≠ ".."

theorem IsEntry.of_long {name : String} (noSeparator : '/' ∉ name.toList)
    (long : 2 < name.toList.length) : IsEntry name where
  noSeparator := noSeparator
  notEmpty := by rintro rfl; simp at long
  notSelf := by rintro rfl; simp at long
  notUp := by rintro rfl; simp at long

/-- What a walk goes through on the way to a folder. -/
def folderParts (folder : String) : List String :=
  (Text.splitAt '/' folder.toList).dropLast.map String.ofList

theorem rootOf_eq_relative_iff (text : List Char) :
    Path.rootOf text = .relative ↔ text.head? ≠ some '/' := by
  cases text with
  | nil => simp [Path.rootOf]
  | cons c rest =>
      by_cases slash : c = '/'
      · subst slash
        unfold Path.rootOf
        split <;> simp_all
      · simp [Path.rootOf, slash]

theorem startOf_append {folder name : String} (isFolder : IsFolder folder) (isEntry : IsEntry name) :
    startOf (folder ++ name).toList = startOf folder.toList := by
  have same : Path.rootOf (folder ++ name).toList = .relative ↔ Path.rootOf folder.toList = .relative := by
    rw [rootOf_eq_relative_iff, rootOf_eq_relative_iff, String.toList_append]
    rcases isFolder with rfl | ⟨text, ends⟩
    · have start : name.toList.head? ≠ some '/' := fun slash =>
        isEntry.noSeparator (List.mem_of_head? slash)
      simp [start]
    · rw [ends]
      cases text <;> simp
  simp only [startOf, same]

theorem components_append {folder name : String} (isFolder : IsFolder folder) (isEntry : IsEntry name) :
    components (folder ++ name).toList = folderParts folder ++ [name] := by
  have alone := Text.splitAt_of_not_mem isEntry.noSeparator
  rw [components, folderParts, String.toList_append]
  rcases isFolder with rfl | ⟨text, ends⟩
  · simp [alone, Text.splitAt]
  · rw [ends, Text.splitAt_append_sep, List.append_assoc, List.singleton_append, Text.splitAt_append_sep,
      alone]
    simp [Text.splitAt]

theorem next?_entry {name : String} (isEntry : IsEntry name) (place : Location) :
    next? place name = if name.utf8ByteSize > longestName then none else some (place.down name) := by
  rw [next?, if_neg (not_or.mpr ⟨isEntry.notEmpty, isEntry.notSelf⟩), if_neg isEntry.notUp]

/-- A path of a name in a folder leads one step down from where the folder leads. -/
theorem locate_append {folder name : String} (isFolder : IsFolder folder) (isEntry : IsEntry name)
    (located : tree.locate (folder ++ name) = .ok place) :
    ∃ dir, Leads tree (startOf folder.toList) (folderParts folder) dir ∧
      tree.node? dir = some .directory ∧ place = dir.down name := by
  obtain ⟨_, _, _, leads⟩ := locate_eq_ok_iff.mp located
  rw [startOf_append isFolder isEntry, components_append isFolder isEntry] at leads
  obtain ⟨dir, folderLeads, step⟩ := leads_append_iff.mp leads
  cases step with
  | step directory goes others =>
      rw [next?_entry isEntry] at goes
      split at goes
      · cases goes
      · cases goes
        cases others
        exact ⟨dir, folderLeads, directory, rfl⟩

theorem locate_append_ne {folder one other : String} {first second : Location}
    (isFolder : IsFolder folder) (isOne : IsEntry one) (isOther : IsEntry other) (differ : one ≠ other)
    (locatedOne : tree.locate (folder ++ one) = .ok first)
    (locatedOther : tree.locate (folder ++ other) = .ok second) : first ≠ second := by
  obtain ⟨dir, leadsOne, _, rfl⟩ := locate_append isFolder isOne locatedOne
  obtain ⟨same, leadsOther, _, rfl⟩ := locate_append isFolder isOther locatedOther
  cases leadsOne.unique leadsOther
  intro meet
  exact differ (List.cons.inj (congrArg Location.names meet)).1

end FileTree

/-! ## Entries of a directory -/

namespace Path

open FileTree

/-- A directory as the front part of the paths below it. -/
def folder (dir : Path) : String :=
  dir.root.text ++ if dir.parts = [] then "" else "/".intercalate dir.parts ++ "/"

theorem isFolder_folder (dir : Path) : IsFolder dir.folder := by
  unfold folder IsFolder
  by_cases bare : dir.parts = []
  · rw [if_pos bare, String.append_empty]
    cases dir.root
    · exact .inl rfl
    · exact .inr ⟨[], rfl⟩
    · exact .inr ⟨['/'], rfl⟩
  · rw [if_neg bare]
    refine .inr ⟨dir.root.text.toList ++ ("/".intercalate dir.parts).toList, ?_⟩
    rw [String.toList_append, String.toList_append, List.append_assoc]
    rfl

def entry (dir : Path) (name : String) : Path := ⟨dir.root, dir.parts ++ [name]⟩

@[simp] theorem name_entry (dir : Path) (name : String) : (dir.entry name).name = name := by
  simp [entry, Path.name]

@[simp] theorem withName_entry (dir : Path) (name other : String) :
    (dir.entry name).withName other = dir.entry other := by
  simp [entry, withName]

@[simp] theorem parent_entry (dir : Path) (name : String) : (dir.entry name).parent = dir := by
  simp [entry, parent]

theorem entry_injective (dir : Path) : Function.Injective dir.entry := by
  intro one other same
  simpa [entry] using same

theorem toString_entry (dir : Path) (name : String) :
    (dir.entry name).toString = dir.folder ++ name := by
  have some : dir.parts ++ [name] ≠ [] := by simp
  rw [toString, entry, if_neg fun bare => some bare.2, folder]
  by_cases bare : dir.parts = []
  · rw [if_pos bare, bare]
    simp
  · rw [if_neg bare, String.intercalate_append_of_ne_nil bare (List.cons_ne_nil _ _),
      String.intercalate_singleton]
    simp only [String.append_assoc]

theorem below_entry (dir : Path) {name : String} (isEntry : IsEntry name) :
    dir.below name = dir.entry name := by
  have relative : rootOf name.toList = .relative :=
    (rootOf_eq_relative_iff _).mpr fun slash => isEntry.noSeparator (List.mem_of_head? slash)
  have parts : partsOf name.toList = [name] := by
    rw [partsOf, Text.splitAt_of_not_mem isEntry.noSeparator]
    simp [isEntry.notEmpty, isEntry.notSelf]
  rw [below, join, ofString, relative, if_pos rfl, parts, entry]

end Path

end ShaderBuild
