import Mathlib.Data.List.Chain
import Mathlib.Logic.Relation
import ShaderBuild.Proofs.Manifest.Caching
import ShaderBuild.Proofs.Manifest.Demand

/-! # Which payloads can be expanded

A payload asks for variables, and the values of these ask for others. It can be expanded exactly if
all of them are there, none leads back to itself, and what is spliced into a text has a form there.
Nothing else matters: not what is asked for by variables that the payload does not come to, and not
the order.
-/

namespace ShaderBuild.Manifest

/-- A value that has a form inside a text. -/
def Spliceable (value : Value) : Prop :=
  isScalar value ∨ ∃ items, value = .list items ∧ ∀ item ∈ items, isScalar item

theorem splice?_isSome {value : Value} : (splice? value).isSome ↔ Spliceable value := by
  cases value <;> simp [splice?, Spliceable, isScalar]

theorem splice_ok_iff {name : String} {path : KeyPath} {value : Value} :
    (∃ text, splice name path value = .ok text) ↔ Spliceable value ∧ ¬ value.isUnwritable := by
  rw [← splice?_isSome]
  unfold splice
  cases splice? value <;> by_cases long : value.isUnwritable <;> simp [long]

/-- The variable whose placeholder has a problem. -/
def VariableProblem.name? : VariableProblem → Option String
  | .cycle chain => chain.getLast?
  | .unknown name _ | .unspliceable name _ => some name

namespace Variables

variable {vars : Variables} {payload value : Value} {name other : String} {stack : List String}

def demandsOf (vars : Variables) (name : String) : List Demand :=
  match vars.named.lookup name with
  | some value => Demand.ofValue [.name "vars", .name name] value
  | none => []

/-- What a payload asks for, itself or by the variables that it comes to. -/
inductive Asked (vars : Variables) (payload : Value) : Demand → Prop
  | here {demand} (member : demand ∈ Demand.ofValue [] payload) : Asked vars payload demand
  | through {earlier demand : Demand} {name} (asked : Asked vars payload earlier)
      (names : earlier.name? = some name) (member : demand ∈ vars.demandsOf name) :
      Asked vars payload demand

/-- The value of a variable has a placeholder for another one in it. -/
def RefersTo (vars : Variables) (name other : String) : Prop :=
  ∃ demand ∈ vars.demandsOf name, demand.name? = some other

/-- The value of a variable with all placeholders replaced, if that is possible. -/
def expanded? (vars : Variables) (name : String) : Option Value :=
  (vars.freshValue [] wholeSteps none name []).toOption

/-- All variables that a payload comes to are there, none leads back to itself, and those that are
    spliced into a text have a form there. -/
structure Resolvable (vars : Variables) (payload : Value) : Prop where
  defined : ∀ demand name, vars.Asked payload demand → demand.name? = some name →
    ∃ value, vars.named.lookup name = some value
  acyclic : ∀ demand name, vars.Asked payload demand → demand.name? = some name →
    ¬ Relation.TransGen vars.RefersTo name name
  spliceable : ∀ name path, vars.Asked payload (.spliced name path) →
    ∃ value, vars.expanded? name = some value ∧ Spliceable value

/-- No integer that is to become text, in a key or in a longer text, has too many digits. -/
structure Writable (vars : Variables) (payload : Value) : Prop where
  keys : ∀ key, vars.Asked payload (.written key) → ¬ key.isUnwritable
  values : ∀ name path value, vars.Asked payload (.spliced name path) →
    vars.expanded? name = some value → ¬ value.isUnwritable

/-- What a problem with a placeholder says of the variables is so. -/
def Holds (vars : Variables) : VariableProblem → Prop
  | .cycle chain => List.IsChain vars.RefersTo chain ∧ chain.head? = chain.getLast? ∧ 1 < chain.length
  | .unknown name known => vars.named.lookup name = none ∧ vars.listed? = some known
  | .unspliceable name kind =>
    ∃ value, vars.expanded? name = some value ∧ ¬ Spliceable value ∧ value.kind = kind

/-- Why a payload cannot be expanded. -/
inductive Failure (vars : Variables) (payload : Value) : ExpansionFault → Prop
  /-- There is a problem with a placeholder, and the path is that of the text it stands in. -/
  | placeholder {demand name path problem} (asked : vars.Asked payload demand)
      (place : demand = .whole name path ∨ demand = .spliced name path)
      (named : problem.name? = some name) (holds : vars.Holds problem) :
      Failure vars payload (.variable ⟨path, problem⟩)
  | unlisted {demand name} (asked : vars.Asked payload demand) (names : demand.name? = some name)
      (missing : vars.named.lookup name = none) (mixed : vars.listed? = none) :
      Failure vars payload .unlisted
  | unwritable (long : ¬ vars.Writable payload) : Failure vars payload .unwritable
  | endless (asked : vars.Asked payload .endless) : Failure vars payload .tooDeep

/-- A variable comes to a value while others are being expanded, wherever it is asked for. -/
def Yields (vars : Variables) (stack : List String) (name : String) (value : Value) : Prop :=
  ∀ steps path, vars.freshValue stack steps none name path = .ok value

/-- Whatever can be done in the first way comes to the same in the second. -/
def refinement : Simulation (Except ExpansionFault) (Except ExpansionFault) where
  rel x y := ∀ a, x = .ok a → y = .ok a
  rooms left right := left = none ∧ right = none
  pure _ _ same := same
  throw _ := nofun
  bind := by
    intro _ _ x y f g first rest b ended
    obtain ⟨a, before, after⟩ := Outcome.bind_eq_ok.mp ended
    exact Outcome.bind_eq_ok.mpr ⟨a, first a before, rest a b after⟩
  deeper := by
    rintro _ steps _ _ f g ⟨rfl, rfl⟩ rest b ended
    exact rest none none ⟨rfl, rfl⟩ b ended

/-- With fewer names being expanded a variable comes to the same. -/
theorem yields_of_ok {stack fewer : List String} {steps : Nat} {name : String} {path : KeyPath}
    {value : Value} (within : ∀ name ∈ fewer, name ∈ stack)
    (ended : vars.freshValue stack steps none name path = .ok value) :
    vars.Yields fewer name value := by
  intro steps' path'
  obtain ⟨new, source, found, inside⟩ := freshValue_eq_ok_iff.mp ended
  -- the names that are not being expanded get fewer
  have less := unused_append_lt found new
  have stillWithin : ∀ inner ∈ fewer ++ [name], inner ∈ stack ++ [name] := by
    intro inner there
    rcases List.mem_append.mp there with old | last
    · exact List.mem_append_left _ (within inner old)
    · exact List.mem_append_right _ last
  have lookups : refinement.Lookups (vars.freshValue (stack ++ [name]))
      (vars.freshValue (fewer ++ [name])) := by
    rintro steps _ _ inner path ⟨rfl, rfl⟩ a ended
    exact yields_of_ok stillWithin ended steps path
  have same := Simulation.expand lookups ⟨rfl, rfl⟩ [.name "vars", .name name] source value inside
  exact freshValue_eq_ok_iff.mpr ⟨fun there => new (within name there), source, found, same⟩
termination_by (vars.unused stack).length

theorem yields_here {steps : Nat} {path : KeyPath}
    (ended : vars.freshValue stack steps none name path = .ok value) : vars.Yields stack name value :=
  yields_of_ok (fun _ there => there) ended

theorem Yields.anew (yields : vars.Yields stack name value) : vars.Yields [] name value :=
  yields_of_ok (fun _ => nofun) (yields 0 [])

theorem Yields.expanded? (yields : vars.Yields stack name value) :
    vars.expanded? name = some value := by
  rw [Variables.expanded?, yields.anew wholeSteps []]
  rfl

theorem demandsOf_of_found (found : vars.named.lookup name = some value) :
    vars.demandsOf name = Demand.ofValue [.name "vars", .name name] value := by
  rw [demandsOf, found]

/-- A variable comes to a value exactly if it is there, is not being expanded, and its demands are
    met while it is being expanded as well. -/
theorem yields_iff : (∃ value, vars.Yields stack name value) ↔
    name ∉ stack ∧ (∃ source, vars.named.lookup name = some source) ∧
      ∀ demand ∈ vars.demandsOf name, demand.check (vars.freshValue (stack ++ [name])) = .ok () := by
  constructor
  · rintro ⟨value, yields⟩
    obtain ⟨new, source, found, inside⟩ := freshValue_eq_ok_iff.mp (yields 0 [])
    rw [demandsOf_of_found found]
    exact ⟨new, ⟨source, found⟩, expand_ok_iff.mp ⟨value, inside⟩⟩
  · rintro ⟨new, ⟨source, found⟩, met⟩
    rw [demandsOf_of_found found] at met
    obtain ⟨value, inside⟩ := expand_ok_iff.mpr met
    exact ⟨value, fun _ _ => freshValue_eq_ok_iff.mpr ⟨new, source, found, inside⟩⟩

theorem yields_of_check {demand : Demand} (met : demand.check (vars.freshValue stack) = .ok ())
    (names : demand.name? = some name) : ∃ value, vars.Yields stack name value := by
  cases demand with
  | written | endless => cases names
  | whole _ path =>
      cases names
      obtain ⟨value, ended⟩ := Outcome.done_eq_ok.mp met
      exact ⟨value, yields_here ended⟩
  | spliced _ path =>
      cases names
      obtain ⟨value, ended, -⟩ := Outcome.bind_eq_ok.mp met
      exact ⟨value, yields_here ended⟩

theorem check_spliced_iff {path : KeyPath} :
    (Demand.spliced name path).check (vars.freshValue stack) = .ok () ↔
      ∃ value, vars.Yields stack name value ∧ Spliceable value ∧ ¬ value.isUnwritable := by
  simp only [Demand.check, Outcome.bind_eq_ok, Outcome.done_eq_ok, splice_ok_iff]
  exact exists_congr fun value => and_congr_left fun _ =>
    ⟨fun ended => yields_here ended, fun yields => yields _ _⟩

/-- A demand that is met is met as well when fewer names are being expanded. -/
theorem check_anew {demand : Demand} (met : demand.check (vars.freshValue stack) = .ok ()) :
    demand.check (vars.freshValue []) = .ok () := by
  cases demand with
  | written | endless => exact met
  | whole name path =>
      obtain ⟨value, yields⟩ := yields_of_check met rfl
      exact Outcome.done_eq_ok.mpr ⟨value, yields.anew _ _⟩
  | spliced name path =>
      obtain ⟨value, yields, form⟩ := check_spliced_iff.mp met
      exact check_spliced_iff.mpr ⟨value, yields.anew, form⟩

/-- If a payload can be expanded then every demand is met that it comes to. -/
theorem check_of_asked {demand : Demand} (ended : vars.fresh payload = .ok value)
    (asked : vars.Asked payload demand) : demand.check (vars.freshValue []) = .ok () := by
  induction asked with
  | here member => exact expand_ok_iff.mp ⟨value, ended⟩ _ member
  | through _ names member met =>
      obtain ⟨_, _, below⟩ := yields_iff.mp (yields_of_check met names)
      exact check_anew (below _ member)

/-- All that a variable leads to is expanded while the variable is. -/
theorem yields_of_transGen (leads : Relation.TransGen vars.RefersTo name other)
    (yields : ∃ value, vars.Yields stack name value) :
    ∃ inner, name ∈ inner ∧ ∃ value, vars.Yields inner other value := by
  induction leads with
  | single step =>
      obtain ⟨demand, member, names⟩ := step
      obtain ⟨-, -, met⟩ := yields_iff.mp yields
      exact ⟨stack ++ [name], by simp, yields_of_check (met demand member) names⟩
  | tail _ step ih =>
      obtain ⟨inner, there, yields⟩ := ih
      obtain ⟨demand, member, names⟩ := step
      obtain ⟨-, -, met⟩ := yields_iff.mp yields
      exact ⟨_, List.mem_append_left _ there, yields_of_check (met demand member) names⟩

theorem resolvable_of_ok (ended : vars.fresh payload = .ok value) : vars.Resolvable payload where
  defined demand name asked names :=
    (yields_iff.mp (yields_of_check (check_of_asked ended asked) names)).2.1
  acyclic demand name asked names circle := by
    obtain ⟨inner, there, yields⟩ :=
      yields_of_transGen circle (yields_of_check (check_of_asked ended asked) names)
    exact (yields_iff.mp yields).1 there
  spliceable name path asked := by
    obtain ⟨value, yields, form, -⟩ := check_spliced_iff.mp (check_of_asked ended asked)
    exact ⟨value, yields.expanded?, form⟩

theorem writable_of_ok (ended : vars.fresh payload = .ok value) : vars.Writable payload where
  keys key asked long := by
    have met := check_of_asked ended asked
    rw [Demand.check, if_pos long] at met
    cases met
  values name path value asked expanded := by
    obtain ⟨spliced, yields, -, short⟩ := check_spliced_iff.mp (check_of_asked ended asked)
    rw [yields.expanded?, Option.some.injEq] at expanded
    exact expanded ▸ short

section

variable (resolvable : vars.Resolvable payload) (writable : vars.Writable payload)
  (finite : ¬ vars.Asked payload .endless)

include resolvable writable finite in
/-- A demand is met if its variable comes to a value; what else it needs is there. -/
theorem check_of_yields {demand : Demand} (asked : vars.Asked payload demand)
    (yields : ∀ name, demand.name? = some name → ∃ value, vars.Yields stack name value) :
    demand.check (vars.freshValue stack) = .ok () := by
  cases demand with
  | written key => exact if_neg (writable.keys key asked)
  | endless => exact (finite asked).elim
  | whole name path =>
      obtain ⟨value, yields⟩ := yields name rfl
      exact Outcome.done_eq_ok.mpr ⟨value, yields _ _⟩
  | spliced name path =>
      obtain ⟨value, yields⟩ := yields name rfl
      obtain ⟨other, expanded, form⟩ := resolvable.spliceable name path asked
      have same : value = other := by simpa [yields.expanded?] using expanded
      have short := writable.values name path value asked yields.expanded?
      exact check_spliced_iff.mpr ⟨value, yields, same ▸ form, short⟩

include resolvable writable finite in
/-- All that a payload comes to can be expanded, as long as only what leads to it is being
    expanded. -/
theorem yields_of_resolvable {stack : List String} {demand : Demand} {name : String}
    (asked : vars.Asked payload demand) (names : demand.name? = some name)
    (leads : ∀ earlier ∈ stack, Relation.TransGen vars.RefersTo earlier name) :
    ∃ value, vars.Yields stack name value := by
  have new : name ∉ stack :=
    fun there => resolvable.acyclic demand name asked names (leads name there)
  obtain ⟨source, found⟩ := resolvable.defined demand name asked names
  -- the variable itself leads to all that its value asks for, so the same holds one step further down
  have less := unused_append_lt found new
  refine yields_iff.mpr ⟨new, ⟨source, found⟩, fun inner member => ?_⟩
  have below : vars.Asked payload inner := .through asked names member
  refine check_of_yields resolvable writable finite below fun next nextNames => ?_
  have step : vars.RefersTo name next := ⟨inner, member, nextNames⟩
  refine yields_of_resolvable below nextNames fun earlier there => ?_
  rcases List.mem_append.mp there with old | last
  · exact (leads earlier old).tail step
  · exact List.mem_singleton.mp last ▸ .single step
termination_by (vars.unused stack).length

end

/-- A payload that does not hold itself can be expanded if all that it comes to is in order. -/
theorem ok_of_resolvable (resolvable : vars.Resolvable payload) (writable : vars.Writable payload)
    (finite : ¬ vars.Asked payload .endless) : ∃ value, vars.fresh payload = .ok value := by
  refine expand_ok_iff.mpr fun demand member => ?_
  refine check_of_yields resolvable writable finite (.here member) fun name names => ?_
  exact yields_of_resolvable resolvable writable finite (.here member) names (fun _ => nofun)

theorem splice_error {path : KeyPath} {fault : ExpansionFault}
    (failed : splice name path value = .error fault) :
    (fault = .variable ⟨path, .unspliceable name value.kind⟩ ∧ ¬ Spliceable value) ∨
      (fault = .unwritable ∧ value.isUnwritable) := by
  rw [← splice?_isSome]
  unfold splice at failed
  split at failed
  · split at failed
    · next long =>
        cases failed
        exact .inr ⟨rfl, long⟩
    · cases failed
  · next formless =>
      cases failed
      exact .inl ⟨rfl, by simp [formless]⟩

/-- A lookup fails by itself, or because of a demand of the variable's value. -/
theorem freshValue_error {steps : Nat} {path : KeyPath} {fault : ExpansionFault}
    (failed : vars.freshValue stack steps none name path = .error fault) :
    (name ∈ stack ∧ fault = .variable ⟨path, .cycle (circle stack name)⟩) ∨
      (vars.named.lookup name = none ∧ fault = vars.unknown name path) ∨
      (name ∉ stack ∧ (∃ source, vars.named.lookup name = some source) ∧
        ∃ demand ∈ vars.demandsOf name,
          demand.check (vars.freshValue (stack ++ [name])) = .error fault) := by
  by_cases member : name ∈ stack
  · rw [freshValue_of_mem member] at failed
    cases failed
    exact .inl ⟨member, rfl⟩
  · cases found : vars.named.lookup name with
    | none =>
        rw [freshValue_of_unknown member found] at failed
        cases failed
        exact .inr (.inl ⟨rfl, rfl⟩)
    | some source =>
        rw [freshValue_of_found member found] at failed
        rw [demandsOf_of_found found]
        exact .inr (.inr ⟨member, ⟨source, rfl⟩, expand_error failed⟩)

/-- Where each of the names being expanded asks for the next one, and the last of them for the one that
    comes up again, the circle that is reported is one. -/
theorem holds_circle (member : name ∈ stack) (chain : List.IsChain vars.RefersTo (stack ++ [name])) :
    vars.Holds (.cycle (circle stack name)) := by
  obtain ⟨before, after, rfl, new⟩ := List.eq_append_cons_of_mem member
  have other : ∀ earlier ∈ before, decide (earlier ≠ name) = true :=
    fun earlier there => decide_eq_true (ne_of_mem_of_not_mem there new)
  have closed : circle (before ++ name :: after) name = name :: after ++ [name] := by
    rw [circle, List.dropWhile_append_of_pos other]
    simp
  rw [List.append_assoc] at chain
  rw [closed]
  exact ⟨chain.right_of_append, List.getLast?_concat.symm, by simp⟩

/-- What is reported of a demand that is not met is so, as long as each of the names being expanded asks
    for the next one. -/
theorem failure_of_check {stack : List String} {demand : Demand} {fault : ExpansionFault}
    (asked : vars.Asked payload demand)
    (chain : ∀ name, demand.name? = some name → List.IsChain vars.RefersTo (stack ++ [name]))
    (stopped : demand.check (vars.freshValue stack) = .error fault) : vars.Failure payload fault := by
  have below : ∀ {name steps path}, demand = .whole name path ∨ demand = .spliced name path →
      vars.freshValue stack steps none name path = .error fault → vars.Failure payload fault := by
    intro name steps path place failed
    have names : demand.name? = some name := by rcases place with rfl | rfl <;> rfl
    rcases freshValue_error failed with
      ⟨member, rfl⟩ | ⟨missing, rfl⟩ | ⟨new, ⟨source, found⟩, inner, member, stopped⟩
    · exact .placeholder asked place List.getLast?_concat (holds_circle member (chain name names))
    · cases known : vars.listed? with
      | none =>
          rw [unknown, known]
          exact .unlisted asked names missing known
      | some known' =>
          rw [unknown, known]
          exact .placeholder asked place rfl ⟨missing, known⟩
    · have less := unused_append_lt found new
      have chain : ∀ next, inner.name? = some next →
          List.IsChain vars.RefersTo (stack ++ [name] ++ [next]) := by
        intro next nextNames
        have step : vars.RefersTo name next := ⟨inner, member, nextNames⟩
        exact (chain name names).append (.singleton next) (by simpa using step)
      exact failure_of_check (.through asked names member) chain stopped
  cases Demand.refused_of_check stopped with
  | unwritable long is =>
      subst is
      exact .unwritable fun writable => writable.keys _ asked long
  | endless is =>
      subst is
      exact .endless asked
  | whole failed => exact below (.inl rfl) failed
  | spliced failed => exact below (.inr rfl) failed
  | formless found failed =>
      have expanded := (yields_here found).expanded?
      rcases splice_error failed with ⟨rfl, formless⟩ | ⟨rfl, long⟩
      · exact .placeholder asked (.inr rfl) rfl ⟨_, expanded, formless, rfl⟩
      · exact .unwritable fun writable => writable.values _ _ _ asked expanded long
termination_by (vars.unused stack).length

theorem failure_of_error {fault : ExpansionFault} (stopped : vars.fresh payload = .error fault) :
    vars.Failure payload fault := by
  obtain ⟨demand, member, failed⟩ := expand_error stopped
  exact failure_of_check (.here member) (fun name _ => .singleton name) failed

/-- Whatever was expanded before, a payload that does not hold itself can be expanded exactly if all
    that it comes to is in order and can be written. Otherwise a placeholder is at fault, unless an
    integer that is to become text has too many digits. -/
theorem outcomeAfter_ok_iff (vars : Variables) (payload : Value) (texts : vars.listed?.isSome)
    (finite : ¬ vars.Asked payload .endless) (earlier : List (Room × Value)) :
    ((∃ value, vars.outcomeAfter earlier none payload = .ok value) ↔
      vars.Resolvable payload ∧ vars.Writable payload) ∧
    ∀ fault, vars.outcomeAfter earlier none payload = .error fault →
      (∃ e, fault = .variable e) ∨ fault = .unwritable ∧ ¬ vars.Writable payload := by
  rw [outcomeAfter_unbounded]
  refine ⟨⟨?_, ?_⟩, fun fault stopped => ?_⟩
  · rintro ⟨value, ended⟩
    exact ⟨resolvable_of_ok ended, writable_of_ok ended⟩
  · rintro ⟨resolvable, writable⟩
    exact ok_of_resolvable resolvable writable finite
  · cases failure_of_error stopped with
    | placeholder => exact .inl ⟨_, rfl⟩
    | unlisted _ _ _ mixed => simp [mixed] at texts
    | unwritable long => exact .inr ⟨rfl, long⟩
    | endless asked => exact (finite asked).elim

theorem not_asked_endless (here : .endless ∉ Demand.ofValue [] payload)
    (below : ∀ entry ∈ vars.named, .endless ∉ Demand.ofValue [.name "vars", .name entry.1] entry.2) :
    ¬ vars.Asked payload .endless := by
  intro asked
  cases asked with
  | here member => exact here member
  | @through _ _ name _ _ member =>
      cases found : vars.named.lookup name with
      | none => simp [demandsOf, found] at member
      | some value =>
          obtain ⟨before, after, split, -⟩ := List.lookup_eq_some_iff.mp found
          rw [demandsOf_of_found found] at member
          exact below (name, value) (by simp [split]) member

/-- Variables of which the second leads back to itself. -/
def circling : Variables := ⟨[(.str "a", .str "x"), (.str "loop", .str "${loop}")]⟩

/-- A circle that a payload does not come to is no obstacle. -/
theorem resolvable_beside_circle :
    circling.listed?.isSome ∧ ¬ circling.Asked (.str "${a}-") .endless ∧
      circling.Resolvable (.str "${a}-") ∧ circling.Writable (.str "${a}-") := by
  have texts : circling.listed?.isSome := rfl
  have finite : ¬ circling.Asked (.str "${a}-") .endless := by
    have here : Demand.ofValue [] (.str "${a}-") = [.spliced "a" []] := rfl
    have plain : Demand.ofValue [.name "vars", .name "a"] (.str "x") = [] := rfl
    have loop : Demand.ofValue [.name "vars", .name "loop"] (.str "${loop}") =
        [.whole "loop" [.name "vars", .name "loop"]] := rfl
    refine not_asked_endless (by simp [here]) fun entry member => ?_
    have cases : entry = ("a", .str "x") ∨ entry = ("loop", .str "${loop}") := by
      simpa [circling, named] using member
    rcases cases with rfl | rfl
    · simp [plain]
    · simp [loop]
  have yields : circling.Yields [] "a" (.str "x") := fun _ _ =>
    freshValue_eq_ok_iff.mpr ⟨List.not_mem_nil, .str "x", rfl, rfl⟩
  have ended : ∃ value, circling.outcomeAfter [] none (.str "${a}-") = .ok value := by
    rw [outcomeAfter_unbounded]
    refine expand_ok_iff.mpr fun demand member => ?_
    obtain rfl : demand = .spliced "a" [] := List.mem_singleton.mp member
    exact check_spliced_iff.mpr ⟨.str "x", yields, .inl rfl, nofun⟩
  exact ⟨texts, finite, (outcomeAfter_ok_iff circling _ texts finite []).1.mp ended⟩

def longKey : Value := .map [(.int (Nat.pow 10 Decimal.longestInteger), .null)]

/-- A key with too many digits stops a payload that comes to no variable at all. -/
theorem unwritable_of_long_key :
    (⟨[]⟩ : Variables).listed?.isSome ∧ ¬ (⟨[]⟩ : Variables).Asked longKey .endless ∧
      (⟨[]⟩ : Variables).Resolvable longKey ∧
      (⟨[]⟩ : Variables).outcomeAfter [] none longKey = .error .unwritable := by
  have only : ∀ demand, (⟨[]⟩ : Variables).Asked longKey demand →
      demand = .written (.int (Nat.pow 10 Decimal.longestInteger)) := by
    intro demand asked
    cases asked with
    | here member => exact List.mem_singleton.mp member
    | through _ _ member => exact (List.not_mem_nil member).elim
  have nameless : ∀ demand name, (⟨[]⟩ : Variables).Asked longKey demand →
      demand.name? ≠ some name := by
    intro demand name asked names
    rw [only demand asked] at names
    cases names
  refine ⟨rfl, ?_, ⟨?_, ?_, ?_⟩, ?_⟩
  · intro asked
    cases only _ asked
  · exact fun demand name asked names => (nameless demand name asked names).elim
  · exact fun demand name asked names => (nameless demand name asked names).elim
  · exact fun name path asked => (nameless _ name asked rfl).elim
  · have long : (Value.int (Nat.pow 10 Decimal.longestInteger)).isUnwritable = true := by
      rw [Value.isUnwritable, Decimal.isUnwritable, Int.natAbs_natCast]
      exact decide_eq_true (Nat.le_refl _)
    rw [outcomeAfter_unbounded, fresh, longKey, expand, expandEntries, if_pos long]
    rfl

end Variables

end ShaderBuild.Manifest
