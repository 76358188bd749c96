import ShaderBuild.Manifest.Variables

/-! # Comparing expansions

Expanding a value does nothing but look up names, go on with what comes of it and fail. A relation
between computations of two kinds that survives these steps, and that holds between two ways of
looking names up, therefore holds between the two expansions of every value.
-/

namespace ShaderBuild.Manifest

/-- A relation between computations that survives the steps of an expansion. The two sides may have
    different room to go down. -/
structure Simulation (m n : Type → Type) [Monad m] [Monad n] [MonadExceptOf ExpansionFault m]
    [MonadExceptOf ExpansionFault n] where
  rel : {α : Type} → m α → n α → Prop
  rooms : Room → Room → Prop
  pure : ∀ {α : Type} (a : α), rel (pure a) (pure a)
  throw : ∀ {α : Type} (fault : ExpansionFault), rel (throw fault : m α) (throw fault : n α)
  bind : ∀ {α β : Type} {x : m α} {y : n α} {f : α → m β} {g : α → n β},
    rel x y → (∀ a, rel (f a) (g a)) → rel (x >>= f) (y >>= g)
  deeper : ∀ {α : Type} (steps : Nat) {left right : Room} {f : Room → m α} {g : Room → n α},
    rooms left right → (∀ left right, rooms left right → rel (f left) (g right)) →
      rel (deeper steps left >>= f) (deeper steps right >>= g)

namespace Simulation

variable {m n : Type → Type} [Monad m] [Monad n] [MonadExceptOf ExpansionFault m]
  [MonadExceptOf ExpansionFault n] (S : Simulation m n)

/-- Two ways of looking names up that are related wherever the rooms are. -/
def Lookups (lookup : Lookup m) (lookup' : Lookup n) : Prop :=
  ∀ steps left right name path, S.rooms left right →
    S.rel (lookup steps left name path) (lookup' steps right name path)

variable {S} {lookup : Lookup m} {lookup' : Lookup n}

theorem expandPiece (h : S.Lookups lookup lookup') {left right} (rooms : S.rooms left right)
    (path : KeyPath) (piece : Piece) :
    S.rel (Manifest.expandPiece lookup left path piece)
      (Manifest.expandPiece lookup' right path piece) := by
  match piece with
  | .char _ | .escaped _ => exact S.pure _
  | .variable name =>
      refine S.bind (h _ _ _ _ _ rooms) fun value => ?_
      cases splice name path value with
      | ok text => exact S.pure text
      | error fault => exact S.throw fault

theorem mapM [LawfulMonad m] [LawfulMonad n] {α β : Type} {f : α → m β} {g : α → n β}
    (h : ∀ a, S.rel (f a) (g a)) (items : List α) : S.rel (items.mapM f) (items.mapM g) := by
  induction items with
  | nil => simpa using S.pure []
  | cons item items ih =>
      rw [List.mapM_cons, List.mapM_cons]
      exact S.bind (h item) fun first => S.bind ih fun others => S.pure (first :: others)

theorem expandText [LawfulMonad m] [LawfulMonad n] (h : S.Lookups lookup lookup') {left right}
    (rooms : S.rooms left right) (path : KeyPath) (text : String) :
    S.rel (Manifest.expandText lookup left path text)
      (Manifest.expandText lookup' right path text) := by
  unfold Manifest.expandText
  split
  · exact h _ _ _ _ _ rooms
  · exact S.bind (mapM (expandPiece h rooms path) _) fun texts => S.pure _

mutual

/-- Related lookups make related expansions. -/
theorem expand [LawfulMonad m] [LawfulMonad n] (h : S.Lookups lookup lookup') {left right}
    (rooms : S.rooms left right) (path : KeyPath) (value : Value) :
    S.rel (Manifest.expand lookup left path value) (Manifest.expand lookup' right path value) := by
  cases value with
  | map entries =>
      exact S.bind (expandEntries h rooms path entries) fun expanded => S.pure (Value.map expanded)
  | list items =>
      exact S.bind (expandItems h rooms path 0 items) fun expanded => S.pure (Value.list expanded)
  | str text => exact expandText h rooms path text
  | again => exact S.throw .tooDeep
  | null | bool | int | float | bytes | date | moment | set | tuple => exact S.pure _
termination_by sizeOf value

theorem expandEntries [LawfulMonad m] [LawfulMonad n] (h : S.Lookups lookup lookup') {left right}
    (rooms : S.rooms left right) (path : KeyPath) (entries : List (Value × Value)) :
    S.rel (Manifest.expandEntries lookup left path entries)
      (Manifest.expandEntries lookup' right path entries) := by
  cases entries with
  | nil => exact S.pure []
  | cons entry entries =>
      obtain ⟨key, value⟩ := entry
      have others := expandEntries h rooms path entries
      have inside : ∀ left right, S.rooms left right → ∀ path,
          S.rel (Manifest.expand lookup left path value) (Manifest.expand lookup' right path value) :=
        fun _ _ rooms path => expand h rooms path value
      unfold Manifest.expandEntries
      split
      · exact S.bind (S.throw _) fun _ => S.deeper memberSteps rooms fun _ _ rooms =>
          S.bind (inside _ _ rooms _) fun _ => S.bind others fun _ => S.pure _
      · exact S.deeper memberSteps rooms fun _ _ rooms =>
          S.bind (inside _ _ rooms _) fun _ => S.bind others fun _ => S.pure _
termination_by sizeOf entries

theorem expandItems [LawfulMonad m] [LawfulMonad n] (h : S.Lookups lookup lookup') {left right}
    (rooms : S.rooms left right) (path : KeyPath) (position : Nat) (items : List Value) :
    S.rel (Manifest.expandItems lookup left path position items)
      (Manifest.expandItems lookup' right path position items) := by
  cases items with
  | nil => exact S.pure []
  | cons item items =>
      have others := expandItems h rooms path (position + 1) items
      unfold Manifest.expandItems
      exact S.deeper memberSteps rooms fun _ _ rooms =>
        S.bind (expand h rooms _ item) fun _ => S.bind others fun _ => S.pure _
termination_by sizeOf items

end

end Simulation

end ShaderBuild.Manifest
