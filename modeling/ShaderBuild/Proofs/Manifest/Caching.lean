import ShaderBuild.Proofs.Manifest.Fresh
import ShaderBuild.Proofs.Outcome

/-! # What is remembered does not show

Every variable is expanded once and its value kept. No variable with a kept value is being expanded,
and none that is being expanded can come up on the way down from one with a kept value. So payloads
come out as if each was expanded on its own, whatever was expanded before and however that ended.
-/

namespace ShaderBuild.Manifest

variable {vars : Variables} {cache : Cache} {stack : List String} {α β : Type}

namespace Cache

/-- None of the names being expanded has a kept value. -/
def Apart (cache : Cache) (stack : List String) : Prop := ∀ name ∈ stack, cache.lookup name = none

/-- Every kept value is what a fresh expansion gives, whatever is being expanded apart from what is
    kept. -/
def Sound (vars : Variables) (cache : Cache) : Prop :=
  ∀ name value, cache.lookup name = some value → ∀ stack, cache.Apart stack →
    ∀ steps path, vars.freshValue stack steps none name path = .ok value

/-- All that has a kept value in the first still has one in the second. -/
def Within (cache larger : Cache) : Prop :=
  ∀ name, larger.lookup name = none → cache.lookup name = none

theorem Within.refl (cache : Cache) : cache.Within cache := fun _ missing => missing

theorem Within.trans {between last : Cache} (first : cache.Within between)
    (second : between.Within last) : cache.Within last :=
  fun name missing => first name (second name missing)

theorem Within.apart {larger : Cache} (within : cache.Within larger) (apart : larger.Apart stack) :
    cache.Apart stack :=
  fun name member => within name (apart name member)

theorem apart_stack_append {name : String} :
    cache.Apart (stack ++ [name]) ↔ cache.Apart stack ∧ cache.lookup name = none := by
  simp only [Apart, List.mem_append, List.mem_singleton, or_imp, forall_and, forall_eq]

theorem apart_cache_append {name : String} {value : Value} :
    Apart (cache ++ [(name, value)]) stack ↔ cache.Apart stack ∧ name ∉ stack := by
  simp only [Apart, List.lookup_append, Option.or_eq_none_iff, imp_and, forall_and]
  refine and_congr_right fun _ => ⟨fun unkept member => ?_, fun new other member => ?_⟩
  · simpa using unkept name member
  · have differs : other ≠ name := fun same => new (same ▸ member)
    simpa using differs

theorem within_append (entries : Cache) : cache.Within (cache ++ entries) := by
  intro name missing
  rw [List.lookup_append, Option.or_eq_none_iff] at missing
  exact missing.1

/-- A cache stays sound with a value that is right wherever its variable is not being expanded. -/
theorem Sound.append {name : String} {value : Value} (sound : Sound vars cache)
    (right : ∀ stack, cache.Apart stack → name ∉ stack →
      ∀ steps path, vars.freshValue stack steps none name path = .ok value) :
    Sound vars (cache ++ [(name, value)]) := by
  intro other kept found stack apart steps path
  obtain ⟨before, new⟩ := apart_cache_append.mp apart
  rw [List.lookup_append, Option.or_eq_some_iff] at found
  rcases found with old | ⟨-, last⟩
  · exact sound other kept old stack before steps path
  · rw [List.lookup_cons] at last
    split at last
    · next same =>
        obtain rfl := eq_of_beq same
        cases last
        exact right stack before new steps path
    · cases last

theorem sound_nil : Sound vars [] := by
  intro name value found
  simp at found

theorem apart_nil : cache.Apart [] := by
  intro name member
  simp at member

end Cache

/-- How an expansion over a sound cache must end, given what it comes to on its own. -/
structure Tracked (vars : Variables) (bounded : Prop) (stack : List String)
    (own : List String → Except ExpansionFault α) (cache : Cache)
    (result : Except ExpansionFault α × Cache) : Prop where
  sound : Cache.Sound vars result.2
  apart : result.2.Apart stack
  within : cache.Within result.2
  outcome : result.1 = own stack ∨ bounded ∧ result.1 = .error .tooDeep
  elsewhere : ∀ a, result.1 = .ok a → ∀ other, result.2.Apart other → own other = .ok a

/-- An expansion that comes to the same over every sound cache as on its own, except that it may
    stop for want of room. -/
def Tracks (vars : Variables) (bounded : Prop) (stack : List String) (x : Expansion α)
    (own : ReaderT (List String) (Except ExpansionFault) α) : Prop :=
  ∀ cache, Cache.Sound vars cache → cache.Apart stack →
    Tracked vars bounded stack own.run cache (x.run.run cache)

namespace Tracks

variable {bounded : Prop}

theorem pure (a : α) : Tracks vars bounded stack (pure a) (pure a) := by
  intro cache sound apart
  exact ⟨sound, apart, .refl cache, .inl rfl, fun _ same _ _ => same⟩

theorem throw (fault : ExpansionFault) :
    Tracks vars bounded stack (throw fault : Expansion α) (throw fault) := by
  intro cache sound apart
  exact ⟨sound, apart, .refl cache, .inl rfl, nofun⟩

/-- Going on keeps the outcome: what is kept after the first part is sound, and names that are apart
    from what is kept at the end were so in between. -/
theorem bind {x : Expansion α} {f : α → Expansion β}
    {own : ReaderT (List String) (Except ExpansionFault) α}
    {next : α → ReaderT (List String) (Except ExpansionFault) β}
    (first : Tracks vars bounded stack x own)
    (rest : ∀ a, Tracks vars bounded stack (f a) (next a)) :
    Tracks vars bounded stack (x >>= f) (own >>= next) := by
  intro cache sound apart
  have before := first cache sound apart
  rw [Outcome.run_bind]
  rcases ended : x.run.run cache with ⟨_ | a, between⟩
  all_goals rw [ended] at before
  case error fault =>
      refine ⟨before.sound, before.apart, before.within, ?_, nofun⟩
      rcases before.outcome with same | short
      · exact .inl (by simp only [ReaderT.run_bind, ← same, Outcome.error_bind])
      · exact .inr ⟨short.1, by simpa using short.2⟩
  case ok =>
      have after := rest a between before.sound before.apart
      have own_eq : ∀ other, between.Apart other → own.run other = .ok a := before.elsewhere a rfl
      refine ⟨after.sound, after.apart, before.within.trans after.within, ?_, ?_⟩
      · rw [ReaderT.run_bind, own_eq stack before.apart, Outcome.ok_bind]
        exact after.outcome
      · intro b same other otherApart
        rw [ReaderT.run_bind, own_eq other (after.within.apart otherApart), Outcome.ok_bind]
        exact after.elsewhere b same other otherApart

theorem deeper (steps : Nat) {left : Room} (room : left = none ∨ bounded) {f : Room → Expansion α}
    {own : ReaderT (List String) (Except ExpansionFault) α}
    (rest : ∀ left, left = none ∨ bounded → Tracks vars bounded stack (f left) own) :
    Tracks vars bounded stack (deeper steps left >>= f) own := by
  cases left with
  | none => simpa only [Manifest.deeper, pure_bind] using rest none (.inl rfl)
  | some left =>
      have isBounded : bounded := by simpa using room
      by_cases enough : steps ≤ left
      · simpa only [Manifest.deeper, if_pos enough, pure_bind] using
          rest (some (left - steps)) (.inr isBounded)
      · intro cache sound apart
        simp only [Manifest.deeper, if_neg enough]
        exact ⟨sound, apart, .refl cache, .inr ⟨isBounded, rfl⟩, nofun⟩

/-- The value of a variable is kept once its expansion is through. The variable itself is not among
    the kept ones then, so the value is right wherever the variable is not being expanded. -/
theorem keep {name : String} {value : Value} (new : name ∉ stack) (missing : cache.lookup name = none)
    (found : vars.named.lookup name = some value) {x : Expansion Value}
    (inside : Tracks vars bounded (stack ++ [name]) x
      (expand vars.freshLookup none [.name "vars", .name name] value))
    (sound : Cache.Sound vars cache) (apart : cache.Apart stack) (steps : Nat) (path : KeyPath) :
    Tracked vars bounded stack (fun stack => vars.freshValue stack steps none name path) cache
      ((x >>= fun value => do
        modify fun cache => cache ++ [(name, value)]
        Pure.pure value).run.run cache) := by
  have own_eq : ∀ {other}, name ∉ other → ∀ steps path, vars.freshValue other steps none name path =
      expand (vars.freshValue (other ++ [name])) none [.name "vars", .name name] value := by
    intro other otherNew steps path
    rw [Variables.freshValue_of_found otherNew found]
    rfl
  have before := inside cache sound (Cache.apart_stack_append.mpr ⟨apart, missing⟩)
  rw [Variables.expand_freshLookup] at before
  obtain ⟨stillApart, unkept⟩ := Cache.apart_stack_append.mp before.apart
  rw [Outcome.run_bind]
  rcases ended : x.run.run cache with ⟨_ | expanded, between⟩
  all_goals rw [ended] at before stillApart unkept
  case error fault =>
      refine ⟨before.sound, stillApart, before.within, ?_, nofun⟩
      rw [own_eq new]
      exact before.outcome
  case ok =>
      -- `name` has no kept value in between, so what came of it holds for all these names as well
      have right : ∀ other, between.Apart other → name ∉ other →
          ∀ steps path, vars.freshValue other steps none name path = .ok expanded := by
        intro other otherApart otherNew steps path
        rw [own_eq otherNew]
        exact before.elsewhere expanded rfl _ (Cache.apart_stack_append.mpr ⟨otherApart, unkept⟩)
      have grows : between.Within (between ++ [(name, expanded)]) := Cache.within_append _
      refine ⟨Cache.Sound.append before.sound right, Cache.apart_cache_append.mpr ⟨stillApart, new⟩,
        before.within.trans grows, .inl ?_, ?_⟩
      · exact (right stack stillApart new steps path).symm
      · rintro _ ⟨⟩ other otherApart
        obtain ⟨otherApart, otherNew⟩ := Cache.apart_cache_append.mp otherApart
        exact right other otherApart otherNew steps path

def simulation (vars : Variables) (bounded : Prop) (stack : List String) :
    Simulation Expansion (ReaderT (List String) (Except ExpansionFault)) where
  rel := Tracks vars bounded stack
  rooms left right := right = none ∧ (left = none ∨ bounded)
  pure := Tracks.pure
  throw := Tracks.throw
  bind := Tracks.bind
  deeper := by
    rintro _ steps left _ f g ⟨rfl, room⟩ rest
    have unbounded : (Manifest.deeper steps none >>= g) = g none := pure_bind none g
    rw [unbounded]
    exact Tracks.deeper steps room fun left room => rest left none ⟨rfl, room⟩

end Tracks

namespace Variables

section lookups

variable {fuel steps : Nat} {room : Room} {name : String} {path : KeyPath} {value : Value}

theorem valueOf_of_kept (kept : cache.lookup name = some value) :
    (vars.valueOf fuel stack steps room name path).run.run cache = (.ok value, cache) := by
  unfold valueOf
  rw [Outcome.run_get_bind, kept]
  rfl

theorem valueOf_of_mem (missing : cache.lookup name = none) (member : name ∈ stack) :
    (vars.valueOf fuel stack steps room name path).run.run cache =
      (.error (.variable ⟨path, .cycle (circle stack name)⟩), cache) := by
  unfold valueOf
  rw [Outcome.run_get_bind, missing]
  simp only [if_pos member]
  rfl

theorem valueOf_of_unknown (missing : cache.lookup name = none) (new : name ∉ stack)
    (undefined : vars.named.lookup name = none) :
    (vars.valueOf fuel stack steps room name path).run.run cache =
      (.error (vars.unknown name path), cache) := by
  unfold valueOf
  rw [Outcome.run_get_bind, missing]
  simp only [if_neg new, undefined]
  rfl

theorem valueOf_of_found (missing : cache.lookup name = none) (new : name ∉ stack)
    (found : vars.named.lookup name = some value) :
    (vars.valueOf (fuel + 1) stack steps room name path).run.run cache =
      ((deeper steps room >>= fun room =>
          expand (vars.valueOf fuel (stack ++ [name])) room [.name "vars", .name name] value) >>=
        fun value => do
          modify fun cache => cache ++ [(name, value)]
          pure value).run.run cache := by
  unfold valueOf
  rw [Outcome.run_get_bind, missing]
  simp only [if_neg new, found, bind_assoc]

end lookups

/-- A lookup is tracked if it is where the variable is there, is not being expanded and has no kept
    value. -/
theorem lookups_of_found {bounded : Prop} {fuel : Nat}
    (atFound : ∀ name value cache, name ∉ stack → vars.named.lookup name = some value →
      cache.lookup name = none → Cache.Sound vars cache → cache.Apart stack →
      ∀ steps left path, left = none ∨ bounded →
        Tracked vars bounded stack (fun stack => vars.freshValue stack steps none name path) cache
          ((vars.valueOf fuel stack steps left name path).run.run cache)) :
    (Tracks.simulation vars bounded stack).Lookups (vars.valueOf fuel stack) vars.freshLookup := by
  rintro steps left _ name path ⟨rfl, room⟩ cache sound apart
  cases kept : cache.lookup name with
  | some value =>
      have right : ∀ other, cache.Apart other →
          vars.freshValue other steps none name path = .ok value :=
        fun other otherApart => sound name value kept other otherApart steps path
      rw [valueOf_of_kept kept]
      refine ⟨sound, apart, .refl cache, .inl (right stack apart).symm, ?_⟩
      rintro _ ⟨⟩ other otherApart
      exact right other otherApart
  | none =>
      by_cases member : name ∈ stack
      · rw [valueOf_of_mem kept member]
        exact ⟨sound, apart, .refl cache, .inl (freshValue_of_mem member).symm, nofun⟩
      · cases found : vars.named.lookup name with
        | none =>
            rw [valueOf_of_unknown kept member found]
            have same := (@freshValue_of_unknown _ _ _ steps none path member found).symm
            exact ⟨sound, apart, .refl cache, .inl same, nofun⟩
        | some value =>
            exact atFound name value cache member found kept sound apart steps left path room

/-- Looking a variable up gives what a fresh lookup gives. The fuel does not run out: every variable
    on the way down takes one, and the names that are not being expanded get fewer. -/
theorem lookups_valueOf (bounded : Prop) (fuel : Nat) (stack : List String)
    (enough : (vars.unused stack).length ≤ fuel) :
    (Tracks.simulation vars bounded stack).Lookups (vars.valueOf fuel stack) vars.freshLookup := by
  induction fuel generalizing stack with
  | zero =>
      refine lookups_of_found fun name value _ new found => ?_
      have fewer := unused_append_lt found new
      omega
  | succ fuel ih =>
      refine lookups_of_found
        fun name value cache new found missing sound apart steps left path room => ?_
      have fewer := unused_append_lt found new
      have inner := ih (stack ++ [name]) (by omega)
      rw [valueOf_of_found missing new found]
      have inside : Tracks vars bounded (stack ++ [name])
          (Manifest.deeper steps left >>= fun room =>
            expand (vars.valueOf fuel (stack ++ [name])) room [.name "vars", .name name] value)
          (expand vars.freshLookup none [.name "vars", .name name] value) :=
        Tracks.deeper steps room fun left room => Simulation.expand inner ⟨rfl, room⟩ _ value
      exact Tracks.keep new missing found inside sound apart steps path

theorem tracked_substitute (vars : Variables) (bounded : Prop) {room : Room}
    (ends : room = none ∨ bounded) (payload : Value) (cache : Cache)
    (sound : Cache.Sound vars cache) :
    Tracked vars bounded [] (fun stack => expand (vars.freshValue stack) none [] payload) cache
      ((vars.substitute room payload).run.run cache) := by
  have lookups := lookups_valueOf bounded vars.entries.length [] (unused_nil_le vars)
  have tracked := Simulation.expand lookups ⟨rfl, ends⟩ [] payload cache sound Cache.apart_nil
  rw [← expand_freshLookup]
  exact tracked

/-- What is kept after one more payload, expanded as far down as its room goes. -/
def cacheThen (vars : Variables) (cache : Cache) (run : Room × Value) : Cache :=
  ((vars.substitute run.1 run.2).run.run cache).2

def cacheAfter (vars : Variables) (earlier : List (Room × Value)) : Cache :=
  earlier.foldl vars.cacheThen []

/-- How the expansion of a payload ends after some others. -/
def outcomeAfter (vars : Variables) (earlier : List (Room × Value)) (room : Room) (payload : Value) :
    Except ExpansionFault Value :=
  ((vars.substitute room payload).run.run (vars.cacheAfter earlier)).1

theorem sound_cacheThen (run : Room × Value) (sound : Cache.Sound vars cache) :
    Cache.Sound vars (vars.cacheThen cache run) :=
  (tracked_substitute vars True (.inr trivial) run.2 cache sound).sound

theorem sound_foldl (earlier : List (Room × Value)) (sound : Cache.Sound vars cache) :
    Cache.Sound vars (earlier.foldl vars.cacheThen cache) := by
  induction earlier generalizing cache with
  | nil => exact sound
  | cons run earlier ih => exact ih (sound_cacheThen run sound)

theorem sound_cacheAfter (vars : Variables) (earlier : List (Room × Value)) :
    Cache.Sound vars (vars.cacheAfter earlier) :=
  sound_foldl earlier Cache.sound_nil

theorem outcomeAfter_bounded (vars : Variables) (earlier : List (Room × Value)) (room : Room)
    (payload : Value) :
    vars.outcomeAfter earlier room payload = vars.fresh payload ∨
      room ≠ none ∧ vars.outcomeAfter earlier room payload = .error .tooDeep := by
  have ends : room = none ∨ room ≠ none := Decidable.em _
  have tracked := tracked_substitute vars (room ≠ none) ends payload _ (sound_cacheAfter vars earlier)
  exact tracked.outcome

theorem outcomeAfter_unbounded (vars : Variables) (earlier : List (Room × Value)) (payload : Value) :
    vars.outcomeAfter earlier none payload = vars.fresh payload := by
  rcases outcomeAfter_bounded vars earlier none payload with same | short
  · exact same
  · exact (short.1 rfl).elim

/-- However many payloads were expanded before, and however that ended, a payload comes out as in an
    expansion that keeps nothing. Where there is little room it may instead be too deep. -/
theorem outcomeAfter_eq_fresh (vars : Variables) (earlier : List (Room × Value)) (payload : Value) :
    vars.outcomeAfter earlier none payload = vars.fresh payload ∧
      ∀ room, vars.outcomeAfter earlier (some room) payload = vars.fresh payload ∨
        vars.outcomeAfter earlier (some room) payload = .error .tooDeep := by
  refine ⟨outcomeAfter_unbounded vars earlier payload, fun room => ?_⟩
  exact (outcomeAfter_bounded vars earlier (some room) payload).imp_right And.right

end Variables

end ShaderBuild.Manifest
