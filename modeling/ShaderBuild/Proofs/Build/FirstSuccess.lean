import ShaderBuild.Build.Dispatch
import ShaderBuild.Proofs.Build.Recording

/-! # The first success

A request comes out as the first backend makes it that succeeds. The ones before it that take the
language were run once each and refused it, and what they have read is forgotten. No other backend
was run.
-/

namespace ShaderBuild

variable {σ : Type}

/-- A session in which an attempt at a request starts afresh. -/
def Session.afresh (session : Session σ) (request : Request) : Session σ :=
  { session with dependencies := request.origin?.toList }

def Session.told (session : Session σ) (level : Log.Level) (text : String) : Session σ :=
  { session with log := session.log ++ [.message level text] }

namespace Dispatch

variable {request : Request} {session after : Session σ} {backend : Backend σ}
  {backends : List (Backend σ)} {earlier : List Failure} {feedback : Feedback}

/-- What a failed attempt leaves: a warning in the log. -/
def warned (backend : Backend σ) (error : RequestError) (ended : Session σ) : Session σ :=
  ended.told .warning s!"backend {backend.name} failed: {error.message}"

/-- What a successful attempt leaves: a word in the log if others have failed before. -/
def settled (failures : List Failure) (backend : Backend σ) (ended : Session σ) : Session σ :=
  if failures.isEmpty then ended
  else ended.told .info s!"backend {backend.name} succeeded after fallback"

/-- Backends that were asked in vain: each was run once, in this order, and refused the request. -/
inductive Tried (request : Request) :
    Session σ → List (Backend σ) → List Failure → Session σ → Prop
  | none {session : Session σ} : Tried request session [] [] session
  | failed {session ended after : Session σ} {backend others error notes failures}
      (refused : (backend.compile request).run.run (session.afresh request) =
        (.error (.refused error notes), ended))
      (rest : Tried request (warned backend error ended) others failures after) :
      Tried request session (backend :: others) (⟨backend.name, error, notes⟩ :: failures) after

theorem settled_dependencies (failures : List Failure) (backend : Backend σ) (ended : Session σ) :
    (settled failures backend ended).dependencies = ended.dependencies := by
  unfold settled
  split <;> rfl

theorem run_attempt (backend : Backend σ) (request : Request) (session : Session σ) :
    (attempt backend request).run.run session =
      (backend.compile request).run.run (session.afresh request) := rfl

theorem run_tryAll_of_ok {words : List Int} {ended : Session σ}
    (compiled : (backend.compile request).run.run (session.afresh request) = (.ok words, ended)) :
    (tryAll request earlier (backend :: backends)).run.run session =
      (.ok ⟨words, ended.dependencies⟩, settled earlier backend ended) := by
  rw [← settled_dependencies earlier backend ended]
  rw [tryAll, Outcome.run_bind, Action.run_outcome, run_attempt, compiled]
  unfold settled
  cases earlier <;> rfl

theorem run_tryAll_of_refused {error : RequestError} {notes : List String} {ended : Session σ}
    (refused : (backend.compile request).run.run (session.afresh request) =
      (.error (.refused error notes), ended)) :
    (tryAll request earlier (backend :: backends)).run.run session =
      (tryAll request (earlier ++ [⟨backend.name, error, notes⟩]) backends).run.run
        (warned backend error ended) := by
  rw [tryAll, Outcome.run_bind, Action.run_outcome, run_attempt, refused]
  rfl

theorem run_tryAll_of_fault {fault : Fault} {ended : Session σ}
    (stopped : (backend.compile request).run.run (session.afresh request) = (.error fault, ended))
    (other : ∀ error notes, fault ≠ .refused error notes) :
    (tryAll request earlier (backend :: backends)).run.run session = (.error fault, ended) := by
  rw [tryAll, Outcome.run_bind, Action.run_outcome, run_attempt, stopped]
  cases fault with
  | refused error notes => exact (other error notes rfl).elim
  | access | encoding | unstorable | nameless | sourceless | rootless | foreign => rfl

/-- A run through candidates that ends well: those that refused, and the one that then succeeded. -/
structure Found (request : Request) (candidates : List (Backend σ)) (session : Session σ) where
  tried : List (Backend σ)
  backend : Backend σ
  untried : List (Backend σ)
  failures : List Failure
  between : Session σ
  words : List Int
  ended : Session σ
  divides : candidates = tried ++ backend :: untried
  refused : Tried request session tried failures between
  compiled : (backend.compile request).run.run (between.afresh request) = (.ok words, ended)

namespace Found

variable {candidates : List (Backend σ)} (found : Found request candidates session)

def yields : Feedback := ⟨found.words, found.ended.dependencies⟩

/-- The session in the end, if there were failures before. -/
def leaves (earlier : List Failure) : Session σ :=
  settled (earlier ++ found.failures) found.backend found.ended

/-- The read files are the source's own and those that the successful attempt has recorded. -/
theorem dependencies_eq (records : (found.backend.compile request).OnlyRecords) :
    found.yields.dependencies =
      request.origin?.toList ++ (found.backend.compile request).recorded found.between := by
  have ended := records.dependencies_eq (found.between.afresh request)
  rw [found.compiled] at ended
  exact ended

end Found

/-- A run that ends well has found a backend that succeeds, after all before it have refused. -/
theorem exists_found {candidates : List (Backend σ)}
    (ran : (tryAll request earlier candidates).run.run session = (.ok feedback, after)) :
    ∃ found : Found request candidates session,
      found.yields = feedback ∧ found.leaves earlier = after := by
  induction candidates generalizing session earlier with
  | nil =>
      unfold tryAll at ran
      split at ran <;> cases ran
  | cons first others ih =>
      -- only a refused request goes on to the others
      rcases compiled : (first.compile request).run.run (session.afresh request) with
        ⟨fault | words, ended⟩
      · by_cases refuses : ∃ error notes, fault = .refused error notes
        · obtain ⟨error, notes, rfl⟩ := refuses
          rw [run_tryAll_of_refused compiled] at ran
          obtain ⟨found, yields, leaves⟩ := ih ran
          refine ⟨{ found with
            tried := first :: found.tried
            failures := ⟨first.name, error, notes⟩ :: found.failures
            divides := congrArg (first :: ·) found.divides
            refused := .failed compiled found.refused }, yields, ?_⟩
          rw [← leaves]
          simp only [Found.leaves, List.append_assoc, List.singleton_append]
        · have other : ∀ error notes, fault ≠ .refused error notes :=
            fun error notes is => refuses ⟨error, notes, is⟩
          rw [run_tryAll_of_fault compiled other] at ran
          cases ran
      · rw [run_tryAll_of_ok compiled] at ran
        cases ran
        refine ⟨⟨[], first, others, [], session, words, ended, rfl, .none, compiled⟩, rfl, ?_⟩
        rw [Found.leaves, List.append_nil]

theorem run_tryAll_of_tried {tried untried : List (Backend σ)} {failures : List Failure}
    {between ended : Session σ} {words : List Int}
    (refused : Tried request session tried failures between)
    (compiled : (backend.compile request).run.run (between.afresh request) = (.ok words, ended)) :
    (tryAll request earlier (tried ++ backend :: untried)).run.run session =
      (.ok ⟨words, ended.dependencies⟩, settled (earlier ++ failures) backend ended) := by
  induction refused generalizing earlier with
  | none => rw [List.nil_append, run_tryAll_of_ok compiled, List.append_nil]
  | failed first _ ih =>
      rw [List.cons_append, run_tryAll_of_refused first, ih compiled]
      rw [List.append_assoc, List.singleton_append]

theorem run_tryAll_of_found {candidates : List (Backend σ)}
    (found : Found request candidates session) :
    (tryAll request earlier candidates).run.run session =
      (.ok found.yields, found.leaves earlier) := by
  obtain ⟨tried, backend, untried, failures, between, words, ended, rfl, refused, compiled⟩ := found
  exact run_tryAll_of_tried refused compiled

/-- The backends that take the language of a config. -/
def takers (backends : List (Backend σ)) (config : Config) : List (Backend σ) :=
  backends.filter fun backend => backend.accepts config

theorem run_dispatch_of_bad {pair : Config.BadPair} (bad : request.config.target = .error pair) :
    (dispatch backends request).run.run session =
      (.error (RequestError.badTarget pair).fault, session) := by
  unfold dispatch
  rw [bad]
  rfl

theorem run_dispatch_of_none {target : Target} (valid : request.config.target = .ok target)
    (none : takers backends request.config = []) :
    (dispatch backends request).run.run session =
      (.error (RequestError.unsupportedLanguage request.config.language
        (backends.map (·.name))).fault, session) := by
  unfold dispatch candidates
  unfold takers at none
  rw [valid, none]
  rfl

theorem run_dispatch_of_some {target : Target} (valid : request.config.target = .ok target)
    (some : takers backends request.config ≠ []) :
    (dispatch backends request).run.run session =
      (tryAll request [] (takers backends request.config)).run.run session := by
  unfold takers at some ⊢
  unfold dispatch candidates
  rw [valid]
  cases found : backends.filter fun backend => backend.accepts request.config with
  | nil => exact (some found).elim
  | cons => rfl

/-- How a request came to succeed. Of the backends before the one that succeeds, those that take the
    language were tried, and no others; none of those behind it were. -/
structure Success (backends : List (Backend σ)) (request : Request) (session : Session σ)
    extends Found request (takers backends request.config) session where
  before : List (Backend σ)
  behind : List (Backend σ)
  stands : backends = before ++ backend :: behind
  accepts : backend.accepts request.config
  tried_eq : tried = takers before request.config
  valid : ∃ target, request.config.target = .ok target

/-- What is found among the backends that take the language stands at some place of the whole
    list. -/
theorem exists_success {target : Target} (valid : request.config.target = .ok target)
    (found : Found request (takers backends request.config) session) :
    ∃ success : Success backends request session, success.toFound = found := by
  obtain ⟨before, rest, divides, passed, left⟩ := List.filter_eq_append_iff.mp found.divides
  obtain ⟨skipped, behind, standing, none, accepts, -⟩ := List.filter_eq_cons_iff.mp left
  have tried_eq : takers (before ++ skipped) request.config = found.tried := by
    unfold takers
    rw [List.filter_append, passed, List.filter_eq_nil_iff.mpr none, List.append_nil]
  exact ⟨{ found with
    before := before ++ skipped
    behind := behind
    stands := divides.trans (by rw [standing, List.append_assoc])
    accepts := accepts
    tried_eq := tried_eq.symm
    valid := ⟨target, valid⟩ }, rfl⟩

theorem run_dispatch_eq_ok_iff :
    (dispatch backends request).run.run session = (.ok feedback, after) ↔
      ∃ success : Success backends request session,
        success.yields = feedback ∧ success.leaves [] = after := by
  constructor
  · intro ran
    cases valid : request.config.target with
    | error pair =>
        rw [run_dispatch_of_bad valid] at ran
        cases ran
    | ok target =>
        by_cases none : takers backends request.config = []
        · rw [run_dispatch_of_none valid none] at ran
          cases ran
        · rw [run_dispatch_of_some valid none] at ran
          obtain ⟨found, yields, leaves⟩ := exists_found ran
          obtain ⟨success, rfl⟩ := exists_success valid found
          exact ⟨success, yields, leaves⟩
  · rintro ⟨success, rfl, rfl⟩
    obtain ⟨target, valid⟩ := success.valid
    have some : takers backends request.config ≠ [] := by
      intro none
      simpa [none] using success.divides
    rw [run_dispatch_of_some valid some]
    exact run_tryAll_of_found success.toFound

/-- A request succeeds exactly through the first backend that takes the language and does not
    refuse, after those before it that take the language have been run once each. The files that it
    has read are its own and those that this attempt has recorded. If the target is not valid or no
    backend takes the language, the request is refused and nothing is run. -/
theorem dispatch_first_success (backends : List (Backend σ)) (request : Request)
    (session : Session σ) :
    (∀ feedback after, (dispatch backends request).run.run session = (.ok feedback, after) ↔
      ∃ success : Success backends request session,
        success.yields = feedback ∧ success.leaves [] = after) ∧
    (∀ success : Success backends request session,
      (success.backend.compile request).OnlyRecords →
      success.yields.dependencies =
        request.origin?.toList ++ (success.backend.compile request).recorded success.between) ∧
    (∀ pair, request.config.target = .error pair →
      (dispatch backends request).run.run session =
        (.error (RequestError.badTarget pair).fault, session)) ∧
    (∀ target, request.config.target = .ok target →
      (∀ backend ∈ backends, ¬ backend.accepts request.config) →
      (dispatch backends request).run.run session =
        (.error (RequestError.unsupportedLanguage request.config.language
          (backends.map (·.name))).fault, session)) := by
  refine ⟨fun _ _ => run_dispatch_eq_ok_iff, fun success => success.dependencies_eq,
    fun _ => run_dispatch_of_bad, fun _ valid none => ?_⟩
  exact run_dispatch_of_none valid (List.filter_eq_nil_iff.mpr none)

/-- A backend that records a file and then ends in a given way. -/
def recording (name : String) (language : Language) (path : String)
    (result : Except RequestError (List Int)) : Backend Unit :=
  ⟨name, [language], fun _ => do
    Action.record path
    Action.ofRequest result⟩

theorem recording_onlyRecords (name : String) (language : Language) (path : String)
    (result : Except RequestError (List Int)) (request : Request) :
    ((recording name language path result).compile request).OnlyRecords :=
  .bind (.record path) fun _ => .ofRequest result

/-- A backend for another language, one that refuses after it has read a file, and one that
    succeeds. -/
def three : List (Backend Unit) :=
  [recording "first" .wgsl "a.h" (.ok [0]),
   recording "second" .glsl "b.h" (.error (.backend "second" "no")),
   recording "third" .glsl "c.h" (.ok [1])]

def requestFor (config : Config) : Request := ⟨"", some "main.frag", config, []⟩

def idle : Session Unit :=
  ⟨.empty, [], fun _ _ _ => .finished ⟨0, [], [], []⟩, "scratch", [], [], [], ()⟩

theorem third_after_refusal :
    (∃ success : Success three (requestFor { language := .glsl }) idle,
      success.yields = ⟨[1], ["main.frag", "c.h"]⟩ ∧
      success.yields.dependencies = ["main.frag"] ++
        (success.backend.compile (requestFor { language := .glsl })).recorded success.between) ∧
    (dispatch three (requestFor { language := .hlsl })).run.run idle =
      (.error (RequestError.unsupportedLanguage .hlsl ["first", "second", "third"]).fault, idle) ∧
    ∃ pair, (dispatch three (requestFor { environment := .webgpu, version := .v1_6 })).run.run idle =
      (.error (RequestError.badTarget pair).fault, idle) := by
  refine ⟨?_, ?_, ?_⟩
  · have ran : ∃ after, (dispatch three (requestFor { language := .glsl })).run.run idle =
        (.ok ⟨[1], ["main.frag", "c.h"]⟩, after) := ⟨_, rfl⟩
    obtain ⟨after, ran⟩ := ran
    obtain ⟨success, yields, -⟩ := ((dispatch_first_success three _ idle).1 _ _).mp ran
    have member : success.backend ∈ success.before ++ success.backend :: success.behind := by simp
    rw [← success.stands] at member
    have records : (success.backend.compile (requestFor { language := .glsl })).OnlyRecords := by
      simp only [three, List.mem_cons, List.not_mem_nil, or_false] at member
      rcases member with same | same | same <;> rw [same] <;> exact recording_onlyRecords _ _ _ _ _
    exact ⟨success, yields, (dispatch_first_success three _ idle).2.1 success records⟩
  · exact (dispatch_first_success three _ idle).2.2.2 .vulkan1_0 rfl (by decide)
  · exact ⟨_, (dispatch_first_success three _ idle).2.2.1 _ rfl⟩

end Dispatch

end ShaderBuild
