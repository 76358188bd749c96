import ShaderBuild.Proofs.Build.FirstSuccess

/-! # Requests that all backends refuse

A request that no backend compiles comes out with the last one's error, and the notes on it and the
log keep the errors of the others. Any other fault ends the request where it arises. There is no third
way for a request with a valid target and a known language to fail.
-/

namespace ShaderBuild

variable {σ α : Type}

/-- A step that leaves a kind of entries of the log alone. -/
def Action.LeavesLogged (kind : Log.Entry → Bool) (action : Action σ α) : Prop :=
  ∀ session : Session σ, (action.run.run session).2.log.filter kind = session.log.filter kind

namespace Dispatch

variable {request : Request} {session between after : Session σ} {backend : Backend σ}
  {candidates tried rest : List (Backend σ)} {earlier failures : List Failure}

/-- The entry of the log about a failure. -/
def Failure.warning (failure : Failure) : Log.Entry :=
  .message .warning s!"backend {failure.backend} failed: {failure.error.message}"

theorem Tried.names (refused : Tried request session tried failures after) :
    failures.map (·.backend) = tried.map (·.name) := by
  induction refused with
  | none => rfl
  | failed _ _ ih => rw [List.map_cons, List.map_cons, ih]

theorem Tried.log (refused : Tried request session tried failures after) {kind : Log.Entry → Bool}
    (counted : ∀ failure ∈ failures, kind failure.warning = true)
    (quiet : ∀ backend ∈ tried, (backend.compile request).LeavesLogged kind) :
    after.log.filter kind = session.log.filter kind ++ failures.map Failure.warning := by
  induction refused with
  | none => rw [List.map_nil, List.append_nil]
  | @failed session ended _ backend _ error notes _ first _ ih =>
      obtain ⟨own, countedOthers⟩ := List.forall_mem_cons.mp counted
      obtain ⟨quietFirst, quietOthers⟩ := List.forall_mem_cons.mp quiet
      have silent := quietFirst (session.afresh request)
      rw [first] at silent
      have written : (warned backend error ended).log =
          ended.log ++ [Failure.warning ⟨backend.name, error, notes⟩] := rfl
      rw [ih countedOthers quietOthers, written, List.filter_append, silent, List.filter_cons_of_pos own]
      simp [Session.afresh]

/-- After some backends have been tried in vain the request is with the others. -/
theorem run_tryAll_append (refused : Tried request session tried failures between) :
    (tryAll request earlier (tried ++ rest)).run.run session =
      (tryAll request (earlier ++ failures) rest).run.run between := by
  induction refused generalizing earlier with
  | none => rw [List.nil_append, List.append_nil]
  | failed first _ ih =>
      rw [List.cons_append, run_tryAll_of_refused first, ih, List.append_assoc,
        List.singleton_append]

theorem run_tryAll_nil (last : Failure) :
    (tryAll request (earlier ++ [last]) []).run.run session =
      (.error (exhausted earlier last), session) := by
  rw [tryAll, List.getLast?_concat, List.dropLast_concat]
  rfl

theorem run_tryAll_of_all_refused {last : Failure}
    (refused : Tried request session candidates (earlier ++ [last]) after) :
    (tryAll request [] candidates).run.run session = (.error (exhausted earlier last), after) := by
  rw [← List.append_nil candidates, run_tryAll_append refused, List.nil_append, run_tryAll_nil]

/-- A run through candidates that a fault ends, one that is no refusal. -/
structure Stopped (request : Request) (candidates : List (Backend σ)) (session : Session σ) where
  tried : List (Backend σ)
  backend : Backend σ
  untried : List (Backend σ)
  failures : List Failure
  between : Session σ
  fault : Fault
  ended : Session σ
  divides : candidates = tried ++ backend :: untried
  refused : Tried request session tried failures between
  stops : (backend.compile request).run.run (between.afresh request) = (.error fault, ended)
  other : ∀ error notes, fault ≠ .refused error notes

theorem run_tryAll_of_stopped (stopped : Stopped request candidates session) :
    (tryAll request [] candidates).run.run session = (.error stopped.fault, stopped.ended) := by
  obtain ⟨tried, backend, untried, failures, between, fault, ended, rfl, refused, stops, other⟩ :=
    stopped
  rw [run_tryAll_append refused]
  exact run_tryAll_of_fault stops other

/-- A run that does not end well has met with refusals only, or with a fault after some of them. -/
theorem exists_tried_or_stopped {fault : Fault}
    (ran : (tryAll request earlier candidates).run.run session = (.error fault, after)) :
    (∃ failures, Tried request session candidates failures after) ∨
      ∃ stopped : Stopped request candidates session,
        stopped.fault = fault ∧ stopped.ended = after := by
  induction candidates generalizing session earlier with
  | nil =>
      have same : session = after := by
        unfold tryAll at ran
        split at ran <;> exact congrArg Prod.snd ran
      exact .inl ⟨[], same ▸ .none⟩
  | cons first others ih =>
      -- a refusal leaves the request to the others, any other fault ends the run
      rcases compiled : (first.compile request).run.run (session.afresh request) with
        ⟨cause | words, ended⟩
      · by_cases refuses : ∃ error notes, cause = .refused error notes
        · obtain ⟨error, notes, rfl⟩ := refuses
          rw [run_tryAll_of_refused compiled] at ran
          rcases ih ran with ⟨failures, refused⟩ | ⟨stopped, same, left⟩
          · exact .inl ⟨_, .failed compiled refused⟩
          · exact .inr ⟨{ stopped with
              tried := first :: stopped.tried
              failures := ⟨first.name, error, notes⟩ :: stopped.failures
              divides := congrArg (first :: ·) stopped.divides
              refused := .failed compiled stopped.refused }, same, left⟩
        · have other : ∀ error notes, cause ≠ .refused error notes :=
            fun error notes is => refuses ⟨error, notes, is⟩
          rw [run_tryAll_of_fault compiled other] at ran
          cases ran
          exact .inr ⟨⟨[], first, others, [], session, _, _, rfl, .none, compiled, other⟩, rfl, rfl⟩
      · rw [run_tryAll_of_ok compiled] at ran
        cases ran

/-- If every backend that takes the language refuses a request, the last one's error comes out as it
    is, with a note on each of the others in their order, and the log has a warning for each of them.
    If one stops with another fault, that fault comes out and the session is as that backend has left
    it. A request that fails has done so in one of these ways. -/
theorem dispatch_all_refused (backends : List (Backend σ)) (request : Request)
    (session : Session σ) {target : Target} (valid : request.config.target = .ok target)
    (some : takers backends request.config ≠ []) :
    (∀ failures after, Tried request session (takers backends request.config) failures after →
      failures.map (·.backend) = (takers backends request.config).map (·.name) ∧
      (∃ earlier last, failures = earlier ++ [last] ∧
        (dispatch backends request).run.run session =
          (.error (.refused last.error (last.notes ++ earlier.map fun failure =>
            s!"earlier attempt [{failure.backend}]: {failure.error.message}")), after)) ∧
      ∀ kind : Log.Entry → Bool, (∀ failure ∈ failures, kind failure.warning = true) →
        (∀ backend ∈ takers backends request.config,
          (backend.compile request).LeavesLogged kind) →
        after.log.filter kind = session.log.filter kind ++ failures.map Failure.warning) ∧
    (∀ stopped : Stopped request (takers backends request.config) session,
      (dispatch backends request).run.run session = (.error stopped.fault, stopped.ended)) ∧
    (∀ fault after, (dispatch backends request).run.run session = (.error fault, after) →
      (∃ failures, Tried request session (takers backends request.config) failures after) ∨
        ∃ stopped : Stopped request (takers backends request.config) session,
          stopped.fault = fault ∧ stopped.ended = after) := by
  rw [run_dispatch_of_some valid some]
  refine ⟨fun failures after refused => ⟨refused.names, ?_, ?_⟩, run_tryAll_of_stopped, ?_⟩
  · have left : failures ≠ [] := by
      intro none
      exact some (List.map_eq_nil_iff.mp (by rw [← refused.names, none, List.map_nil]))
    have divides := List.dropLast_concat_getLast left
    rw [← divides] at refused
    exact ⟨_, _, divides.symm, run_tryAll_of_all_refused refused⟩
  · intro kind counted quiet
    exact refused.log counted quiet
  · intro fault after ran
    exact exists_tried_or_stopped ran

/-- Three backends that refuse in different words, one that is for another language, and one that is
    broken. -/
def refusing : List (Backend Unit) :=
  [recording "first" .glsl "a.h" (.error (.backend "first" "no")),
   recording "second" .wgsl "b.h" (.ok [0]),
   recording "third" .glsl "c.h" (.error .missingRoot),
   recording "fourth" .glsl "d.h" (.error (.backend "fourth" "never"))]

def broken : Backend Unit := ⟨"broken", [.glsl], fun _ => throw (.foreign "KeyError" "x")⟩

theorem recording_leavesLogged (name : String) (language : Language) (path : String)
    (result : Except RequestError (List Int)) (kind : Log.Entry → Bool) :
    ((recording name language path result).compile request).LeavesLogged kind := by
  cases result <;> exact fun _ => rfl

theorem fourth_with_notes :
    (∃ after, (dispatch refusing (requestFor { language := .glsl })).run.run idle =
        (.error (.refused (.backend "fourth" "never") ["earlier attempt [first]: [first] no",
          "earlier attempt [third]: " ++ BuildRoot.missingMessage]), after) ∧
      after.log = [.message .warning "backend first failed: [first] no",
        .message .warning ("backend third failed: " ++ BuildRoot.missingMessage),
        .message .warning "backend fourth failed: [fourth] never"]) ∧
    ∃ after, (dispatch (refusing ++ broken :: three) (requestFor { language := .glsl })).run.run idle =
      (.error (.foreign "KeyError" "x"), after) := by
  have valid : (requestFor { language := .glsl }).config.target = .ok .vulkan1_0 := rfl
  constructor
  · obtain ⟨after, refused⟩ : ∃ after, Tried (requestFor { language := .glsl }) idle
        (takers refusing { language := .glsl })
        ([⟨"first", .backend "first" "no", []⟩, ⟨"third", .missingRoot, []⟩] ++
          [⟨"fourth", .backend "fourth" "never", []⟩]) after :=
      ⟨_, .failed rfl (.failed rfl (.failed rfl .none))⟩
    obtain ⟨-, ⟨earlier, last, same, ran⟩, logged⟩ :=
      (dispatch_all_refused refusing _ idle valid (by decide)).1 _ after refused
    obtain ⟨rfl, ⟨⟩⟩ := List.append_inj' same rfl
    refine ⟨after, ran, ?_⟩
    have quiet : ∀ backend ∈ takers refusing { language := .glsl },
        (backend.compile (requestFor { language := .glsl })).LeavesLogged fun _ => true := by
      intro backend member
      have listed : backend ∈ refusing := (List.mem_filter.mp member).1
      simp only [refusing, List.mem_cons, List.not_mem_nil, or_false] at listed
      rcases listed with rfl | rfl | rfl | rfl <;> exact recording_leavesLogged _ _ _ _ _
    have whole := logged (fun _ => true) (fun _ _ => rfl) quiet
    rw [List.filter_eq_self.mpr fun _ _ => rfl] at whole
    exact whole
  · let stopped : Stopped (requestFor { language := .glsl })
        (takers (refusing ++ broken :: three) { language := .glsl }) idle :=
      { tried := takers refusing { language := .glsl }
        backend := broken
        untried := takers three { language := .glsl }
        failures := _
        between := _
        fault := _
        ended := _
        divides := rfl
        refused := .failed rfl (.failed rfl (.failed rfl .none))
        stops := rfl
        other := fun _ _ is => by cases is }
    exact ⟨_, (dispatch_all_refused _ _ idle valid (by decide)).2.1 stopped⟩

end Dispatch

end ShaderBuild
