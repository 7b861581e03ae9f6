import CloudProvider.Proofs.Polling
import Mathlib.Algebra.GroupWithZero.Nat
import Mathlib.Data.Nat.Find

/-!
# How long a request is polled

A request is polled until an observation says that it is over or fails, or as often as it may be.
Between two polls there is one pause, and every poll that finds the request pending is logged.

* `Dialogue.waited`, `Dialogue.logged`: the seconds waited and the events logged in a trace.
* `Operation.against_bind`: the run of two operations, one after the other.
* `AsyncRequest.fetched`: the fetches of a request against a remote, one after the other.
* `AsyncRequest.IsOver`, `AsyncRequest.conclusion`: observations that end the polls, and how.
* `AsyncRequest.Takes`: what a run of some fetches asks, waits for and logs.
* `AsyncRequest.Stops`: after how many fetches the polls stop, and with which result.
* **`AsyncRequest.waitFor_exact`**: the polls of any request, against any remote.
* **`Mysql.elapsed_await`**: how long the requests of the database service are waited for.
-/

namespace CloudProvider

namespace Dialogue

variable {Q A α β σ : Type}

/-- The seconds waited in a trace. -/
def waited (t : List (Happening Q A)) : Nat :=
  t.foldr (fun h elapsed =>
    match h with
    | .slept n => n + elapsed
    | _ => elapsed) 0

/-- The events logged in a trace. -/
def logged (t : List (Happening Q A)) : List Event :=
  t.filterMap fun
    | .logged e => some e
    | _ => none

theorem logged_append (t₁ t₂ : List (Happening Q A)) :
    logged (t₁ ++ t₂) = logged t₁ ++ logged t₂ := List.filterMap_append

theorem waited_append (t₁ t₂ : List (Happening Q A)) :
    waited (t₁ ++ t₂) = waited t₁ + waited t₂ := by
  induction t₁ with
  | nil => exact (Nat.zero_add _).symm
  | cons h t ih =>
    cases h with
    | slept n => exact (congrArg (n + ·) ih).trans (Nat.add_assoc _ _ _).symm
    | asked q a => exact ih
    | logged e => exact ih

theorem exchanges_map_logged (events : List Event) :
    exchanges (events.map .logged : List (Happening Q A)) = [] := by
  rw [exchanges, List.filterMap_map]
  exact List.filterMap_eq_nil_iff.mpr fun _ _ => rfl

theorem waited_map_logged (events : List Event) :
    waited (events.map .logged : List (Happening Q A)) = 0 := by
  induction events with
  | nil => rfl
  | cons e events ih => exact ih

theorem logged_map_logged (events : List Event) :
    logged (events.map .logged : List (Happening Q A)) = events := by
  rw [logged, List.filterMap_map]
  exact List.filterMap_some

theorem Run.follow_append (t₁ t₂ : List (Happening Q A)) (r : Run σ Q A α) :
    r.follow (t₁ ++ t₂) = (r.follow t₂).follow t₁ :=
  congrArg (Run.mk _ · _) (List.append_assoc _ _ _)

theorem Run.exchanges_follow (t : List (Happening Q A)) (r : Run σ Q A α) :
    (r.follow t).exchanges = Dialogue.exchanges t ++ r.exchanges := exchanges_append _ _

theorem Run.elapsed_follow (t : List (Happening Q A)) (r : Run σ Q A α) :
    (r.follow t).elapsed = waited t + r.elapsed := waited_append _ _

theorem Run.events_follow (t : List (Happening Q A)) (r : Run σ Q A α) :
    (r.follow t).events = logged t ++ r.events := logged_append _ _

end Dialogue

namespace Operation

open Dialogue

variable {Q A α β σ : Type} {remote : Remote σ Q A} {s : σ}

/-- **The run of two operations**, one after the other. -/
theorem against_bind {op : Operation Q A α} {f : α → Operation Q A β} {a : α}
    (h : (op.against remote s).result = .ok a) :
    (op >>= f).against remote s =
      ((f a).against remote (op.against remote s).remote).follow (op.against remote s).trace := by
  have hb : ExceptT.run (op >>= f) = (ExceptT.run op).bind (ExceptT.bindCont f) := rfl
  rw [against, hb, run_bind]
  rw [against] at h
  rw [h]
  rfl

theorem against_bind_error {op : Operation Q A α} {f : α → Operation Q A β} {e : Error}
    (h : (op.against remote s).result = .error e) :
    (op >>= f).against remote s =
      ⟨.error e, (op.against remote s).trace, (op.against remote s).remote⟩ := by
  have hb : ExceptT.run (op >>= f) = (ExceptT.run op).bind (ExceptT.bindCont f) := rfl
  rw [against, hb, run_bind]
  rw [against] at h
  rw [h]
  exact congrArg (Run.mk _ · _) (List.append_nil _)

end Operation

namespace AsyncRequest

open Dialogue Operation

/-! ## Observations -/

/-- Whether an observation ends the polls of a request: it fails, or the request is over. -/
def IsOver : Except Error Observation → Prop
  | .error _ => True
  | .ok o => o.status ∈ finalStatuses

instance : DecidablePred IsOver
  | .error _ => isTrue trivial
  | .ok o => inferInstanceAs (Decidable (o.status ∈ finalStatuses))

/-- **How the polls end** with an observation: with its failure, well, or with the failure of the
request. -/
def conclusion (requestId : String) : Except Error Observation → Except Error Unit
  | .error e => .error e
  | .ok o =>
    if o.status = "SUCCESS" then .ok () else .error ⟨.requestFailed requestId o.info, none⟩

/-- What is logged after the observation of an attempt. -/
def eventsAfter (requestId : String) (attempt : Nat) : Except Error Observation → List Event
  | .error _ => []
  | .ok o =>
    if o.status = "SUCCESS" then [succeededEvent requestId attempt]
    else if o.status ∈ failures then []
    else [pendingEvent requestId attempt o.status]

theorem eventsAfter_of_not_over {requestId : String} {attempt : Nat} {o : Observation}
    (h : ¬ IsOver (.ok o)) :
    eventsAfter requestId attempt (.ok o) = [pendingEvent requestId attempt o.status] := by
  have hne : ¬ (o.status = "SUCCESS" ∨ o.status ∈ failures) := fun h' => h (List.mem_cons.mpr h')
  rw [eventsAfter, if_neg fun h' => hne (.inl h'), if_neg fun h' => hne (.inr h')]

/-! ## Fetches -/

variable {Q A σ : Type}

/-- **The fetches of a request** against a remote, one after the other. -/
def fetched (remote : Remote σ Q A) (observe : Operation Q A Observation) :
    σ → Nat → Run σ Q A (Except Error Observation)
  | s, 0 => observe.against remote s
  | s, k + 1 => fetched remote observe (observe.against remote s).remote k

/-- What happens in one attempt: the fetch, what is logged of it, and a pause if there are `more`
attempts to come. -/
def attemptTrace (requestId : String) (polling : Polling) (attempt more : Nat)
    (fetch : Run σ Q A (Except Error Observation)) : List (Happening Q A) :=
  fetch.trace ++ ((eventsAfter requestId attempt fetch.result).map .logged ++
    if 0 < more then [.slept polling.pause] else [])

/-- **What a run of the first `n` fetches of a request does**: it asks what they ask, waits once
between any two of them, and logs each observation under its number, the first one being `first`. -/
structure Takes (requestId : String) (polling : Polling) (first : Nat)
    (fetches : Nat → Run σ Q A (Except Error Observation)) (n : Nat)
    (run : Run σ Q A (Except Error Unit)) : Prop where
  exchanges : run.exchanges = (List.range n).flatMap fun i => (fetches i).exchanges
  elapsed : run.elapsed = min polling.interval longestPause * (n - 1) +
    ((List.range n).map fun i => (fetches i).elapsed).sum
  events : run.events = (List.range n).flatMap fun i =>
    (fetches i).events ++ eventsAfter requestId (first + i) (fetches i).result

/-- **How the polls stop**, of which `left` are allowed: with the first observation that ends them,
or after the last one. -/
inductive Stops (requestId : String) (attempts left : Nat)
    (observation : Nat → Except Error Observation) : Nat → Except Error Unit → Prop
  | ended {k : Nat} (hk : k < left) (h : IsOver (observation k))
      (hbefore : ∀ i < k, ¬ IsOver (observation i)) :
      Stops requestId attempts left observation (k + 1) (conclusion requestId (observation k))
  | unfinished (h : ∀ i < left, ¬ IsOver (observation i)) :
      Stops requestId attempts left observation left
        (.error ⟨.requestUnfinished requestId attempts, none⟩)

theorem Stops.of_succ {requestId : String} {attempts left n : Nat}
    {observation : Nat → Except Error Observation} {r : Except Error Unit}
    (h : Stops requestId attempts (left + 1) observation n r) :
    IsOver (observation 0) ∧ n = 1 ∧ r = conclusion requestId (observation 0) ∨
      ¬ IsOver (observation 0) ∧ ∃ m, n = m + 1 ∧ (0 < left ↔ 0 < m) ∧
        Stops requestId attempts left (fun i => observation (i + 1)) m r := by
  cases h with
  | @ended k hk h hbefore =>
    cases k with
    | zero => exact .inl ⟨h, rfl, rfl⟩
    | succ k =>
      have hrest : ∀ i < k, ¬ IsOver (observation (i + 1)) :=
        fun i hi => hbefore (i + 1) (Nat.succ_lt_succ hi)
      exact .inr ⟨hbefore 0 (Nat.succ_pos k), k + 1, rfl, by omega,
        .ended (Nat.lt_of_succ_lt_succ hk) h hrest⟩
  | unfinished h =>
    exact .inr ⟨h 0 (Nat.succ_pos left), left, rfl, Iff.rfl,
      .unfinished fun i hi => h (i + 1) (Nat.succ_lt_succ hi)⟩

theorem exists_stops (requestId : String) (attempts left : Nat)
    (observation : Nat → Except Error Observation) :
    ∃ n r, n ≤ left ∧ Stops requestId attempts left observation n r := by
  by_cases h : ∃ k, k < left ∧ IsOver (observation k)
  · obtain ⟨hk, hover⟩ := Nat.find_spec h
    exact ⟨_, _, hk, .ended hk hover fun i hi hi' =>
      Nat.find_min h hi ⟨Nat.lt_trans hi hk, hi'⟩⟩
  · exact ⟨left, _, Nat.le_refl left, .unfinished fun i hi hi' => h ⟨i, hi, hi'⟩⟩

/-! ## Steps -/

variable {requestId : String} {polling : Polling} {observe : Operation Q A Observation}
  {remote : Remote σ Q A} {s : σ} {attempt left : Nat}

theorem pollFrom_of_over (h : IsOver (observe.against remote s).result) :
    (pollFrom requestId polling observe attempt (left + 1)).against remote s =
      Run.follow (attemptTrace requestId polling (attempt + 1) 0 (observe.against remote s))
        ⟨conclusion requestId (observe.against remote s).result, [],
          (observe.against remote s).remote⟩ := by
  rw [pollFrom, attemptTrace, Run.follow_append]
  generalize hx : (observe.against remote s).result = x at h
  cases x with
  | error e =>
    rw [against_bind_error hx]
    exact congrArg (Run.mk _ · _) (List.append_nil _).symm
  | ok o =>
    rw [against_bind hx, conclusion, eventsAfter]
    by_cases hsuccess : o.status = "SUCCESS"
    · rw [Status.ofText_eq_succeeded.mpr hsuccess, if_pos hsuccess, if_pos hsuccess]
      rfl
    · have hfailed : o.status ∈ failures := (List.mem_cons.mp h).resolve_left hsuccess
      rw [Status.ofText_eq_failed.mpr hfailed, if_neg hsuccess, if_neg hsuccess, if_pos hfailed]
      rfl

theorem pollFrom_of_not_over (h : ¬ IsOver (observe.against remote s).result) :
    (pollFrom requestId polling observe attempt (left + 1)).against remote s =
      Run.follow (attemptTrace requestId polling (attempt + 1) left (observe.against remote s))
        ((pollFrom requestId polling observe (attempt + 1) left).against remote
          (observe.against remote s).remote) := by
  rw [pollFrom, attemptTrace, Run.follow_append]
  generalize hx : (observe.against remote s).result = x at h
  cases x with
  | error e => exact absurd trivial h
  | ok o =>
    rw [against_bind hx, eventsAfter_of_not_over h, Status.ofText_eq_pending.mpr h]
    split_ifs
    · rfl
    · rfl

section Run

variable {first more n : Nat} {fetches : Nat → Run σ Q A (Except Error Observation)}
  {run : Run σ Q A (Except Error Unit)}

theorem exchanges_attemptTrace (fetch : Run σ Q A (Except Error Observation)) :
    exchanges (attemptTrace requestId polling attempt more fetch) = fetch.exchanges := by
  rw [attemptTrace, exchanges_append, exchanges_append, exchanges_map_logged]
  split_ifs
  · exact List.append_nil _
  · exact List.append_nil _

theorem waited_attemptTrace (fetch : Run σ Q A (Except Error Observation)) :
    waited (attemptTrace requestId polling attempt more fetch) =
      fetch.elapsed + if 0 < more then polling.pause else 0 := by
  rw [attemptTrace, waited_append, waited_append, waited_map_logged, Nat.zero_add]
  split_ifs
  · rfl
  · rfl

theorem logged_attemptTrace (fetch : Run σ Q A (Except Error Observation)) :
    logged (attemptTrace requestId polling attempt more fetch) =
      fetch.events ++ eventsAfter requestId attempt fetch.result := by
  have hpause : logged (if 0 < more then [.slept polling.pause] else [] : List (Happening Q A)) =
      [] := by
    split_ifs
    · rfl
    · rfl
  rw [attemptTrace, logged_append, logged_append, logged_map_logged, hpause, List.append_nil]
  rfl

theorem takes_zero {r : Except Error Unit} : Takes requestId polling first fetches 0 ⟨r, [], s⟩ :=
  ⟨rfl, (Nat.zero_add 0).symm, rfl⟩

theorem Takes.succ (h : Takes requestId polling (first + 1) (fun i => fetches (i + 1)) n run)
    (hmore : 0 < more ↔ 0 < n) :
    Takes requestId polling first fetches (n + 1)
      (run.follow (attemptTrace requestId polling first more (fetches 0))) where
  exchanges := by
    rw [Run.exchanges_follow, exchanges_attemptTrace, h.exchanges, List.range_succ_eq_map,
      List.flatMap_cons, List.flatMap_map]
  elapsed := by
    have hpause : (if 0 < more then polling.pause else 0) + polling.pause * (n - 1) =
        polling.pause * n := by
      cases n with
      | zero => rw [if_neg (by omega), Nat.zero_add]
      | succ n => rw [if_pos (by omega), Nat.add_comm]; rfl
    have hsum : ((List.range (n + 1)).map fun i => (fetches i).elapsed).sum =
        (fetches 0).elapsed + ((List.range n).map fun i => (fetches (i + 1)).elapsed).sum := by
      rw [List.range_succ_eq_map, List.map_cons, List.sum_cons, List.map_map]
      rfl
    rw [Run.elapsed_follow, waited_attemptTrace, h.elapsed, hsum, Nat.add_sub_cancel]
    change _ + (polling.pause * (n - 1) + _) = polling.pause * n + _
    rw [← hpause]
    omega
  events := by
    have hnumber (i : Nat) : first + 1 + i = first + (i + 1) := by omega
    simp only [Run.events_follow, logged_attemptTrace, h.events, List.range_succ_eq_map,
      List.flatMap_cons, List.flatMap_map, hnumber]
    rfl

end Run

/-- **The run of the rest of the polls.** -/
theorem pollFrom_takes {n : Nat} {r : Except Error Unit}
    (h : Stops requestId polling.attempts left (fun i => (fetched remote observe s i).result) n r) :
    let run := (pollFrom requestId polling observe attempt left).against remote s
    run.result = r ∧ Takes requestId polling (attempt + 1) (fetched remote observe s) n run := by
  induction left generalizing attempt s n r with
  | zero =>
    cases h with
    | ended hk => cases hk
    | unfinished => exact ⟨rfl, takes_zero⟩
  | succ left ih =>
    intro run
    rcases h.of_succ with ⟨hover, rfl, rfl⟩ | ⟨hpending, m, rfl, hmore, hrest⟩
    · have hrun : run = _ := pollFrom_of_over hover
      rw [hrun]
      exact ⟨rfl, Takes.succ takes_zero Iff.rfl⟩
    · have hrun : run = _ := pollFrom_of_not_over hpending
      obtain ⟨hresult, htakes⟩ := ih hrest
      rw [hrun]
      exact ⟨hresult, Takes.succ htakes hmore⟩

/-- **The polls of a request are exact**, against any remote. They go on to the first observation
that fails or shows that the request is over, and end as it says, or there are as many of them as
are allowed. -/
theorem waitFor_exact (requestId : String) (polling : Polling) (observe : Operation Q A Observation)
    (remote : Remote σ Q A) (s : σ) :
    let fetches := fetched remote observe s
    let run := (waitFor requestId polling observe).against remote s
    (∀ k < polling.attempts, IsOver (fetches k).result →
      (∀ i < k, ¬ IsOver (fetches i).result) →
        run.result = conclusion requestId (fetches k).result ∧
          Takes requestId polling 1 fetches (k + 1) run) ∧
    ((∀ i < polling.attempts, ¬ IsOver (fetches i).result) →
      run.result = .error ⟨.requestUnfinished requestId polling.attempts, none⟩ ∧
        Takes requestId polling 1 fetches polling.attempts run) :=
  ⟨fun _ hk h hbefore => pollFrom_takes (.ended hk h hbefore),
    fun h => pollFrom_takes (.unfinished h)⟩

/-- The fetch that asks for an observation, and is answered with it or a failure. -/
def plainFetch : Operation Unit (Except Error Observation) Observation := do
  let answer ← ask ()
  liftM answer

/-- A request that fails with its third observation. -/
theorem waitFor_of_failure_at_third :
    let answers : Nat → Except Error Observation := fun k =>
      if k < 2 then .ok ⟨"RUNNING", ""⟩ else .ok ⟨"FAILED", "disk full"⟩
    let run := fun attempts => (waitFor "r" ⟨attempts, 3⟩ plainFetch).against (inTurn answers) 0
    (run 5).result = .error ⟨.requestFailed "r" "disk full", none⟩ ∧
      (run 5).exchanges.length = 3 ∧ (run 5).elapsed = 6 ∧
      (run 5).events = [pendingEvent "r" 1 "RUNNING", pendingEvent "r" 2 "RUNNING"] ∧
      (run 2).result = .error ⟨.requestUnfinished "r" 2, none⟩ ∧
      (run 2).exchanges.length = 2 ∧ (run 2).elapsed = 3 := by
  intro answers run
  obtain ⟨hfailed, htakes⟩ := (waitFor_exact "r" ⟨5, 3⟩ plainFetch (inTurn answers) 0).1 2
    (by decide) (by decide) (by decide)
  obtain ⟨hunfinished, htakes'⟩ := (waitFor_exact "r" ⟨2, 3⟩ plainFetch (inTurn answers) 0).2
    (by decide)
  exact ⟨hfailed, congrArg List.length htakes.exchanges, htakes.elapsed, htakes.events,
    hunfinished, congrArg List.length htakes'.exchanges, htakes'.elapsed⟩

/-- **A pause is never longer than thirty years**, whatever the interval. -/
theorem waitFor_of_long_interval :
    let answers : Nat → Except Error Observation := fun k =>
      if k = 0 then .ok ⟨"RUNNING", ""⟩ else .ok ⟨"SUCCESS", "x"⟩
    let run := (waitFor "r" ⟨2, 946080001⟩ plainFetch).against (inTurn answers) 0
    run.result = .ok () ∧ run.exchanges.length = 2 ∧
      run.elapsed ≠ 946080001 * (run.exchanges.length - 1) := by
  decide

end AsyncRequest

/-! ## Polls of the database service -/

theorem Api.exists_against_call {α σ : Type} (action : Action) (request : Json)
    (decode : Json → Except Issue α) (remote : Dialogue.Remote σ Call Reply) (s : σ) :
    ∃ reply e, ((Api.call action request decode).against remote s).trace =
      [.asked ⟨action, request⟩ reply, .logged e] := by
  have hasked : (Operation.against remote s (Operation.ask ⟨action, request⟩)).result =
      .ok (remote s ⟨action, request⟩).1 := rfl
  rw [Api.call, Operation.against_bind hasked]
  cases (remote s ⟨action, request⟩).1 with
  | error e => exact ⟨_, _, rfl⟩
  | ok j =>
    dsimp only
    cases decode j with
    | error issue => exact ⟨_, _, rfl⟩
    | ok a => exact ⟨_, _, rfl⟩

namespace Mysql

open Dialogue Operation AsyncRequest

variable {σ : Type} {remote : Remote σ Call Reply}

theorem fetched_observe (requestId : String) (s : σ) (k : Nat) :
    let fetch := fetched remote (observe requestId) s k
    fetch.exchanges.map Prod.fst = [poll requestId] ∧ fetch.elapsed = 0 := by
  induction k generalizing s with
  | zero =>
    intro fetch
    obtain ⟨reply, e, htrace⟩ :
        ∃ reply e, fetch.trace = [.asked (poll requestId) reply, .logged e] :=
      Api.exists_against_call _ _ _ remote s
    rw [Run.exchanges, Run.elapsed, htrace]
    exact ⟨rfl, rfl⟩
  | succ k ih => exact ih _

/-- **The time of the polls** is fixed by their number. -/
theorem elapsed_await (polling : Polling) (requestId : String) (s : σ) :
    let run := (await polling requestId).against remote s
    ∃ n ≤ polling.attempts, run.questions = List.replicate n (poll requestId) ∧
      run.elapsed = min polling.interval longestPause * (n - 1) := by
  intro run
  obtain ⟨n, r, hn, hstops⟩ := exists_stops requestId polling.attempts polling.attempts
    fun i => (fetched remote (observe requestId) s i).result
  have htakes : Takes requestId polling 1 (fetched remote (observe requestId) s) n run :=
    (pollFrom_takes hstops).2
  have hasked (i : Nat) : (fetched remote (observe requestId) s i).exchanges.map Prod.fst =
      [poll requestId] := (fetched_observe requestId s i).1
  have helapsed (i : Nat) : (fetched remote (observe requestId) s i).elapsed = 0 :=
    (fetched_observe requestId s i).2
  refine ⟨n, hn, ?_, ?_⟩
  · simp only [Run.questions_eq, htakes.exchanges, List.map_flatMap, hasked]
    rw [← List.map_eq_flatMap, List.map_const', List.length_range]
  · simp only [htakes.elapsed, helapsed]
    rw [List.map_const', List.length_range, List.sum_replicate_nat, Nat.mul_zero, Nat.add_zero]

end Mysql

end CloudProvider
