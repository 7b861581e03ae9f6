import CloudProvider.Catalog.Kind
import CloudProvider.Lifecycle.Mysql
import CloudProvider.Proofs.Answer
import CloudProvider.Proofs.Exec

/-!
# The polls of a request

A request that was taken on is polled until a poll decides about it, and no more often than the
settings allow.

* `AsyncRequest.verdict?`: what one poll decides.
* `AsyncRequest.Polled`, **`AsyncRequest.yields_waitFor`**: the polls of a request are undecided up
  to the last.
* `Mysql.IsPoll`, `Mysql.Awaited`: polls of a request, and those that end with its success.
* `Mysql.started`, **`Lifecycle.yields_finish`**: a change and the polls of its request.
-/

namespace CloudProvider

open Operation Api

namespace AsyncRequest

/-! ## Statuses -/

/-- The statuses of a request that is over without success. -/
def failures : List String := ["FAILED", "KILLED", "REMOVED"]

/-- The statuses of a request that is over. -/
def finalStatuses : List String := "SUCCESS" :: failures

namespace Status

theorem ofText_eq_succeeded {s : String} : ofText s = .succeeded ↔ s = "SUCCESS" := by
  rw [ofText]
  split_ifs with h₁ h₂
  · simp [h₁]
  · simp [h₁]
  · simp [h₁]

theorem ofText_eq_failed {s : String} : ofText s = .failed ↔ s ∈ failures := by
  rw [ofText]
  split_ifs with h₁ h₂
  · simp [h₁, failures]
  · simpa [failures] using h₂
  · simpa [failures] using h₂

theorem ofText_eq_pending {s : String} : ofText s = .pending ↔ s ∉ finalStatuses := by
  rw [finalStatuses, List.mem_cons, not_or, ← ofText_eq_succeeded, ← ofText_eq_failed]
  cases ofText s <;> simp

end Status

/-! ## What a poll decides -/

/-- **What a poll decides about a request**, if it does: a failed poll ends the polls like a final
status. -/
def verdict? (requestId : String) : Except Error Observation → Option (Except Error Unit)
  | .error e => some (.error e)
  | .ok o =>
    match Status.ofText o.status with
    | .succeeded => some (.ok ())
    | .failed => some (.error ⟨.requestFailed requestId o.info, none⟩)
    | .pending => none

variable {requestId : String} {x : Except Error Observation}

theorem verdict?_eq_none :
    verdict? requestId x = none ↔ ∃ o, x = .ok o ∧ o.status ∉ finalStatuses := by
  cases x with
  | error e => simp [verdict?]
  | ok o =>
    simp only [verdict?, Except.ok.injEq, exists_eq_left', ← Status.ofText_eq_pending]
    cases Status.ofText o.status <;> simp

theorem verdict?_eq_ok :
    verdict? requestId x = some (.ok ()) ↔ ∃ o, x = .ok o ∧ o.status = "SUCCESS" := by
  cases x with
  | error e => simp [verdict?]
  | ok o =>
    simp only [verdict?, Except.ok.injEq, exists_eq_left', ← Status.ofText_eq_succeeded]
    cases Status.ofText o.status <;> simp

theorem verdict?_eq_error {e : Error} :
    verdict? requestId x = some (.error e) ↔ x = .error e ∨
      ∃ o, x = .ok o ∧ o.status ∈ failures ∧ e = ⟨.requestFailed requestId o.info, none⟩ := by
  cases x with
  | error e => simp [verdict?]
  | ok o =>
    simp only [verdict?, Except.ok.injEq, exists_eq_left', ← Status.ofText_eq_failed]
    cases Status.ofText o.status <;> simp [eq_comm]

/-! ## Polls up to a verdict -/

variable {Q A : Type}

/-- Whether an exchange is a poll that decides nothing. -/
def Undecided (requestId : String) (question : Q) (read : A → Except Error Observation)
    (x : Q × A) : Prop :=
  x.1 = question ∧ verdict? requestId (read x.2) = none

/-- **The polls of a request**, of which `left` are allowed: the last one decides, or none does. -/
inductive Polled (requestId : String) (attempts : Nat) (question : Q)
    (read : A → Except Error Observation) (left : Nat) : List (Q × A) → Except Error Unit → Prop
  | decided {waiting : List (Q × A)} {a : A} {r : Except Error Unit}
      (hw : ∀ x ∈ waiting, Undecided requestId question read x) (hl : waiting.length < left)
      (h : verdict? requestId (read a) = some r) :
      Polled requestId attempts question read left (waiting ++ [(question, a)]) r
  | unfinished {waiting : List (Q × A)} (hw : ∀ x ∈ waiting, Undecided requestId question read x)
      (hl : waiting.length = left) :
      Polled requestId attempts question read left waiting
        (.error ⟨.requestUnfinished requestId attempts, none⟩)

namespace Polled

variable {attempts left : Nat} {question : Q} {read : A → Except Error Observation}
  {ex : List (Q × A)} {r : Except Error Unit}

theorem zero_iff : Polled requestId attempts question read 0 ex r ↔
    ex = [] ∧ r = .error ⟨.requestUnfinished requestId attempts, none⟩ := by
  constructor
  · rintro (⟨-, hl, -⟩ | ⟨-, hl⟩)
    · omega
    · exact ⟨List.length_eq_zero_iff.mp hl, rfl⟩
  · rintro ⟨rfl, rfl⟩
    exact .unfinished (fun _ h => absurd h List.not_mem_nil) rfl

theorem decided_singleton {a : A} (hl : 0 < left) (h : verdict? requestId (read a) = some r) :
    Polled requestId attempts question read left [(question, a)] r := by
  have hw : ∀ x ∈ ([] : List (Q × A)), Undecided requestId question read x :=
    fun _ hx => absurd hx List.not_mem_nil
  exact .decided hw hl h

theorem cons {a : A} (h : Polled requestId attempts question read left ex r)
    (ha : verdict? requestId (read a) = none) :
    Polled requestId attempts question read (left + 1) ((question, a) :: ex) r := by
  cases h with
  | @decided waiting b r hw hl h =>
    have hw : ∀ x ∈ (question, a) :: waiting, Undecided requestId question read x :=
      List.forall_mem_cons.mpr ⟨⟨rfl, ha⟩, hw⟩
    exact .decided hw (Nat.succ_lt_succ hl) h
  | @unfinished waiting hw hl =>
    exact .unfinished (List.forall_mem_cons.mpr ⟨⟨rfl, ha⟩, hw⟩) (congrArg Nat.succ hl)

theorem succ_iff : Polled requestId attempts question read (left + 1) ex r ↔
    ∃ a ex', ex = (question, a) :: ex' ∧
      (verdict? requestId (read a) = some r ∧ ex' = [] ∨
        verdict? requestId (read a) = none ∧
          Polled requestId attempts question read left ex' r) := by
  constructor
  · intro h
    cases h with
    | @decided waiting a r hw hl h =>
      cases waiting with
      | nil => exact ⟨a, [], rfl, .inl ⟨h, rfl⟩⟩
      | cons x waiting =>
        obtain ⟨⟨hx, hb⟩, hw⟩ := List.forall_mem_cons.mp hw
        refine ⟨x.2, waiting ++ [(question, a)], by rw [← hx, List.cons_append], .inr ⟨hb, ?_⟩⟩
        exact .decided hw (Nat.lt_of_succ_lt_succ hl) h
    | unfinished hw hl =>
      cases ex with
      | nil => cases hl
      | cons x waiting =>
        obtain ⟨⟨hx, hb⟩, hw⟩ := List.forall_mem_cons.mp hw
        exact ⟨x.2, waiting, by rw [← hx], .inr ⟨hb, .unfinished hw (Nat.succ.inj hl)⟩⟩
  · rintro ⟨a, _, rfl, ⟨h, rfl⟩ | ⟨ha, hrest⟩⟩
    · exact decided_singleton (Nat.succ_pos left) h
    · exact hrest.cons ha

end Polled

variable {polling : Polling} {question : Q} {read : A → Except Error Observation}
  {observe : Operation Q A Observation} {ex : List (Q × A)} {r : Except Error Unit}

theorem yields_pollFrom
    (ho : ∀ ex r, Yields observe ex r ↔ ∃ a, ex = [(question, a)] ∧ r = read a)
    (attempt left : Nat) (ex : List (Q × A)) (r : Except Error Unit) :
    Yields (pollFrom requestId polling observe attempt left) ex r ↔
      Polled requestId polling.attempts question read left ex r := by
  induction left generalizing attempt ex r with
  | zero =>
    rw [pollFrom, Polled.zero_iff]
    exact yields_throw
  | succ left ih =>
    rw [pollFrom, Polled.succ_iff, yields_bind]
    -- What follows an observation is its verdict, or the other polls.
    have hnext : ∀ (o : Observation) (ex : List (Q × A)), Yields (match Status.ofText o.status with
        | .succeeded => log (succeededEvent requestId (attempt + 1))
        | .failed => throw ⟨.requestFailed requestId o.info, none⟩
        | .pending => do
          log (pendingEvent requestId (attempt + 1) o.status)
          if 0 < left then sleep polling.pause
          pollFrom requestId polling observe (attempt + 1) left) ex r ↔
        verdict? requestId (.ok o) = some r ∧ ex = [] ∨
          verdict? requestId (.ok o) = none ∧
            Polled requestId polling.attempts question read left ex r := by
      intro o ex
      rw [verdict?]
      cases Status.ofText o.status with
      | succeeded => simp [eq_comm, and_comm]
      | failed => simp [eq_comm, and_comm]
      | pending =>
        simp only [yields_log_bind, reduceCtorEq, false_and, true_and, false_or]
        split_ifs
        · exact yields_sleep_bind.trans (ih _ _ _)
        · exact ih _ _ _
    constructor
    · rintro (⟨e, h, rfl⟩ | ⟨_, o, ex₂, rfl, h, h₂⟩)
      · obtain ⟨a, rfl, ha⟩ := (ho _ _).mp h
        exact ⟨a, [], rfl, .inl ⟨by rw [← ha, verdict?], rfl⟩⟩
      · obtain ⟨a, rfl, ha⟩ := (ho _ _).mp h
        exact ⟨a, ex₂, rfl, ha ▸ (hnext o ex₂).mp h₂⟩
    · rintro ⟨a, ex', rfl, h⟩
      cases ha : read a with
      | error e =>
        rw [ha, verdict?] at h
        obtain ⟨⟨⟩, rfl⟩ := h.resolve_right fun h => nomatch h.1
        exact .inl ⟨e, (ho _ _).mpr ⟨a, rfl, ha.symm⟩, rfl⟩
      | ok o =>
        rw [ha] at h
        exact .inr ⟨_, o, ex', rfl, (ho _ _).mpr ⟨a, rfl, ha.symm⟩, (hnext o ex').mpr h⟩

/-- **The courses of the polls of a request.** -/
theorem yields_waitFor
    (ho : ∀ ex r, Yields observe ex r ↔ ∃ a, ex = [(question, a)] ∧ r = read a) :
    Yields (waitFor requestId polling observe) ex r ↔
      Polled requestId polling.attempts question read polling.attempts ex r :=
  yields_pollFrom ho 0 polling.attempts ex r

end AsyncRequest

/-! ## Polls of the database service -/

namespace Mysql

open AsyncRequest

/-- The question of a poll. -/
def poll (requestId : String) : Call :=
  ⟨.describeAsyncRequestInfo, Json.object [("AsyncRequestId", .str requestId)]⟩

theorem poll_inj {id id' : String} (h : poll id = poll id') : id = id' := by
  simpa [poll, Json.object, Fields.ofList, Fields.insert] using h

/-- What the answer to a poll shows. -/
def observed : Reply → Except Error Observation := answer .describeAsyncRequestInfo

/-- **Whether an exchange is a poll of a request** that shows an observation. -/
def IsPoll (requestId : String) (o : Observation) (x : Call × Reply) : Prop :=
  x.1 = poll requestId ∧ observed x.2 = .ok o

/-- Whether an exchange is a poll that shows a request that is not over. -/
def IsPending (requestId : String) (x : Call × Reply) : Prop :=
  ∃ o, IsPoll requestId o x ∧ o.status ∉ finalStatuses

/-- **Whether some polls follow a request to its success**: at least one and no more than are
allowed, pending up to the last. -/
def Awaited (attempts : Nat) (requestId : String) (polls : List (Call × Reply)) : Prop :=
  ∃ waiting last o, polls = waiting ++ [last] ∧ polls.length ≤ attempts ∧
    (∀ x ∈ waiting, IsPending requestId x) ∧ IsPoll requestId o last ∧ o.status = "SUCCESS"

variable {attempts : Nat} {requestId : String} {polls : List (Call × Reply)}
  {r : Except Error Unit}

theorem undecided_iff {x : Call × Reply} :
    Undecided requestId (poll requestId) observed x ↔
      IsPending requestId x := by
  simp only [Undecided, IsPending, IsPoll, verdict?_eq_none, and_assoc, exists_and_left]

/-- The polls of a request of the database service. -/
abbrev Polls (attempts : Nat) (requestId : String) :
    List (Call × Reply) → Except Error Unit → Prop :=
  Polled requestId attempts (poll requestId) observed attempts

theorem yields_await {polling : Polling} :
    Yields (await polling requestId) polls r ↔ Polls polling.attempts requestId polls r :=
  yields_waitFor fun _ _ => yields_call

/-- **Polls go well** if they come to a success. -/
theorem polls_ok_iff :
    Polls attempts requestId polls (.ok ()) ↔ Awaited attempts requestId polls := by
  constructor
  · intro h
    generalize hr : (Except.ok () : Except Error Unit) = r at h
    cases h with
    | @decided waiting a r hw hl h =>
      obtain ⟨o, ha, ho⟩ := verdict?_eq_ok.mp (hr ▸ h)
      refine ⟨waiting, _, o, rfl, ?_, fun x hx => undecided_iff.mp (hw x hx), ⟨rfl, ha⟩, ho⟩
      rw [List.length_append]
      exact hl
    | unfinished _ _ => cases hr
  · rintro ⟨waiting, ⟨q, a⟩, o, rfl, hl, hw, ⟨rfl, ha⟩, ho⟩
    rw [List.length_append] at hl
    exact .decided (fun x hx => undecided_iff.mpr (hw x hx)) hl (verdict?_eq_ok.mpr ⟨o, ha, ho⟩)

/-! ## Changes that are taken on -/

/-- The request that a change has started, by the answer to it. -/
def started (action : Action) (reply : Reply) : Except Error String :=
  outcomeOf action Mysql.requestId reply >>= fun id =>
    if id = "" then .error (.malformed s!"{action.name} returned no AsyncRequestId") else .ok id

theorem started_eq_ok {action : Action} {reply : Reply} {id : String} :
    started action reply = .ok id ↔
      ∃ j, reply = .ok j ∧ Mysql.requestId j = .ok id ∧ id ≠ "" := by
  have hread : outcomeOf action Mysql.requestId reply = .ok id ↔
      ∃ j, reply = .ok j ∧ Mysql.requestId j = .ok id := by
    cases reply with
    | error e => simp [outcomeOf]
    | ok j => cases hj : Mysql.requestId j <;> simp [outcomeOf, hj, Except.mapError]
  simp only [started, except_bind_eq_ok]
  constructor
  · rintro ⟨id', hid, h⟩
    split_ifs at h with hne
    obtain rfl := Except.ok.inj h
    obtain ⟨j, rfl, hj⟩ := hread.mp hid
    exact ⟨j, rfl, hj, hne⟩
  · rintro ⟨j, rfl, hj, hne⟩
    exact ⟨id, hread.mpr ⟨j, rfl, hj⟩, if_neg hne⟩

theorem started_eq_error {action : Action} {j : Json} {e : Error}
    (h : started action (.ok j) = .error e) : ∃ m, e = ⟨.malformed m, none⟩ := by
  rw [started, outcomeOf] at h
  cases hj : Mysql.requestId j with
  | error issue =>
    rw [hj] at h
    exact ⟨_, (Except.error.inj h).symm⟩
  | ok id =>
    rw [hj] at h
    change (if id = "" then _ else _) = _ at h
    split_ifs at h
    exact ⟨_, (Except.error.inj h).symm⟩

theorem started_error {action : Action} (e : ApiError) :
    started action (.error e) = .error ⟨.remote e, none⟩ := rfl

theorem yields_requested {action : Action} {request : Json} {ex : List (Call × Reply)}
    {r : Except Error String} :
    Yields (requested action request) ex r ↔
      ∃ reply, ex = [(⟨action, request⟩, reply)] ∧ r = started action reply := by
  rw [requested, yields_bind_silent (g := fun id => if id = "" then
    .error (.malformed s!"{action.name} returned no AsyncRequestId") else .ok id)]
  · constructor
    · rintro ⟨x, hx, rfl⟩
      obtain ⟨reply, rfl, rfl⟩ := yields_call.mp hx
      exact ⟨reply, rfl, rfl⟩
    · rintro ⟨reply, rfl, rfl⟩
      exact ⟨_, yields_call.mpr ⟨reply, rfl, rfl⟩, rfl⟩
  · intro id ex r
    split_ifs
    · exact yields_throw
    · exact yields_pure

/-- **A change and the polls of its request**, if it has started one. -/
inductive Concluded (attempts : Nat) (change : Call) :
    List (Call × Reply) → Except Error Unit → Prop
  | refused {reply : Reply} {e : Error} (h : started change.action reply = .error e) :
      Concluded attempts change [(change, reply)] (.error e)
  | taken {reply : Reply} {id : String} {polls : List (Call × Reply)} {r : Except Error Unit}
      (h : started change.action reply = .ok id) (hp : Polls attempts id polls r) :
      Concluded attempts change ((change, reply) :: polls) r

end Mysql

/-- Whether the changes of a kind are only taken on, to be waited for. -/
def LifecycleKind.isTakenOn : LifecycleKind → Bool
  | .account | .privilege => true
  | _ => false

/-- **The courses of a change that is waited for.** -/
theorem Lifecycle.yields_finish {settings : Settings} {action : Action} {request : Json}
    {ex : List (Call × Reply)} {r : Except Error Unit} :
    Yields (finish settings (Mysql.requested action request)) ex r ↔
      Mysql.Concluded settings.polling.attempts ⟨action, request⟩ ex r := by
  rw [finish, yields_bind]
  constructor
  · rintro (⟨e, h, rfl⟩ | ⟨_, id, polls, rfl, h, hp⟩)
    · obtain ⟨reply, rfl, he⟩ := Mysql.yields_requested.mp h
      exact .refused he.symm
    · obtain ⟨reply, rfl, hid⟩ := Mysql.yields_requested.mp h
      exact .taken hid.symm (Mysql.yields_await.mp hp)
  · rintro (⟨h⟩ | ⟨h, hp⟩)
    · exact .inl ⟨_, Mysql.yields_requested.mpr ⟨_, rfl, h.symm⟩, rfl⟩
    · exact .inr ⟨[_], _, _, rfl, Mysql.yields_requested.mpr ⟨_, rfl, h.symm⟩,
        Mysql.yields_await.mpr hp⟩

end CloudProvider
