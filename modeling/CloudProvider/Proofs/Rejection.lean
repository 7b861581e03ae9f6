import CloudProvider.Proofs.Reading

/-!
# Rejected operations

An operation is rejected when a local check fails. A check may follow a look at the remote, but it
should not follow a change.

* `Operation.FailsOnly`: whether all errors of an operation are of some kind.
* `Api.CoversFailures`: whether errors of some kind are at least those that come from the remote.
* `Api.NeverRejects`: whether no check of an operation can fail.
* `Api.RejectsFirst`: whether an operation that is rejected has only looked.
* `Api.Looks.bind_rejectsFirst`, `Api.RejectsFirst.bind_neverRejects`: checks before changes.
* `Lifecycle.neverRejects_read`, `Provider.neverRejects_readBack`: reads by an address.
-/

namespace CloudProvider

namespace Operation

variable {Q A α β : Type} {P : Error → Prop}

/-- Whether every error of an operation is of some kind. -/
def FailsOnly (P : Error → Prop) (op : Operation Q A α) : Prop :=
  ∀ ex e, Yields op ex (.error e) → P e

theorem failsOnly_pure {a : α} : FailsOnly P (pure a : Operation Q A α) := by
  intro ex e h
  cases (yields_pure.mp h).2

theorem failsOnly_throw {e : Error} (he : P e) : FailsOnly P (throw e : Operation Q A α) := by
  intro ex e' h
  cases (yields_throw.mp h).2
  exact he

theorem failsOnly_log {e : Event} : FailsOnly P (log e : Operation Q A Unit) := by
  intro ex e' h
  cases (yields_log.mp h).2

theorem failsOnly_sleep {n : Nat} : FailsOnly P (sleep n : Operation Q A Unit) := by
  intro ex e h
  cases (yields_sleep.mp h).2

theorem FailsOnly.bind {op : Operation Q A α} {f : α → Operation Q A β} (h : FailsOnly P op)
    (hf : ∀ a, FailsOnly P (f a)) : FailsOnly P (op >>= f) := by
  intro ex e hy
  rcases yields_bind.mp hy with ⟨e', he, heq⟩ | ⟨_, a, ex₂, -, -, h₂⟩
  · cases heq
    exact h _ _ he
  · exact hf a _ _ h₂

theorem FailsOnly.of_bind {op : Operation Q A α} {f : α → Operation Q A β}
    (h : FailsOnly P (op >>= f)) : FailsOnly P op :=
  fun ex e hy => h ex e (yields_bind.mpr (.inl ⟨e, hy, rfl⟩))

theorem failsOnly_lift_bind {c : Except Error α} {f : α → Operation Q A β}
    (hc : ∀ e, c = .error e → P e) (hf : ∀ a, c = .ok a → FailsOnly P (f a)) :
    FailsOnly P ((liftM c : Operation Q A α) >>= f) := by
  intro ex e hy
  cases hx : c with
  | error e' =>
    cases ((yields_error_bind hx).mp hy).2
    exact hc e hx
  | ok a => exact hf a hx ex e ((yields_ok_bind hx).mp hy)

theorem FailsOnly.onResource {R : Error → Prop} {op : Operation Q A α} (h : FailsOnly P op)
    {id : ResourceId} (hR : ∀ e, P e → R (e.forResource id)) : FailsOnly R (op.onResource id) := by
  intro ex e hy
  obtain ⟨x, hx, hr⟩ := yields_onResource.mp hy
  cases x with
  | ok a => cases hr
  | error e' =>
    obtain rfl := Except.error.inj hr
    exact hR e' (h _ _ hx)

end Operation

open Operation

namespace Api

variable {α β : Type}

theorem failsOnly_iff {P : Error → Prop} {op : Api α} :
    FailsOnly P op ↔ ∀ (σ : Type) (remote : Dialogue.Remote σ Call Reply) (start : σ) (e : Error),
      (op.against remote start).result = .error e → P e := by
  constructor
  · intro h σ remote start e he
    exact h _ e (he ▸ yields_against remote start op)
  · intro h ex e hy
    exact h _ _ _ e (hy.exists_against fun _ => .ok .null).2

/-- **Whether no local check of an operation can fail.** -/
def NeverRejects (op : Api α) : Prop := ∀ ex e, Yields op ex (.error e) → e.isInvalid = false

/-- Whether errors of some kind are at least those that do not come from a local check, as long as
they name no resource. -/
def CoversFailures (P : Error → Prop) : Prop := ∀ e, e.isInvalid = false → e.resource = none → P e

theorem coversFailures_valid : CoversFailures fun e => e.isInvalid = false := fun _ he _ => he

/-- **Whether a local check of an operation can only fail before the first change.** -/
def RejectsFirst (op : Api α) : Prop :=
  ∀ ex e, Yields op ex (.error e) → e.isInvalid = true → ∀ x ∈ ex, x.1.action.isDescribing = true

/-! ## Operations without a check -/

theorem ifNotFound_eq_error {service : Service} {absent : α} {x : Except Error α} {e : Error}
    (h : ifNotFound service absent x = .error e) : x = .error e := by
  cases x with
  | ok a => cases h
  | error e' =>
    rw [ifNotFound] at h
    split_ifs at h
    exact h

theorem failsOnly_orIfNotFound {P : Error → Prop} {service : Service} {op : Api α} {absent : α}
    (h : FailsOnly P op) : FailsOnly P (orIfNotFound service op absent) := by
  intro ex e hy
  obtain ⟨x, hx, he⟩ := yields_orIfNotFound.mp hy
  exact h ex e (ifNotFound_eq_error he.symm ▸ hx)

theorem failsOnly_acceptGone {P : Error → Prop} {service : Service} {op : Api Unit}
    (h : FailsOnly P op) : FailsOnly P (acceptGone service op) := by
  intro ex e hy
  obtain ⟨x, hx, he⟩ := yields_acceptGone.mp hy
  exact h ex e (ifNotFound_eq_error he.symm ▸ hx)

theorem failsOnly_removal {P : Error → Prop} {look : Api (Option α)} {rest : Option α → Api Unit}
    (hlook : FailsOnly P look) (hnone : rest none = pure ())
    (hsome : ∀ a, FailsOnly P (rest (some a))) : FailsOnly P (look >>= rest) := by
  refine FailsOnly.bind hlook fun found => ?_
  cases found with
  | none =>
    rw [hnone]
    exact failsOnly_pure
  | some a => exact hsome a

theorem failsOnly_optional {P : Error → Prop} {p : Prop} [Decidable p] {change rest : Api Unit}
    (hchange : FailsOnly P change) (hrest : FailsOnly P rest) :
    FailsOnly P (do
      if p then change
      rest) := by
  dsimp only
  split_ifs
  · exact FailsOnly.bind hchange fun _ => hrest
  · exact hrest

theorem isInvalid_of_outcomeOf {action : Action} {decode : Json → Except Issue α} {reply : Reply}
    {e : Error} (h : outcomeOf action decode reply = .error e) : e.isInvalid = false := by
  obtain ⟨reported, -, rfl⟩ | ⟨j, issue, -, -, rfl⟩ := outcomeOf_eq_error h
  · rfl
  · rfl

theorem failsOnly_call {P : Error → Prop} (hP : CoversFailures P) {action : Action}
    {request : Json} {decode : Json → Except Issue α} :
    FailsOnly P (call action request decode) := by
  intro ex e h
  obtain ⟨reply, -, h⟩ := yields_call.mp h
  obtain ⟨reported, -, rfl⟩ | ⟨j, issue, -, -, rfl⟩ := outcomeOf_eq_error h.symm
  · exact hP _ rfl rfl
  · exact hP _ rfl rfl

theorem neverRejects_call {action : Action} {request : Json} {decode : Json → Except Issue α} :
    NeverRejects (call action request decode) :=
  failsOnly_call coversFailures_valid

/-! ## Checks before changes -/

theorem NeverRejects.rejectsFirst {op : Api α} (h : NeverRejects op) : RejectsFirst op := by
  intro ex e hy he
  rw [h ex e hy] at he
  cases he

theorem Looks.rejectsFirst {op : Api α} (h : Looks op) : RejectsFirst op :=
  fun ex _ hy _ => h ex _ hy

theorem Looks.bind_rejectsFirst {op : Api α} {f : α → Api β} (h : Looks op)
    (hf : ∀ a, RejectsFirst (f a)) : RejectsFirst (op >>= f) := by
  intro ex e hy he x hx
  rcases yields_bind.mp hy with ⟨e', hop, -⟩ | ⟨ex₁, a, ex₂, rfl, h₁, h₂⟩
  · exact h _ _ hop x hx
  · rcases List.mem_append.mp hx with hx | hx
    · exact h _ _ h₁ x hx
    · exact hf a _ _ h₂ he x hx

theorem RejectsFirst.bind_neverRejects {op : Api α} {f : α → Api β} (h : RejectsFirst op)
    (hf : ∀ ex a, Yields op ex (.ok a) → NeverRejects (f a)) : RejectsFirst (op >>= f) := by
  intro ex e hy he
  rcases yields_bind.mp hy with ⟨e', hop, heq⟩ | ⟨ex₁, a, ex₂, rfl, h₁, h₂⟩
  · cases heq
    exact h _ _ hop he
  · rw [hf _ a h₁ _ _ h₂] at he
    cases he

theorem rejectsFirst_lift_bind {c : Except Error α} {f : α → Api β}
    (hf : ∀ a, c = .ok a → RejectsFirst (f a)) : RejectsFirst ((liftM c : Api α) >>= f) := by
  intro ex e hy
  cases hc : c with
  | error _ =>
    obtain ⟨rfl, -⟩ := (yields_error_bind hc).mp hy
    exact fun _ _ hx => absurd hx List.not_mem_nil
  | ok a => exact hf a hc ex e ((yields_ok_bind hc).mp hy)

/-- **An operation rejects first** if it does against every remote. -/
theorem rejectsFirst_iff {op : Api α} :
    RejectsFirst op ↔ ∀ (σ : Type) (remote : Dialogue.Remote σ Call Reply) (start : σ),
      let run := op.against remote start
      ∀ e, run.result = .error e → e.isInvalid = true →
        ∀ q ∈ run.questions, q.action.isDescribing = true := by
  constructor
  · intro h σ remote start run e hresult he q hq
    rw [Dialogue.Run.questions_eq] at hq
    obtain ⟨x, hx, rfl⟩ := List.mem_map.mp hq
    exact h _ e (hresult ▸ yields_against remote start op) he x hx
  · intro h ex e hy he x hx
    obtain ⟨hexchanges, hresult⟩ := hy.exists_against fun _ => .ok .null
    refine h _ _ _ e hresult he x.1 ?_
    rw [Dialogue.Run.questions_eq, hexchanges]
    exact List.mem_map_of_mem hx

theorem RejectsFirst.onResource {op : Api α} (h : RejectsFirst op) (id : ResourceId) :
    RejectsFirst (op.onResource id) := by
  intro ex e hy he
  obtain ⟨x, hx, hr⟩ := yields_onResource.mp hy
  cases x with
  | ok a => cases hr
  | error e' =>
    obtain rfl := Except.error.inj hr
    exact h _ _ hx he

end Api

open Api

/-! ## Look-ups -/

namespace Listing

variable {α : Type} {pageSize : UInt64}

theorem Paged.exists_error {Q A : Type} {bound : Option Nat} {question : Cursor → Q}
    {read : A → Except Error (Page α)} {offset : Nat} {ex : List (Q × A)}
    {r : Except Error (List α)} (h : Paged pageSize bound question read offset ex r) {e : Error}
    (hr : r = .error e) : ∃ a, read a = .error e := by
  induction h with
  | failed h =>
    obtain rfl := Except.error.inj hr
    exact ⟨_, h⟩
  | last _ _ => cases hr
  | @more _ _ _ _ r _ _ _ ih =>
    cases r with
    | ok items => cases hr
    | error e' => exact ih (congrArg Except.error (Except.error.inj hr))

theorem neverRejects_all (hp : pageSize ≠ 0) {action : Action} {request : Cursor → Json}
    {decode : Json → Except Issue (Page α)} :
    NeverRejects (all pageSize fun c => call action (request c) decode) := by
  intro ex e hy
  obtain ⟨_, he⟩ := ((yields_all (fun _ _ _ => yields_call) hp).mp hy).exists_error rfl
  exact isInvalid_of_outcomeOf he

end Listing

theorem Lookup.failsOnly_unique {P : Error → Prop} (hP : CoversFailures P) {α : Type}
    {entity key : String} {candidates : List α} :
    FailsOnly P (unique entity key candidates : Api (Option α)) := by
  match candidates with
  | [] => exact failsOnly_pure
  | [a] => exact failsOnly_pure
  | a :: b :: rest => exact FailsOnly.bind failsOnly_log fun _ => failsOnly_throw (hP _ rfl rfl)

theorem Lookup.failsOnly_listed {P : Error → Prop} (hP : CoversFailures P) {α : Type}
    {service : Service} {entity key : String} {op : Api (List α)} (h : FailsOnly P op) :
    FailsOnly P (orIfNotFound service op [] >>= unique entity key) :=
  FailsOnly.bind (failsOnly_orIfNotFound h) fun _ => failsOnly_unique hP

theorem Lookup.neverRejects_listed {α : Type} {service : Service} {entity key : String}
    {op : Api (List α)} (h : NeverRejects op) :
    NeverRejects (orIfNotFound service op [] >>= unique entity key) :=
  failsOnly_listed coversFailures_valid h

theorem Network.neverRejects_uniqueRouteTable {pageSize : UInt64} (hp : pageSize ≠ 0)
    {id : String} {vpcId : Option String} : NeverRejects (uniqueRouteTable pageSize id vpcId) :=
  Lookup.neverRejects_listed (Listing.neverRejects_all hp)

/-! ## Requests that were taken on -/

namespace Mysql

section Requests

variable {P : Error → Prop} (hP : CoversFailures P)

include hP

theorem failsOnly_requested {action : Action} {request : Json} :
    FailsOnly P (requested action request) := by
  refine FailsOnly.bind (failsOnly_call hP) fun id => ?_
  split_ifs
  · exact failsOnly_throw (hP _ rfl rfl)
  · exact failsOnly_pure

theorem failsOnly_await {polling : AsyncRequest.Polling} {requestId : String} :
    FailsOnly P (await polling requestId) := by
  have hpoll : ∀ left attempt, FailsOnly P
      (AsyncRequest.pollFrom requestId polling (observe requestId) attempt left) := by
    intro left
    induction left with
    | zero => exact fun _ => failsOnly_throw (hP _ rfl rfl)
    | succ left ih =>
      intro attempt
      refine FailsOnly.bind (failsOnly_call hP) fun o => ?_
      dsimp only
      split
      · exact failsOnly_log
      · exact failsOnly_throw (hP _ rfl rfl)
      · refine FailsOnly.bind failsOnly_log fun _ => ?_
        split_ifs
        · exact FailsOnly.bind failsOnly_sleep fun _ => ih _
        · exact ih _
  exact hpoll _ _

end Requests

theorem neverRejects_requested {action : Action} {request : Json} :
    NeverRejects (requested action request) :=
  failsOnly_requested coversFailures_valid

end Mysql

/-! ## Reads by an address -/

namespace Lifecycle

variable {settings : Settings}

theorem failsOnly_finish {P : Error → Prop} (hP : CoversFailures P) {change : Api String}
    (h : FailsOnly P change) : FailsOnly P (finish settings change) :=
  FailsOnly.bind h fun _ => Mysql.failsOnly_await hP

theorem neverRejects_finish {change : Api String} (h : NeverRejects change) :
    NeverRejects (finish settings change) :=
  failsOnly_finish coversFailures_valid h

/-- **A read is only rejected for its identifier.** -/
theorem neverRejects_read (hp : settings.pageSize ≠ 0) {kind : LifecycleKind} {s : String}
    (hs : kind.IsAddress s) : NeverRejects ((kind.lifecycle settings).read s) := by
  intro ex e hy
  generalize hr : (Except.error e : Except Error (Option Attributes)) = r at hy
  cases concludes_read hp kind hy with
  | noAddress hs' => exact absurd hs hs'
  | failed _ hb =>
    obtain ⟨_, x, -, -, hx⟩ := hb
    obtain rfl := Except.error.inj (ifNotFound_eq_error hr.symm)
    exact isInvalid_of_outcomeOf (errorOf?_eq_some.mp hx)
  | found _ _ _ =>
    rw [Finding.settle_eq_error hr.symm]
    rfl

end Lifecycle

namespace Provider

variable {settings : Settings}

/-- **What was changed is read back without a check.** -/
theorem neverRejects_readBack (hp : settings.pageSize ≠ 0) {kind : LifecycleKind}
    {desired : Resource} {s : String} (hs : kind.IsAddress s) :
    NeverRejects (readBack kind.schema (kind.lifecycle settings) desired s) := by
  refine FailsOnly.bind (Lifecycle.neverRejects_read hp hs) fun attributes => ?_
  cases attributes with
  | none => exact failsOnly_throw rfl
  | some _ => exact failsOnly_pure

theorem yields_logFailure {α : Type} {message : String} {id : ResourceId} {op : Api α}
    {ex : List (Call × Reply)} {r : Except Error α} :
    Yields (logFailure message id op) ex r ↔ Yields op ex r := by
  refine (yields_outcome_bind (g := fun x => x) ?_).trans ?_
  · intro x ex r
    cases x with
    | ok a => exact yields_pure
    | error e => exact yields_log_bind.trans yields_throw
  · simp only [exists_eq_right']

theorem failsOnly_logFailure {α : Type} {P : Error → Prop} {message : String} {id : ResourceId}
    {op : Api α} (h : FailsOnly P op) : FailsOnly P (logFailure message id op) :=
  fun ex e hy => h ex e (yields_logFailure.mp hy)

theorem looks_logFailure {α : Type} {message : String} {id : ResourceId} {op : Api α}
    (h : Looks op) : Looks (logFailure message id op) :=
  fun ex r hy => h ex r (yields_logFailure.mp hy)

end Provider

end CloudProvider
