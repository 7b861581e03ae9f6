import CloudProvider.Proofs.Attributes
import CloudProvider.Proofs.Polling
import CloudProvider.Proofs.Rejection

/-!
# Changes that are waited for

A change of an account or of its privileges is only taken on. Nothing is asked or told after it
until the polls of its request have shown its success.

* `Mysql.Awaits`: whether some exchanges wait for every change among them.
* `Mysql.Awaits.append`, `Mysql.Concluded.awaits`: exchanges in a row, and those of one change.
* `Api.Patient`: whether an operation waits for its changes, whatever the answers.
* **`Provider.changes_awaited`**: creations and updates wait.
-/

namespace CloudProvider

open AsyncRequest Operation Api

namespace Mysql

variable {α β : Type} {attempts : Nat} {owner : Option ResourceId}
  {ex ex₁ ex₂ : List (Call × Reply)}

/-- **Whether exchanges with some outcome wait for every change among them.** A failure names the
resource that the operation concerns, if it knows one. -/
structure Awaits (attempts : Nat) (owner : Option ResourceId) (ex : List (Call × Reply))
    (r : Except Error α) : Prop where
  /-- A change is directly followed by the polls of its request up to its success, if anything but
  polls of it follows, or all goes well. -/
  awaited {before after : List (Call × Reply)} {c : Call} {j : Json} {id : String}
    (hex : ex = before ++ (c, .ok j) :: after) (hc : c.action.isDescribing = false)
    (hj : Mysql.requestId j = .ok id) (hid : id ≠ "")
    (h : (∃ a, r = .ok a) ∨ ∃ x ∈ after, x.1 ≠ poll id) :
    ∃ polls rest, after = polls ++ rest ∧ Awaited attempts id polls
  /-- As many polls as are allowed, none of which decides, are the last that is asked. -/
  unfinished {before waiting rest : List (Call × Reply)} {c : Call} {j : Json} {id : String}
    (hex : ex = before ++ (c, .ok j) :: (waiting ++ rest)) (hc : c.action.isDescribing = false)
    (hj : Mysql.requestId j = .ok id) (hid : id ≠ "") (hw : ∀ x ∈ waiting, IsPending id x)
    (hl : waiting.length = attempts) :
    rest = [] ∧ r = .error ⟨.requestUnfinished id attempts, owner⟩
  /-- So is a poll that shows a request that is over without success. -/
  failed {before after : List (Call × Reply)} {x : Call × Reply} {id : String} {o : Observation}
    (hex : ex = before ++ x :: after) (hx : IsPoll id o x) (ho : o.status ∈ failures) :
    after = [] ∧ r = .error ⟨.requestFailed id o.info, owner⟩
  /-- And a change whose answer gives no request. -/
  unnamed {before after : List (Call × Reply)} {c : Call} {j : Json}
    (hex : ex = before ++ (c, .ok j) :: after) (hc : c.action.isDescribing = false)
    (hj : ∀ id, Mysql.requestId j = .ok id → id = "") :
    after = [] ∧ ∃ m, r = .error ⟨.malformed m, owner⟩

/-! ## Exchanges in a row -/

theorem IsPoll.not_isPending {id : String} {o : Observation} {x : Call × Reply}
    (h : IsPoll id o x) (ho : o.status = "SUCCESS") : ¬ IsPending id x := by
  rintro ⟨o', ⟨-, hx⟩, ho'⟩
  obtain rfl := Except.ok.inj (h.2.symm.trans hx)
  exact ho' (ho ▸ List.mem_cons_self)

theorem Awaited.length_ne {id : String} {polls waiting rest rest' : List (Call × Reply)}
    (h : Awaited attempts id polls) (heq : polls ++ rest = waiting ++ rest')
    (hw : ∀ x ∈ waiting, IsPending id x) : waiting.length ≠ attempts := by
  obtain ⟨before, last, o, rfl, hlength, -, hlast, ho⟩ := h
  intro hl
  rw [List.length_append, List.length_singleton] at hlength
  have hget : waiting[before.length]? = some last := by
    have h := congrArg (fun l => l[before.length]?) heq
    simpa [List.getElem?_append, hl, show before.length < attempts by omega] using h.symm
  exact hlast.not_isPending ho (hw last (List.mem_of_getElem? hget))

theorem append_eq_append_cons {γ : Type} {ex₁ ex₂ before after : List γ} {x : γ}
    (h : ex₁ ++ ex₂ = before ++ x :: after) :
    (∃ mid, ex₁ = before ++ x :: mid ∧ after = mid ++ ex₂) ∨
      ∃ mid, ex₂ = mid ++ x :: after := by
  rcases List.append_eq_append_iff.mp h with ⟨mid, rfl, heq⟩ | ⟨mid, rfl, heq⟩
  · exact .inr ⟨mid, heq⟩
  · cases mid with
    | nil => exact .inr ⟨[], heq.symm⟩
    | cons y mid =>
      obtain ⟨rfl, rfl⟩ := List.cons.inj heq
      exact .inl ⟨mid, rfl, rfl⟩

/-- **Exchanges that wait may follow one another.** -/
theorem Awaits.append {a : α} {r : Except Error β}
    (h₁ : Awaits attempts owner ex₁ (.ok a : Except Error α)) (h₂ : Awaits attempts owner ex₂ r) :
    Awaits attempts owner (ex₁ ++ ex₂) r where
  awaited hex hc hj hid h := by
    rcases append_eq_append_cons hex with ⟨mid, rfl, rfl⟩ | ⟨mid, rfl⟩
    · obtain ⟨polls, rest, rfl, hpolls⟩ := h₁.awaited rfl hc hj hid (.inl ⟨a, rfl⟩)
      exact ⟨polls, rest ++ ex₂, List.append_assoc .., hpolls⟩
    · exact h₂.awaited rfl hc hj hid h
  unfinished hex hc hj hid hw hl := by
    rcases append_eq_append_cons hex with ⟨mid, rfl, heq⟩ | ⟨mid, rfl⟩
    · -- The first ones went well, so that not all polls that are allowed were pending.
      obtain ⟨polls, rest, rfl, hpolls⟩ := h₁.awaited rfl hc hj hid (.inl ⟨a, rfl⟩)
      rw [List.append_assoc] at heq
      exact absurd hl (hpolls.length_ne heq.symm hw)
    · exact h₂.unfinished rfl hc hj hid hw hl
  failed hex hx ho := by
    rcases append_eq_append_cons hex with ⟨mid, rfl, -⟩ | ⟨mid, rfl⟩
    · cases (h₁.failed rfl hx ho).2
    · exact h₂.failed rfl hx ho
  unnamed hex hc hj := by
    rcases append_eq_append_cons hex with ⟨mid, rfl, -⟩ | ⟨mid, rfl⟩
    · obtain ⟨-, m, hm⟩ := h₁.unnamed rfl hc hj
      cases hm
    · exact h₂.unnamed rfl hc hj

/-! ## The exchanges of one change -/

theorem cons_eq_append_cons {before after : List (Call × Reply)} {x y : Call × Reply}
    (h : y :: ex = before ++ x :: after) :
    x = y ∧ after = ex ∨ ∃ mid, ex = mid ++ x :: after := by
  cases before with
  | nil =>
    obtain ⟨rfl, rfl⟩ := List.cons.inj h
    exact .inl ⟨rfl, rfl⟩
  | cons z before =>
    obtain ⟨-, rfl⟩ := List.cons.inj h
    exact .inr ⟨before, rfl⟩

section Polls

variable {id : String} {polls : List (Call × Reply)} {r : Except Error Unit}

theorem question_of_mem_polls (h : Polls attempts id polls r) {x : Call × Reply} (hx : x ∈ polls) :
    x.1 = poll id := by
  cases h with
  | decided hw _ _ =>
    rcases List.mem_append.mp hx with hx | hx
    · exact (hw x hx).1
    · rw [List.mem_singleton.mp hx]
  | unfinished hw _ => exact (hw x hx).1

theorem isDescribing_of_mem_polls (h : Polls attempts id polls r) {x : Call × Reply}
    (hx : x ∈ polls) : x.1.action.isDescribing = true := by
  rw [question_of_mem_polls h hx]
  rfl

theorem polls_unfinished {waiting rest : List (Call × Reply)}
    (h : Polls attempts id (waiting ++ rest) r) (hw : ∀ x ∈ waiting, IsPending id x)
    (hl : waiting.length = attempts) :
    rest = [] ∧ r = .error ⟨.requestUnfinished id attempts, none⟩ := by
  generalize hpolls : waiting ++ rest = polls at h
  have hlength := congrArg List.length hpolls
  rw [List.length_append] at hlength
  cases h with
  | @decided before a r _ hlt h =>
    rw [List.length_append, List.length_singleton] at hlength
    obtain rfl := List.length_eq_zero_iff.mp (show rest.length = 0 by omega)
    rw [List.append_nil] at hpolls
    have hlast := undecided_iff.mpr (hw (poll id, a) (hpolls ▸ List.mem_append_right _
      (List.mem_singleton.mpr rfl)))
    cases hlast.2.symm.trans h
  | unfinished _ hl' => exact ⟨List.length_eq_zero_iff.mp (by omega), rfl⟩

/-- **A poll that shows a failure is the last one.** -/
theorem polls_failed {before after : List (Call × Reply)} {x : Call × Reply} {id' : String}
    {o : Observation} (h : Polls attempts id (before ++ x :: after) r) (hx : IsPoll id' o x)
    (ho : o.status ∈ failures) :
    after = [] ∧ r = .error ⟨.requestFailed id' o.info, none⟩ := by
  obtain rfl := poll_inj (hx.1.symm.trans (question_of_mem_polls h
    (List.mem_append_right _ List.mem_cons_self)))
  have hverdict : verdict? id' (observed x.2) =
      some (.error ⟨.requestFailed id' o.info, none⟩) :=
    verdict?_eq_error.mpr (.inr ⟨o, hx.2, ho, rfl⟩)
  generalize hpolls : before ++ x :: after = polls at h
  cases h with
  | @decided waiting a r hw _ h =>
    rcases append_eq_append_cons hpolls.symm with ⟨mid, rfl, -⟩ | ⟨mid, hmid⟩
    · have hx' := hw x (List.mem_append_right _ List.mem_cons_self)
      cases hx'.2.symm.trans hverdict
    · obtain ⟨rfl, rfl⟩ | ⟨_, hnil⟩ := cons_eq_append_cons hmid
      · exact ⟨rfl, Option.some.inj (h.symm.trans hverdict)⟩
      · simp at hnil
  | unfinished hw _ =>
    have hx' := hw x (hpolls ▸ List.mem_append_right _ List.mem_cons_self)
    cases hx'.2.symm.trans hverdict

end Polls

theorem IsPoll.ne_of_isDescribing {change : Call} (hchange : change.action.isDescribing = false)
    {id : String} {o : Observation} {x : Call × Reply} (h : IsPoll id o x) : x.1 ≠ change := by
  rintro rfl
  rw [h.1] at hchange
  cases hchange

theorem awaits_refused {change : Call} (hchange : change.action.isDescribing = false)
    {reply : Reply} {e : Error} (h : started change.action reply = .error e) :
    Awaits attempts none [(change, reply)] (.error e : Except Error Unit) := by
  have hone : ∀ {before after : List (Call × Reply)} {x : Call × Reply},
      [(change, reply)] = before ++ x :: after → x = (change, reply) ∧ after = [] := by
    intro before after x hex
    rcases cons_eq_append_cons hex with hx | ⟨_, hnil⟩
    · exact hx
    · simp at hnil
  have hnone : ∀ {c j id}, (c, .ok j) = (change, reply) → Mysql.requestId j = .ok id →
      id = "" := by
    intro c j id hx hj
    obtain ⟨rfl, rfl⟩ := Prod.mk.inj hx
    by_cases hid : id = ""
    · exact hid
    · cases h.symm.trans (started_eq_ok.mpr ⟨j, rfl, hj, hid⟩)
  refine ⟨?_, ?_, ?_, ?_⟩
  · intro before after c j id hex hc hj hid _
    exact absurd (hnone (hone hex).1 hj) hid
  · intro before waiting rest c j id hex hc hj hid _ _
    exact absurd (hnone (hone hex).1 hj) hid
  · intro before after x id o hex hx _
    exact absurd (congrArg Prod.fst (hone hex).1) (hx.ne_of_isDescribing hchange)
  · intro before after c j hex hc hj
    obtain ⟨hx, rfl⟩ := hone hex
    obtain ⟨rfl, rfl⟩ := Prod.mk.inj hx
    obtain ⟨m, rfl⟩ := started_eq_error h
    exact ⟨rfl, m, rfl⟩

theorem awaits_taken {change : Call} (hchange : change.action.isDescribing = false) {j : Json}
    {id : String} (hj : Mysql.requestId j = .ok id) (hid : id ≠ "")
    {polls : List (Call × Reply)} {r : Except Error Unit} (h : Polls attempts id polls r) :
    Awaits attempts none ((change, .ok j) :: polls) r := by
  have hfirst : ∀ {before after : List (Call × Reply)} {c : Call} {j' : Json},
      (change, .ok j) :: polls = before ++ (c, .ok j') :: after → c.action.isDescribing = false →
      j' = j ∧ after = polls := by
    intro before after c j' hex hc
    rcases cons_eq_append_cons hex with ⟨hx, rfl⟩ | ⟨mid, rfl⟩
    · exact ⟨Except.ok.inj (Prod.mk.inj hx).2, rfl⟩
    · have hmem := isDescribing_of_mem_polls h (List.mem_append_right mid List.mem_cons_self)
      cases hc.symm.trans hmem
  refine ⟨?_, ?_, ?_, ?_⟩
  · intro before after c j' id' hex hc hj' _ hr
    obtain ⟨rfl, rfl⟩ := hfirst hex hc
    obtain rfl := Except.ok.inj (hj.symm.trans hj')
    rcases hr with ⟨_, rfl⟩ | ⟨x, hx, hne⟩
    · exact ⟨after, [], (List.append_nil after).symm, polls_ok_iff.mp h⟩
    · exact absurd (question_of_mem_polls h hx) hne
  · intro before waiting rest c j' id' hex hc hj' _ hw hl
    obtain ⟨rfl, rfl⟩ := hfirst hex hc
    obtain rfl := Except.ok.inj (hj.symm.trans hj')
    exact polls_unfinished h hw hl
  · intro before after x id' o hex hx ho
    rcases cons_eq_append_cons hex with ⟨rfl, -⟩ | ⟨mid, rfl⟩
    · exact absurd rfl (hx.ne_of_isDescribing hchange)
    · exact polls_failed h hx ho
  · intro before after c j' hex hc hj'
    obtain ⟨rfl, rfl⟩ := hfirst hex hc
    exact absurd (hj' id hj) hid

/-- **A change and the polls of its request wait.** -/
theorem Concluded.awaits {change : Call} {r : Except Error Unit}
    (h : Concluded attempts change ex r) (hchange : change.action.isDescribing = false) :
    Awaits attempts none ex r := by
  cases h with
  | refused h => exact awaits_refused hchange h
  | taken h hp =>
    obtain ⟨j, rfl, hj, hid⟩ := started_eq_ok.mp h
    exact awaits_taken hchange hj hid hp

theorem awaits_of_forall (h : ∀ x ∈ ex, x.1.action.isDescribing = true ∧
    x.1.action ≠ .describeAsyncRequestInfo) (r : Except Error α) :
    Awaits attempts owner ex r := by
  have hmem : ∀ {before after : List (Call × Reply)} {x : Call × Reply},
      ex = before ++ x :: after → x ∈ ex :=
    fun hex => hex ▸ List.mem_append_right _ List.mem_cons_self
  refine ⟨?_, ?_, ?_, ?_⟩
  · intro before after c j id hex hc _ _ _
    cases hc.symm.trans (h _ (hmem hex)).1
  · intro before waiting rest c j id hex hc _ _ _ _
    cases hc.symm.trans (h _ (hmem hex)).1
  · intro before after x id o hex hx _
    exact absurd (congrArg Call.action hx.1) (h _ (hmem hex)).2
  · intro before after c j hex hc _
    cases hc.symm.trans (h _ (hmem hex)).1

theorem Awaits.forResource {r : Except Error α} (h : Awaits attempts none ex r)
    (id : ResourceId) : Awaits attempts (some id) ex (r.mapError fun e => e.forResource id) where
  awaited hex hc hj hid hr := by
    refine h.awaited hex hc hj hid (hr.imp_left ?_)
    rintro ⟨a, ha⟩
    cases r with
    | error e => cases ha
    | ok a => exact ⟨a, rfl⟩
  unfinished hex hc hj hid hw hl := by
    obtain ⟨hrest, rfl⟩ := h.unfinished hex hc hj hid hw hl
    exact ⟨hrest, rfl⟩
  failed hex hx ho := by
    obtain ⟨hafter, rfl⟩ := h.failed hex hx ho
    exact ⟨hafter, rfl⟩
  unnamed hex hc hj := by
    obtain ⟨hafter, m, rfl⟩ := h.unnamed hex hc hj
    exact ⟨hafter, m, rfl⟩

end Mysql

/-! ## Operations that wait -/

namespace Api

variable {α β : Type} {attempts : Nat}

/-- **Whether an operation waits for its changes**, whatever is answered. -/
def Patient (attempts : Nat) (op : Api α) : Prop :=
  ∀ ex r, Yields op ex r → Mysql.Awaits attempts none ex r

theorem patient_of_asksOnly {op : Api α} (h : AsksOnly (fun c : Call =>
    c.action.isDescribing = true ∧ c.action ≠ .describeAsyncRequestInfo) op) :
    Patient attempts op :=
  fun ex r hy => Mysql.awaits_of_forall (h ex r hy) r

theorem Patient.bind {op : Api α} {f : α → Api β} (h : Patient attempts op)
    (hf : ∀ a, Patient attempts (f a)) : Patient attempts (op >>= f) := by
  intro ex r hy
  rcases yields_bind.mp hy with ⟨e, he, rfl⟩ | ⟨ex₁, a, ex₂, rfl, h₁, h₂⟩
  · -- The exchanges are those of the first part, and so is the failure.
    obtain ⟨hawaited, hunfinished, hfailed, hunnamed⟩ := h _ _ he
    refine ⟨?_, ?_, ?_, ?_⟩
    · intro before after c j id hex hc hj hid hr
      exact hawaited hex hc hj hid (hr.imp_left fun ⟨_, ha⟩ => nomatch ha)
    · intro before waiting rest c j id hex hc hj hid hw hl
      obtain ⟨hrest, he⟩ := hunfinished hex hc hj hid hw hl
      exact ⟨hrest, congrArg Except.error (Except.error.inj he)⟩
    · intro before after x id o hex hx ho
      obtain ⟨hafter, he⟩ := hfailed hex hx ho
      exact ⟨hafter, congrArg Except.error (Except.error.inj he)⟩
    · intro before after c j hex hc hj
      obtain ⟨hafter, m, he⟩ := hunnamed hex hc hj
      exact ⟨hafter, m, congrArg Except.error (Except.error.inj he)⟩
  · exact (h _ _ h₁).append (hf a _ _ h₂)

end Api

namespace Lifecycle

variable {settings : Settings}

theorem patient_finish {action : Action} (ha : action.isDescribing = false) {request : Json} :
    Patient settings.polling.attempts (finish settings (Mysql.requested action request)) :=
  fun _ _ hy => (yields_finish.mp hy).awaits ha

theorem patient_createAccount {r : Resource} :
    Patient settings.polling.attempts (createAccount settings r) := by
  refine (patient_of_asksOnly asksOnly_lift).bind fun mysqlId => ?_
  refine (patient_of_asksOnly asksOnly_lift).bind fun name => ?_
  refine (patient_of_asksOnly asksOnly_lift).bind fun password => ?_
  exact (patient_finish rfl).bind fun _ => patient_of_asksOnly asksOnly_pure

/-- **The password of an account is changed before its description.** -/
theorem patient_updateAccount {s : String} {current : State} {desired : Resource} :
    Patient settings.polling.attempts (updateAccount settings s current desired) := by
  refine (patient_of_asksOnly asksOnly_lift).bind fun ⟨mysqlId, name⟩ => ?_
  refine (patient_of_asksOnly asksOnly_lift).bind fun password => ?_
  dsimp only
  split_ifs
  · exact (patient_finish rfl).bind fun _ => patient_finish rfl
  · exact (patient_finish rfl).bind fun _ => patient_of_asksOnly asksOnly_pure
  · exact patient_finish rfl
  · exact patient_of_asksOnly asksOnly_pure

theorem patient_createPrivilege {r : Resource} :
    Patient settings.polling.attempts (createPrivilege settings r) := by
  refine (patient_of_asksOnly asksOnly_lift).bind fun mysqlId => ?_
  refine (patient_of_asksOnly asksOnly_lift).bind fun name => ?_
  refine (patient_of_asksOnly asksOnly_lift).bind fun database => ?_
  exact (patient_finish rfl).bind fun _ => patient_of_asksOnly asksOnly_pure

theorem patient_updatePrivilege {s : String} {desired : Resource} :
    Patient settings.polling.attempts (updatePrivilege settings s desired) :=
  (patient_of_asksOnly asksOnly_lift).bind fun ⟨_, _, _⟩ => patient_finish rfl

end Lifecycle

/-! ## Creations and updates -/

namespace Provider

variable {settings : Settings} {kind : LifecycleKind}

theorem patient_logFailure {α : Type} {attempts : Nat} {message : String} {id : ResourceId}
    {op : Api α} (h : Patient attempts op) : Patient attempts (logFailure message id op) :=
  fun ex r hy => h ex r (yields_logFailure.mp hy)

theorem patient_readBack (h : kind.isTakenOn = true) {attempts : Nat} {desired : Resource}
    {identifier : String} :
    Patient attempts (readBack kind.schema (kind.lifecycle settings) desired identifier) := by
  refine patient_of_asksOnly (asksOnly_readBack settings ?_)
  cases kind with
  | account => exact Lifecycle.asksOnly_readAccount settings (fun _ => ⟨rfl, nofun⟩) identifier
  | privilege =>
    exact Lifecycle.asksOnly_readPrivilege settings (fun _ => ⟨rfl, nofun⟩)
      (fun _ => ⟨rfl, nofun⟩) identifier
  | vpc | subnet | routeTable | routeEntry | backupPolicy => cases h

theorem patient_lifecycle_create (h : kind.isTakenOn = true) {r : Resource} :
    Patient settings.polling.attempts ((kind.lifecycle settings).create r) := by
  cases kind with
  | account => exact Lifecycle.patient_createAccount
  | privilege => exact Lifecycle.patient_createPrivilege
  | vpc | subnet | routeTable | routeEntry | backupPolicy => cases h

theorem patient_lifecycle_update (h : kind.isTakenOn = true) {s : String} {current : State}
    {desired : Resource} :
    Patient settings.polling.attempts ((kind.lifecycle settings).update s current desired) := by
  cases kind with
  | account => exact Lifecycle.patient_updateAccount
  | privilege => exact Lifecycle.patient_updatePrivilege
  | vpc | subnet | routeTable | routeEntry | backupPolicy => cases h

theorem awaits_onResource {α : Type} {attempts : Nat} {id : ResourceId}
    (hid : id.type = kind.name) {f : LifecycleKind → Api α} (h : Patient attempts (f kind))
    {ex : List (Call × Reply)} {r : Except Error α}
    (hy : Yields (Operation.onResource id (liftM (lifecycleKind id) >>= f)) ex r) :
    Mysql.Awaits attempts (some id) ex r := by
  obtain ⟨x, hx, rfl⟩ := yields_onResource.mp hy
  exact (h _ _ ((yields_ok_bind (lifecycleKind_of_type hid)).mp hx)).forResource id

/-- **Creations and updates of accounts and privileges never run ahead of a request.** -/
theorem changes_awaited (settings : Settings) (kind : LifecycleKind) (hkind : kind.isTakenOn = true)
    (id : ResourceId) (hid : id.type = kind.name) {σ : Type}
    (remote : Dialogue.Remote σ Call Reply) (start : σ) :
    (∀ desired : Resource, desired.id = id →
      let run := (create settings desired).against remote start
      Mysql.Awaits settings.polling.attempts (some id) run.exchanges run.result) ∧
    ∀ identifier current desired,
      let run := (update settings id identifier current desired).against remote start
      Mysql.Awaits settings.polling.attempts (some id) run.exchanges run.result := by
  constructor
  · intro desired hdesired run
    have hy : Yields (create settings desired) run.exchanges run.result :=
      yields_against remote start _
    rw [← hdesired] at hid ⊢
    refine awaits_onResource hid ?_ hy
    refine (patient_of_asksOnly asksOnly_lift).bind fun r => ?_
    refine (patient_of_asksOnly asksOnly_log).bind fun _ => ?_
    refine (patient_logFailure (patient_lifecycle_create hkind)).bind fun identifier => ?_
    exact (patient_of_asksOnly asksOnly_log).bind fun _ => patient_readBack hkind
  · intro identifier current desired run
    have hy : Yields (update settings id identifier current desired) run.exchanges run.result :=
      yields_against remote start _
    refine awaits_onResource hid ?_ hy
    refine (patient_of_asksOnly asksOnly_lift).bind fun r => ?_
    refine (patient_of_asksOnly asksOnly_lift).bind fun _ => ?_
    refine (patient_of_asksOnly asksOnly_log).bind fun _ => ?_
    exact (patient_logFailure (patient_lifecycle_update hkind)).bind fun _ =>
      patient_readBack hkind

/-- The password is changed, and the change of the description is given up. -/
theorem reader_update_awaited :
    let id : ResourceId := ⟨"mysql_account", "reader"⟩
    let attributes (password description : String) : Attributes := .ofList
      [("mysql_id", .text "cdb-1"), ("name", .text "reader"), ("password", .text password),
       ("description", .text description)]
    let request (id : String) : Reply := .ok (Json.object [("AsyncRequestId", .str id)])
    let poll (status info : String) : Reply :=
      .ok (Json.object [("Status", .str status), ("Info", .str info)])
    let run := (update ⟨"ap-guangzhou", 20, ⟨3, 1⟩⟩ id "cdb-1#reader"
      (.existing id (some "cdb-1#reader") (attributes "old-secret" "reads"))
      ⟨id, attributes "new-secret" "reports", false⟩).against
      (Dialogue.scripted fun _ => .ok .null)
      [request "req-1", poll "RUNNING" "", poll "SUCCESS" "", request "req-2",
       poll "FAILED" "too long"]
    LifecycleKind.account.isTakenOn = true ∧ id.type = LifecycleKind.account.name ∧
      Mysql.Awaits 3 (some id) run.exchanges run.result ∧
      run.result = .error ⟨.requestFailed "req-2" "too long", some id⟩ ∧
      run.questions.length = 5 := by
  refine ⟨rfl, by decide +kernel, ?_, by decide +kernel, by decide +kernel⟩
  exact (changes_awaited ⟨"ap-guangzhou", 20, ⟨3, 1⟩⟩ .account rfl _ (by decide +kernel) _ _).2
    "cdb-1#reader" _ _

end Provider

end CloudProvider
