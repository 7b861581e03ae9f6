import CloudProvider.Proofs.Changes

/-!
# Deletes that are reported done

A delete of an account or of privileges is done once there is none, which the look before the change
shows, or the remote says of the change, or the success of the request. Yet the polls of a request
for privileges are taken at their word as well when the remote says that what they ask for does not
exist.

* `Lifecycle.Removed`: the ways in which a delete is done.
* `Lifecycle.Forgotten`: a delete that loses sight of its request.
* **`Provider.delete_ok_iff`**: which deletes are reported done.
-/

namespace CloudProvider

open AsyncRequest Operation Api

theorem Api.result_eq_iff {σ α : Type} {remote : Dialogue.Remote σ Call Reply} {start : σ}
    {op : Api α} {r : Except Error α} :
    (op.against remote start).result = r ↔ Yields op (op.against remote start).exchanges r := by
  constructor
  · rintro rfl
    exact yields_against remote start op
  · intro h
    exact Yields.unique (yields_against remote start op) h fun _ => .ok .null

/-! ## Ends of a change -/

namespace Mysql

variable {attempts : Nat} {id : String} {change : Call} {ex : List (Call × Reply)}

/-- Whether the polls of a request end with one for which the remote does not know what is asked
for. -/
def Lost (attempts : Nat) (id : String) (polls : List (Call × Reply)) : Prop :=
  ∃ waiting e, polls = waiting ++ [(poll id, .error e)] ∧ waiting.length < attempts ∧
    (∀ x ∈ waiting, IsPending id x) ∧ e.code ∈ Service.cdb.notFoundCodes

/-- **Whether a change is over as it should be**: there is nothing to change, or its request has
succeeded. -/
inductive Settled (attempts : Nat) (change : Call) : List (Call × Reply) → Prop
  | gone {e : ApiError} (he : e.code ∈ Service.cdb.notFoundCodes) :
      Settled attempts change [(change, .error e)]
  | done {j : Json} {id : String} {polls : List (Call × Reply)} (hj : Mysql.requestId j = .ok id)
      (hid : id ≠ "") (hpolls : Awaited attempts id polls) :
      Settled attempts change ((change, .ok j) :: polls)

/-- Whether a change is taken on and its polls are lost. -/
inductive Slipped (attempts : Nat) (change : Call) : List (Call × Reply) → Prop
  | lost {j : Json} {id : String} {polls : List (Call × Reply)} (hj : Mysql.requestId j = .ok id)
      (hid : id ≠ "") (hpolls : Lost attempts id polls) :
      Slipped attempts change ((change, .ok j) :: polls)

theorem exists_error_of_observed {reply : Reply} {e : Error} (h : observed reply = .error e)
    (he : isNotFound .cdb e = true) :
    ∃ reported, reply = .error reported ∧ reported.code ∈ Service.cdb.notFoundCodes := by
  have hx : failure? (poll "", reply) = some e := errorOf?_eq_some.mpr h
  exact exists_error_of_isNotFound hx he

theorem polls_isNotFound {polls : List (Call × Reply)} :
    (∃ e, Polls attempts id polls (.error e) ∧ isNotFound .cdb e = true) ↔
      Lost attempts id polls := by
  constructor
  · rintro ⟨e, h, he⟩
    generalize hr : (Except.error e : Except Error Unit) = r at h
    cases h with
    | @decided waiting a r hw hl h =>
      obtain ha | ⟨o, -, -, rfl⟩ := verdict?_eq_error.mp (hr ▸ h)
      · obtain ⟨reported, rfl, hcode⟩ := exists_error_of_observed ha he
        exact ⟨waiting, reported, rfl, hl, fun x hx => undecided_iff.mp (hw x hx), hcode⟩
      · cases he
    | unfinished _ _ =>
      obtain rfl := Except.error.inj hr
      cases he
  · rintro ⟨waiting, e, rfl, hl, hw, he⟩
    refine ⟨⟨.remote e, none⟩, ?_, isNotFound_iff.mpr ⟨e, none, rfl, he⟩⟩
    exact .decided (fun x hx => undecided_iff.mpr (hw x hx)) hl (verdict?_eq_error.mpr (.inl rfl))

theorem exists_error_of_started {action : Action} {reply : Reply} {e : Error}
    (h : started action reply = .error e) (he : isNotFound .cdb e = true) :
    ∃ reported, reply = .error reported ∧ reported.code ∈ Service.cdb.notFoundCodes := by
  cases reply with
  | error reported =>
    obtain rfl := Except.error.inj ((started_error reported).symm.trans h)
    exact ⟨reported, rfl, of_decide_eq_true he⟩
  | ok j =>
    obtain ⟨m, rfl⟩ := started_eq_error h
    cases he

theorem concluded_ifNotFound :
    (∃ r, Concluded attempts change ex r ∧ ifNotFound .cdb () r = .ok ()) ↔
      Settled attempts change ex ∨ Slipped attempts change ex := by
  constructor
  · rintro ⟨r, h, hr⟩
    cases h with
    | refused h =>
      obtain h' | ⟨-, e, h', he⟩ := ifNotFound_eq_ok.mp hr
      · cases h'
      · obtain rfl := Except.error.inj h'
        obtain ⟨reported, rfl, hcode⟩ := exists_error_of_started h he
        exact .inl (.gone hcode)
    | taken h hp =>
      obtain ⟨j, rfl, hj, hid⟩ := started_eq_ok.mp h
      obtain rfl | ⟨-, e, rfl, he⟩ := ifNotFound_eq_ok.mp hr
      · exact .inl (.done hj hid (polls_ok_iff.mp hp))
      · exact .inr (.lost hj hid (polls_isNotFound.mp ⟨e, hp, he⟩))
  · rintro ((⟨he⟩ | ⟨hj, hid, hpolls⟩) | ⟨hj, hid, hlost⟩)
    · exact ⟨_, .refused (started_error _), if_pos (decide_eq_true he)⟩
    · exact ⟨_, .taken (started_eq_ok.mpr ⟨_, rfl, hj, hid⟩) (polls_ok_iff.mpr hpolls), rfl⟩
    · obtain ⟨e, hp, he⟩ := polls_isNotFound.mpr hlost
      exact ⟨_, .taken (started_eq_ok.mpr ⟨_, rfl, hj, hid⟩) hp, if_pos he⟩

theorem Settled.exists_getLast (h : Settled attempts change ex) :
    ∃ x, ex.getLast? = some x ∧ (x.1 = change ∨ ∃ o, observed x.2 = .ok o) := by
  cases h with
  | gone he => exact ⟨_, rfl, .inl rfl⟩
  | done hj hid hpolls =>
    obtain ⟨waiting, last, o, rfl, -, -, hlast, -⟩ := hpolls
    exact ⟨last, List.getLast?_eq_some_iff.mpr ⟨_ :: waiting, rfl⟩, .inr ⟨o, hlast.2⟩⟩

theorem Slipped.exists_getLast (h : Slipped attempts change ex) :
    ∃ id e, ex.getLast? = some (poll id, .error e) := by
  obtain ⟨-, -, waiting, e, rfl, -⟩ := h
  exact ⟨_, e, List.getLast?_eq_some_iff.mpr ⟨_ :: waiting, rfl⟩⟩

theorem Slipped.mem (h : Slipped attempts change ex) : ∃ j, (change, .ok j) ∈ ex := by
  obtain ⟨-, -, -⟩ := h
  exact ⟨_, List.mem_cons_self⟩

end Mysql

/-! ## Deletes by kind -/

/-- The change that removes an account. -/
def Mysql.accountRemoval (mysqlId name : String) : Call :=
  ⟨.deleteAccounts, Json.object [("InstanceId", .str mysqlId), ("Accounts", accountsOf name)]⟩

/-- The change that removes the entity with an identifier, where it is only taken on. -/
def LifecycleKind.removal : LifecycleKind → String → Except Error Call
  | .account, s => (CompositeId.two s Mysql.Account.idShape).map fun (mysqlId, name) =>
      Mysql.accountRemoval mysqlId name
  | .privilege, s => (CompositeId.three s Mysql.Grant.idShape).map fun (mysqlId, name, database) =>
      Mysql.grantChange mysqlId name ⟨database, []⟩
  | _, s => .error (.unsupported s!"{s} is removed at once")

theorem LifecycleKind.isDescribing_removal {kind : LifecycleKind} {s : String} {change : Call}
    (h : kind.removal s = .ok change) : change.action.isDescribing = false := by
  cases kind with
  | account =>
    rw [removal] at h
    cases hid : CompositeId.two s Mysql.Account.idShape with
    | error e => rw [hid] at h; cases h
    | ok id =>
      rw [hid] at h
      obtain rfl := Except.ok.inj h
      rfl
  | privilege =>
    rw [removal] at h
    cases hid : CompositeId.three s Mysql.Grant.idShape with
    | error e => rw [hid] at h; cases h
    | ok id =>
      rw [hid] at h
      obtain rfl := Except.ok.inj h
      rfl
  | vpc | subnet | routeTable | routeEntry | backupPolicy => cases h

namespace Lifecycle

section Endings

variable (settings : Settings) (kind : LifecycleKind) (s : String)

/-- Whether a look shows the entity with an identifier, and a change is the one that removes it. -/
def Meets (look : List (Call × Reply)) (change : Call) : Prop :=
  (∃ attributes, Yields ((kind.lifecycle settings).read s) look (.ok (some attributes))) ∧
    kind.removal s = .ok change

/-- **Whether a delete is done.** -/
inductive Removed : List (Call × Reply) → Prop
  /-- There is nothing to remove, and nothing is changed. -/
  | absent {look : List (Call × Reply)}
      (h : Yields ((kind.lifecycle settings).read s) look (.ok none))
      (hlook : ∀ x ∈ look, x.1.action.isDescribing = true) : Removed look
  | changed {look rest : List (Call × Reply)} {change : Call}
      (h : Meets settings kind s look change)
      (hrest : Mysql.Settled settings.polling.attempts change rest) : Removed (look ++ rest)

/-- **Whether a delete loses sight of its request**: the change is taken on, and a poll is answered
with a code for what does not exist. -/
inductive Forgotten : List (Call × Reply) → Prop
  | changed {look rest : List (Call × Reply)} {change : Call}
      (h : Meets settings kind s look change)
      (hrest : Mysql.Slipped settings.polling.attempts change rest) : Forgotten (look ++ rest)

end Endings

variable {settings : Settings} {kind : LifecycleKind} {s : String} {ex : List (Call × Reply)}

theorem yields_removal {look : Api (Option Attributes)} {change : Api Unit} :
    Yields (look >>= fun found => match found with
      | none => pure ()
      | some _ => change) ex (.ok ()) ↔
      Yields look ex (.ok none) ∨ ∃ ex₁ ex₂, ex = ex₁ ++ ex₂ ∧
        (∃ attributes, Yields look ex₁ (.ok (some attributes))) ∧ Yields change ex₂ (.ok ()) := by
  rw [yields_bind]
  constructor
  · rintro (⟨_, _, h⟩ | ⟨ex₁, found, ex₂, rfl, h₁, h₂⟩)
    · cases h
    · cases found with
      | none =>
        obtain ⟨rfl, -⟩ := yields_pure.mp h₂
        exact .inl ((List.append_nil ex₁).symm ▸ h₁)
      | some attributes => exact .inr ⟨ex₁, ex₂, rfl, ⟨attributes, h₁⟩, h₂⟩
  · rintro (h | ⟨ex₁, ex₂, rfl, ⟨attributes, h₁⟩, h₂⟩)
    · exact .inr ⟨ex, none, [], (List.append_nil ex).symm, h, yields_pure.mpr ⟨rfl, rfl⟩⟩
    · exact .inr ⟨ex₁, some attributes, ex₂, rfl, h₁, h₂⟩

theorem yields_requested_orIfNotFound {action : Action} {request : Json} {found : Option String} :
    Yields (orIfNotFound .cdb (some <$> Mysql.requested action request) none) ex (.ok found) ↔
      (∃ e, found = none ∧ ex = [(⟨action, request⟩, .error e)] ∧
        e.code ∈ Service.cdb.notFoundCodes) ∨
      ∃ j id, found = some id ∧ ex = [(⟨action, request⟩, .ok j)] ∧ Mysql.requestId j = .ok id ∧
        id ≠ "" := by
  rw [← bind_pure_comp, yields_orIfNotFound]
  constructor
  · rintro ⟨_, hx, hfound⟩
    obtain ⟨_, hy, rfl⟩ := yields_bind_pure.mp hx
    obtain ⟨reply, rfl, rfl⟩ := Mysql.yields_requested.mp hy
    cases hstarted : Mysql.started action reply with
    | ok id =>
      rw [hstarted] at hfound
      obtain ⟨j, rfl, hj, hid⟩ := Mysql.started_eq_ok.mp hstarted
      exact .inr ⟨j, id, Except.ok.inj hfound, rfl, hj, hid⟩
    | error e =>
      rw [hstarted] at hfound
      obtain h | ⟨hnone, _, he', he⟩ := ifNotFound_eq_ok.mp hfound.symm
      · cases h
      · obtain rfl := Except.error.inj he'
        obtain ⟨reported, rfl, hcode⟩ := Mysql.exists_error_of_started hstarted he
        exact .inl ⟨reported, hnone, rfl, hcode⟩
  · rintro (⟨e, rfl, rfl, he⟩ | ⟨j, id, rfl, rfl, hj, hid⟩)
    · have hgone : Yields (Mysql.requested action request) _ (.error ⟨.remote e, none⟩) :=
        Mysql.yields_requested.mpr ⟨.error e, rfl, rfl⟩
      exact ⟨_, yields_bind_pure.mpr ⟨_, hgone, rfl⟩, (if_pos (decide_eq_true he)).symm⟩
    · have hstarted : Mysql.started action (.ok j) = .ok id :=
        Mysql.started_eq_ok.mpr ⟨j, rfl, hj, hid⟩
      have htaken : Yields (Mysql.requested action request) _ (.ok id) :=
        Mysql.yields_requested.mpr ⟨.ok j, rfl, hstarted.symm⟩
      exact ⟨_, yields_bind_pure.mpr ⟨_, htaken, rfl⟩, rfl⟩

/-- **A change that is waited for** goes well if it is settled. -/
theorem yields_requested_or_gone {action : Action} {request : Json} :
    Yields (orIfNotFound .cdb (some <$> Mysql.requested action request) none >>= fun requestId =>
      match requestId with
      | none => pure ()
      | some requestId => Mysql.await settings.polling requestId) ex (.ok ()) ↔
      Mysql.Settled settings.polling.attempts ⟨action, request⟩ ex := by
  rw [yields_bind]
  constructor
  · rintro (⟨_, _, h⟩ | ⟨_, found, polls, rfl, h₁, h₂⟩)
    · cases h
    · obtain ⟨e, rfl, rfl, he⟩ | ⟨j, id, rfl, rfl, hj, hid⟩ :=
        yields_requested_orIfNotFound.mp h₁
      · obtain ⟨rfl, -⟩ := yields_pure.mp h₂
        exact .gone he
      · exact .done hj hid (Mysql.polls_ok_iff.mp (Mysql.yields_await.mp h₂))
  · rintro (⟨he⟩ | @⟨j, id, polls, hj, hid, hpolls⟩)
    · refine .inr ⟨[_], none, [], rfl, ?_, yields_pure.mpr ⟨rfl, rfl⟩⟩
      exact yields_requested_orIfNotFound.mpr (.inl ⟨_, rfl, rfl, he⟩)
    · refine .inr ⟨[_], some id, polls, rfl, ?_,
        Mysql.yields_await.mpr (Mysql.polls_ok_iff.mpr hpolls)⟩
      exact yields_requested_orIfNotFound.mpr (.inr ⟨j, id, rfl, rfl, hj, hid⟩)

/-- A change goes well, its polls included, if it is settled or slips. -/
theorem yields_finish_or_gone {action : Action} {request : Json} :
    Yields (orIfNotFound .cdb (finish settings (Mysql.requested action request)) ()) ex (.ok ()) ↔
      Mysql.Settled settings.polling.attempts ⟨action, request⟩ ex ∨
        Mysql.Slipped settings.polling.attempts ⟨action, request⟩ ex := by
  rw [yields_orIfNotFound, ← Mysql.concluded_ifNotFound]
  exact exists_congr fun _ => and_congr yields_finish eq_comm

theorem removed_iff {change : Call} (hchange : kind.removal s = .ok change) :
    Removed settings kind s ex ↔ Yields ((kind.lifecycle settings).read s) ex (.ok none) ∨
      ∃ look rest, ex = look ++ rest ∧ Meets settings kind s look change ∧
        Mysql.Settled settings.polling.attempts change rest := by
  constructor
  · rintro (⟨h, -⟩ | ⟨h, hrest⟩)
    · exact .inl h
    · obtain rfl := Except.ok.inj (h.2.symm.trans hchange)
      exact .inr ⟨_, _, rfl, h, hrest⟩
  · rintro (h | ⟨look, rest, rfl, h, hrest⟩)
    · exact .absent h (looks_read settings kind s ex _ h)
    · exact .changed h hrest

theorem forgotten_iff {change : Call} (hchange : kind.removal s = .ok change) :
    Forgotten settings kind s ex ↔
      ∃ look rest, ex = look ++ rest ∧ Meets settings kind s look change ∧
        Mysql.Slipped settings.polling.attempts change rest := by
  constructor
  · rintro ⟨h, hrest⟩
    obtain rfl := Except.ok.inj (h.2.symm.trans hchange)
    exact ⟨_, _, rfl, h, hrest⟩
  · rintro ⟨look, rest, rfl, h, hrest⟩
    exact .changed h hrest

theorem yields_delete_of_removal (settings : Settings) {change : Call}
    (hchange : kind.removal s = .ok change) {op : Api Unit} {P : List (Call × Reply) → Prop}
    (hop : ∀ ex, Yields op ex (.ok ()) ↔ P ex) :
    Yields ((kind.lifecycle settings).read s >>= fun found => match found with
      | none => pure ()
      | some _ => op) ex (.ok ()) ↔
      Yields ((kind.lifecycle settings).read s) ex (.ok none) ∨
        ∃ look rest, ex = look ++ rest ∧ Meets settings kind s look change ∧ P rest := by
  simp only [yields_removal, hop, Meets, hchange, and_true]

theorem yields_deleteAccount :
    Yields (deleteAccount settings s) ex (.ok ()) ↔ Removed settings .account s ex := by
  cases hid : CompositeId.two s Mysql.Account.idShape with
  | error e =>
    refine iff_of_false (fun h => ?_) ?_
    · cases ((yields_error_bind hid).mp h).2
    · rintro (⟨h, -⟩ | ⟨⟨-, hchange⟩, -⟩)
      · cases ((yields_error_bind hid).mp h).2
      · rw [LifecycleKind.removal, hid] at hchange
        cases hchange
  | ok id =>
    obtain ⟨mysqlId, name⟩ := id
    have hchange : LifecycleKind.account.removal s = .ok (Mysql.accountRemoval mysqlId name) := by
      rw [LifecycleKind.removal, hid]
      rfl
    refine (yields_ok_bind hid).trans (.trans ?_ (removed_iff hchange).symm)
    exact yields_delete_of_removal settings hchange fun _ => yields_requested_or_gone

theorem yields_deletePrivilege :
    Yields (deletePrivilege settings s) ex (.ok ()) ↔
      Removed settings .privilege s ex ∨ Forgotten settings .privilege s ex := by
  cases hid : CompositeId.three s Mysql.Grant.idShape with
  | error e =>
    refine iff_of_false (fun h => ?_) ?_
    · cases ((yields_error_bind hid).mp h).2
    · rintro ((⟨h, -⟩ | ⟨⟨-, hchange⟩, -⟩) | ⟨⟨-, hchange⟩, -⟩)
      · cases ((yields_error_bind hid).mp h).2
      · rw [LifecycleKind.removal, hid] at hchange
        cases hchange
      · rw [LifecycleKind.removal, hid] at hchange
        cases hchange
  | ok id =>
    obtain ⟨mysqlId, name, database⟩ := id
    have hchange : LifecycleKind.privilege.removal s =
        .ok (Mysql.grantChange mysqlId name ⟨database, []⟩) := by
      rw [LifecycleKind.removal, hid]
      rfl
    refine (yields_ok_bind hid).trans ?_
    rw [removed_iff hchange, forgotten_iff hchange, or_assoc]
    refine (yields_delete_of_removal settings hchange fun _ => yields_finish_or_gone).trans ?_
    refine or_congr_right ?_
    simp only [and_or_left, exists_or]
    rfl

theorem Removed.exists_getLast (h : Removed settings kind s ex)
    (hchange : ∃ x ∈ ex, x.1.action.isDescribing = false) :
    ∃ x, ex.getLast? = some x ∧
      (x.1.action.isDescribing = false ∨ ∃ o, Mysql.observed x.2 = .ok o) := by
  cases h with
  | absent _ hlook =>
    obtain ⟨x, hx, hc⟩ := hchange
    cases (hlook x hx).symm.trans hc
  | changed h hrest =>
    obtain ⟨x, hlast, hx⟩ := hrest.exists_getLast
    refine ⟨x, by rw [List.getLast?_append, hlast, Option.some_or], hx.imp_left ?_⟩
    rintro rfl
    exact LifecycleKind.isDescribing_removal h.2

/-- **A delete that loses sight of its request is not done.** -/
theorem Forgotten.not_removed (h : Forgotten settings kind s ex) :
    ¬ Removed settings kind s ex := by
  intro hremoved
  obtain ⟨hmeets, hrest⟩ := h
  obtain ⟨j, hj⟩ := hrest.mem
  obtain ⟨id, e, hlast⟩ := hrest.exists_getLast
  obtain ⟨x, hx, hanswered⟩ := hremoved.exists_getLast
    ⟨_, List.mem_append_right _ hj, LifecycleKind.isDescribing_removal hmeets.2⟩
  rw [List.getLast?_append, hlast, Option.some_or] at hx
  obtain rfl := Option.some.inj hx
  rcases hanswered with h | ⟨o, h⟩
  · cases h
  · cases h

end Lifecycle

namespace Provider

/-- **Which deletes of accounts and privileges are reported done**: those that are done, and those
of privileges that lose sight of their request. -/
theorem delete_ok_iff (settings : Settings) (kind : LifecycleKind) (hkind : kind.isTakenOn = true)
    (id : ResourceId) (hid : id.type = kind.name) (s : String) {σ : Type}
    (remote : Dialogue.Remote σ Call Reply) (start : σ) :
    let run := (delete settings id s).against remote start
    (run.result = .ok () ↔ Lifecycle.Removed settings kind s run.exchanges ∨
      kind = .privilege ∧ Lifecycle.Forgotten settings kind s run.exchanges) ∧
    (Lifecycle.Forgotten settings kind s run.exchanges →
      ¬ Lifecycle.Removed settings kind s run.exchanges) := by
  intro run
  refine ⟨?_, fun h => h.not_removed⟩
  have hlookup := lifecycleKind_of_type hid
  have hdelete : run.result = .ok () ↔
      Yields ((kind.lifecycle settings).delete s) run.exchanges (.ok ()) := by
    rw [result_eq_iff, delete, yields_onResource]
    constructor
    · rintro ⟨x, hx, hr⟩
      cases x with
      | error e => cases hr
      | ok _ => exact yields_logFailure.mp (yields_log_bind.mp ((yields_ok_bind hlookup).mp hx))
    · intro h
      exact ⟨.ok (), (yields_ok_bind hlookup).mpr (yields_log_bind.mpr (yields_logFailure.mpr h)),
        rfl⟩
  rw [hdelete]
  cases kind with
  | account => exact Lifecycle.yields_deleteAccount.trans (or_iff_left fun h => nomatch h.1).symm
  | privilege =>
    exact Lifecycle.yields_deletePrivilege.trans (or_congr_right (and_iff_right rfl).symm)
  | vpc | subnet | routeTable | routeEntry | backupPolicy => cases hkind

/-- An account is gone at the second poll. -/
theorem delete_of_polled_account :
    let settings : Settings := ⟨"ap-guangzhou", 20, ⟨3, 1⟩⟩
    let id : ResourceId := ⟨"mysql_account", "app"⟩
    let run := (delete settings id "cdb-1#app").against (Dialogue.scripted fun _ => .ok .null)
      [.ok (Json.object [("TotalCount", .int 1),
        ("Items", .arr [Json.object [("User", .str "app"), ("Host", .str "%")]])]),
       .ok (Json.object [("AsyncRequestId", .str "req-1")]),
       .ok (Json.object [("Status", .str "RUNNING")]),
       .ok (Json.object [("Status", .str "SUCCESS")])]
    LifecycleKind.account.isTakenOn = true ∧ id.type = LifecycleKind.account.name ∧
      Lifecycle.Removed settings .account "cdb-1#app" run.exchanges := by
  refine ⟨rfl, by decide +kernel, ?_⟩
  refine ((delete_ok_iff ⟨"ap-guangzhou", 20, ⟨3, 1⟩⟩ .account rfl ⟨"mysql_account", "app"⟩
    (by decide +kernel) "cdb-1#app" _ _).1.mp (by decide +kernel)).resolve_right ?_
  exact fun h => nomatch h.1

/-- **Privileges are reported as taken away though the poll finds no request.** -/
theorem delete_of_lost_request :
    let settings : Settings := ⟨"ap-guangzhou", 20, ⟨3, 1⟩⟩
    let run := (delete settings ⟨"mysql_privilege", "app"⟩ "cdb-1#app#shop").against
      (Dialogue.scripted fun _ => .ok .null)
      [.ok (Json.object [("TotalCount", .int 1),
        ("Items", .arr [Json.object [("User", .str "app"), ("Host", .str "%")]])]),
       .ok (Json.object [("DatabasePrivileges", .arr
        [Json.object [("Database", .str "shop"), ("Privileges", .strs ["SELECT"])]])]),
       .ok (Json.object [("AsyncRequestId", .str "req-1")]),
       .error ⟨"DescribeAsyncRequestInfo", "InvalidParameter", "no such request", none⟩]
    run.result = .ok () ∧
      ¬ Lifecycle.Removed settings .privilege "cdb-1#app#shop" run.exchanges := by
  intro settings run
  refine ⟨by decide +kernel, fun h => ?_⟩
  have hchange : ∃ x ∈ run.exchanges, x.1.action.isDescribing = false := by decide +kernel
  have hlast : (run.exchanges.getLast?.all fun x =>
      x.1.action.isDescribing && (errorOf? (Mysql.observed x.2)).isSome) = true := by
    decide +kernel
  obtain ⟨x, hx, hanswered⟩ := h.exists_getLast hchange
  rw [hx, Option.all_some, Bool.and_eq_true] at hlast
  rcases hanswered with h | ⟨o, h⟩
  · cases h.symm.trans hlast.1
  · rw [h] at hlast
    cases hlast.2

end Provider

end CloudProvider
