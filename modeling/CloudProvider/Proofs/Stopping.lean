import CloudProvider.Proofs.Rejection

/-!
# Operations that end with a failure

A question fails if the remote reports an error, or if its answer cannot be read. What an operation
does afterwards is local: it fails as well, or it takes the failure for absence and is done.

* `Api.Stops`: whether nothing is asked after a failure, and what may be given then.
* `Api.Stops.bind`: the rest of an operation asks nothing for what may be given after a failure.
* `Api.stops_orIfNotFound`, `Api.stops_acceptGone`: failures that are taken for absence.
* `Lifecycle.strict_create`, `Lifecycle.stops_read`, …: the operations of every kind.
* **`Provider.failed_call_is_last`**: no call follows a failed one.
-/

namespace CloudProvider

open Operation

namespace Api

variable {α β : Type} {P R : α → Prop}

/-! ## Nothing after a failure -/

/-- **Whether a question fails with its answer.** -/
inductive Fails : Call × Reply → Prop
  | reported (c : Call) (e : ApiError) : Fails (c, .error e)
  | unreadable {c : Call} {j : Json} {issue : Issue} (h : c.action.decode j = .error issue) :
      Fails (c, .ok j)

theorem fails_iff {x : Call × Reply} : Fails x ↔ ∃ e, failure? x = some e := by
  constructor
  · rintro (⟨c, e⟩ | h)
    · exact ⟨_, failure?_error c e⟩
    · exact ⟨_, failure?_ok h⟩
  · rintro ⟨e, he⟩
    obtain ⟨c, reply⟩ := x
    obtain ⟨reported, rfl, -⟩ | ⟨j, issue, rfl, hj, -⟩ :=
      outcomeOf_eq_error (errorOf?_eq_some.mp he)
    · exact .reported c reported
    · exact .unreadable hj

/-- **Whether an operation asks nothing after a failure.** What it still gives then is of some
kind. -/
def Stops (P : α → Prop) (op : Api α) : Prop :=
  ∀ ex r, Yields op ex r → Sound ex ∨ (∃ e, BreaksOff ex e) ∧ ∀ a, r = .ok a → P a

/-- Whether an operation fails with the first question that does. -/
def Strict (op : Api α) : Prop := Stops (fun _ => False) op

/-- Whether an operation asks nothing, and all that it gives is of some kind. -/
def Rests (P : α → Prop) (op : Api α) : Prop :=
  ∀ ex r, Yields op ex r → ex = [] ∧ ∀ a, r = .ok a → P a

theorem rests_pure {a : α} (ha : P a) : Rests P (pure a) := by
  intro ex r h
  obtain ⟨rfl, rfl⟩ := yields_pure.mp h
  exact ⟨rfl, fun b hb => Except.ok.inj hb ▸ ha⟩

theorem rests_throw {e : Error} : Rests P (throw e) := by
  intro ex r h
  obtain ⟨rfl, rfl⟩ := yields_throw.mp h
  exact ⟨rfl, nofun⟩

theorem Rests.log_bind {op : Api α} (h : Rests P op) (e : Event) :
    Rests P (log e >>= fun _ => op) := fun ex r hy => h ex r (yields_log_bind.mp hy)

theorem Rests.stops {op : Api α} (h : Rests P op) : Stops P op := by
  intro ex r hy
  rw [(h ex r hy).1]
  exact .inl sound_nil

theorem stops_of_asksOnly {op : Api α} (h : AsksOnly (fun _ => False) op) : Stops P op := by
  intro ex r hy
  rw [List.eq_nil_iff_forall_not_mem.mpr (h ex r hy)]
  exact .inl sound_nil

theorem stops_pure {a : α} : Stops P (pure a) := stops_of_asksOnly asksOnly_pure

theorem stops_throw {e : Error} : Stops P (throw e) := stops_of_asksOnly asksOnly_throw

theorem Stops.mono {op : Api α} (h : Stops P op) (hPR : ∀ a, P a → R a) : Stops R op := by
  intro ex r hy
  refine (h ex r hy).imp id (And.imp_right fun hP a ha => ?_)
  exact hPR a (hP a ha)

theorem Strict.stops {op : Api α} (h : Strict op) : Stops P op := Stops.mono h fun _ => False.elim

/-- **The rest of an operation** asks nothing after a failure. -/
theorem Stops.bind {op : Api α} {f : α → Api β} {R : β → Prop} (h : Stops P op)
    (hrest : ∀ a, P a → Rests R (f a)) (hf : ∀ a, Stops R (f a)) : Stops R (op >>= f) := by
  intro ex r hy
  rcases yields_bind.mp hy with ⟨e, hop, rfl⟩ | ⟨ex₁, a, ex₂, rfl, h₁, h₂⟩
  · exact (h _ _ hop).imp id (And.imp_right fun _ => nofun)
  · rcases h _ _ h₁ with hs | ⟨hb, hP⟩
    · refine (hf a _ _ h₂).imp (fun hs₂ => sound_append.mpr ⟨hs, hs₂⟩) ?_
      exact And.imp_left fun ⟨e, hb⟩ => ⟨e, hs.breaksOff hb⟩
    · -- The first part took a failure for absence, and the failure stays the last exchange.
      obtain ⟨rfl, hR⟩ := hrest a (hP a rfl) _ _ h₂
      rw [List.append_nil]
      exact .inr ⟨hb, hR⟩

theorem Strict.bind {op : Api α} {f : α → Api β} {R : β → Prop} (h : Strict op)
    (hf : ∀ a, Stops R (f a)) : Stops R (op >>= f) :=
  Stops.bind h (fun _ => False.elim) hf

theorem stops_lift_bind {c : Except Error α} {f : α → Api β} {R : β → Prop}
    (hf : ∀ a, Stops R (f a)) : Stops R ((liftM c : Api α) >>= f) :=
  Strict.bind (stops_of_asksOnly asksOnly_lift) hf

theorem stops_log_bind {e : Event} {f : Unit → Api α} (hf : Stops P (f ())) :
    Stops P (log e >>= f) := fun ex r hy => hf ex r (yields_log_bind.mp hy)

theorem Stops.onResource {op : Api α} (h : Stops P op) (id : ResourceId) :
    Stops P (op.onResource id) := by
  intro ex r hy
  obtain ⟨x, hx, rfl⟩ := yields_onResource.mp hy
  refine (h ex x hx).imp (fun hs => hs) (And.imp_right fun hP a ha => ?_)
  cases x with
  | error e => cases ha
  | ok b => exact hP a ha

/-! ## Calls -/

theorem strict_call {action : Action} {request : Json} {decode : Json → Except Issue α}
    (h : Reads action (outcomeOf action decode)) : Strict (call action request decode) := by
  intro ex r hy
  obtain ⟨reply, rfl, rfl⟩ := yields_call.mp hy
  cases hr : outcomeOf action decode reply with
  | ok a => exact .inl (sound_cons.mpr ⟨h.failure?_eq_none hr, sound_nil⟩)
  | error e => exact .inr ⟨⟨e, breaksOff_singleton (h.failure?_eq_some hr)⟩, nofun⟩

/-- **A failure taken for absence** gives what stands for it. -/
theorem stops_orIfNotFound {service : Service} {op : Api α} {absent : α} (h : Strict op) :
    Stops (· = absent) (orIfNotFound service op absent) := by
  intro ex r hy
  obtain ⟨x, hx, rfl⟩ := yields_orIfNotFound.mp hy
  refine (h ex x hx).imp id (And.imp_right fun hx a ha => ?_)
  exact (ifNotFound_eq_ok.mp ha).elim (fun ha => (hx a ha).elim) And.left

theorem stops_acceptGone {service : Service} {op : Api Unit} (h : Strict op) :
    Stops (fun _ => True) (acceptGone service op) := by
  intro ex r hy
  obtain ⟨x, hx, rfl⟩ := yields_acceptGone.mp hy
  exact (h ex x hx).imp id (And.imp_right fun _ _ _ => trivial)

/-- **No question of a run follows one that fails.** -/
def EndsWithFailure {σ : Type} (run : Dialogue.Run σ Call Reply α) : Prop :=
  ∀ k x, run.exchanges[k]? = some x → Fails x → run.questions.length = k + 1

theorem Stops.endsWithFailure {op : Api α} (h : Stops P op) {σ : Type}
    (remote : Dialogue.Remote σ Call Reply) (start : σ) :
    EndsWithFailure (op.against remote start) := by
  intro k x hk hx
  obtain ⟨e, he⟩ := fails_iff.mp hx
  rw [Dialogue.Run.questions_eq, List.length_map]
  rcases h _ _ (yields_against remote start op) with hs | ⟨⟨e', before, y, hex, hb, -⟩, -⟩
  · simp [hs x (List.mem_of_getElem? hk)] at he
  · rw [hex] at hk ⊢
    rw [List.length_append, List.length_singleton]
    -- A failure is not among the exchanges before the last one, which are all sound.
    rcases Nat.lt_or_ge k before.length with hlt | hge
    · rw [List.getElem?_append_left hlt] at hk
      simp [hb x (List.mem_of_getElem? hk)] at he
    · have hlt := (List.getElem?_eq_some_iff.mp hk).1
      rw [List.length_append, List.length_singleton] at hlt
      omega

end Api

open Api

/-! ## Listings and look-ups -/

theorem Listing.strict_upTo {α : Type} {pageSize : UInt64} {bound : Option Nat}
    {fetch : Cursor → Api (Page α)} (h : ∀ c, Strict (fetch c)) :
    Strict (upTo pageSize bound fetch) :=
  upTo_induction stops_throw (fun _ => stops_pure) fun c _ hrest => Strict.bind (h c) hrest

/-- **A look-up in a listing** matches nothing after a failure. -/
theorem Lookup.stops_listed {α : Type} {service : Service} {entity key : String}
    {op : Api (List α)} (h : Strict op) :
    Stops (· = none) (orIfNotFound service op [] >>= unique entity key) :=
  (stops_orIfNotFound h).bind (fun _ hnil => hnil ▸ rests_pure rfl)
    fun _ => stops_of_asksOnly asksOnly_unique

namespace Network

variable {pageSize : UInt64}

theorem strict_listVpcs {id name : Option String} : Strict (listVpcs pageSize id name) :=
  Listing.strict_upTo fun _ => strict_call (reads_answer _)

theorem strict_listSubnets {q : SubnetQuery} : Strict (listSubnets pageSize q) :=
  Listing.strict_upTo fun _ => strict_call (reads_answer _)

theorem strict_listRouteTables {q : RouteTableQuery} : Strict (listRouteTables pageSize q) :=
  Listing.strict_upTo fun _ => strict_call (reads_answer _)

theorem stops_findVpc {id : String} : Stops (· = none) (findVpc pageSize id) :=
  Lookup.stops_listed strict_listVpcs

theorem stops_findSubnet {id : String} : Stops (· = none) (findSubnet pageSize id) :=
  Lookup.stops_listed strict_listSubnets

theorem stops_uniqueRouteTable {id : String} {vpcId : Option String} :
    Stops (· = none) (uniqueRouteTable pageSize id vpcId) :=
  Lookup.stops_listed strict_listRouteTables

theorem strict_checkId {action : Action} {id : String} : Strict (checkId action id) := by
  rw [checkId]
  split_ifs
  · exact stops_throw
  · exact stops_pure

theorem strict_createRoute {table : String} {spec : RouteSpec} :
    Strict (createRoute pageSize table spec) := by
  refine Strict.bind (strict_call (reads_answer .createRoutes)) fun _ => ?_
  refine stops_uniqueRouteTable.bind (fun found hnone => hnone ▸ rests_throw) fun found => ?_
  cases found with
  | none => exact stops_throw
  | some found =>
    refine Strict.bind (stops_of_asksOnly Lookup.asksOnly_unique) fun route => ?_
    cases route with
    | none => exact stops_throw
    | some _ => exact stops_pure

end Network

namespace Mysql

theorem strict_requested {action : Action} {request : Json}
    (h : Reads action (outcomeOf action requestId)) : Strict (requested action request) := by
  refine Strict.bind (strict_call h) fun id => ?_
  split_ifs
  · exact stops_throw
  · exact stops_pure

theorem strict_await {polling : AsyncRequest.Polling} {requestId : String} :
    Strict (await polling requestId) := by
  have hpoll : ∀ left attempt, Strict
      (AsyncRequest.pollFrom requestId polling (observe requestId) attempt left) := by
    intro left
    induction left with
    | zero => exact fun _ => stops_throw
    | succ left ih =>
      intro attempt
      refine Strict.bind (strict_call (reads_answer .describeAsyncRequestInfo)) fun o => ?_
      dsimp only
      split
      · exact stops_of_asksOnly asksOnly_log
      · exact stops_throw
      · refine stops_log_bind ?_
        split_ifs
        · exact fun ex r hy => ih _ ex r (yields_sleep_bind.mp hy)
        · exact ih _
  exact hpoll _ _

theorem strict_findAccount {pageSize : UInt64} {mysqlId name : String} :
    Strict (findAccount pageSize mysqlId name) :=
  Strict.bind (Listing.strict_upTo fun _ => strict_call (reads_answer .describeAccounts))
    fun _ => stops_of_asksOnly Lookup.asksOnly_unique

end Mysql

/-! ## Operations by kind -/

namespace Lifecycle

variable {settings : Settings} {pageSize : UInt64}

theorem stops_map {α β : Type} {find : Api (Option α)} {g : α → β}
    (h : Stops (· = none) find) :
    Stops (· = none) (find >>= fun found => pure (found.map g) : Api (Option β)) :=
  h.bind (fun _ hnone => hnone ▸ rests_pure rfl) fun _ => stops_pure

theorem stops_ifFound {α : Type} {find : Api (Option α)} {remove : Option α → Api Unit}
    (h : Stops (· = none) find) (hnone : remove none = pure ())
    (hsome : ∀ a, Stops (fun _ => True) (remove (some a))) :
    Stops (fun _ => True) (find >>= remove) := by
  refine h.bind (fun _ ha => ha ▸ hnone ▸ rests_pure trivial) fun found => ?_
  cases found with
  | none => exact hnone ▸ stops_pure
  | some a => exact hsome a

theorem strict_ensureInVpc {table vpcId : String} : Strict (ensureInVpc pageSize table vpcId) := by
  have hin : Stops (· = false) (Network.isRouteTableInVpc pageSize table vpcId) :=
    Network.stops_uniqueRouteTable.bind (fun _ hnone => hnone ▸ rests_pure rfl) fun _ => stops_pure
  refine hin.bind (fun found hfalse => hfalse ▸ rests_throw) fun found => ?_
  split_ifs
  · exact stops_pure
  · exact stops_throw

theorem strict_finish {change : Api String} (h : Strict change) : Strict (finish settings change) :=
  Strict.bind h fun _ => Mysql.strict_await

theorem strict_grant {mysqlId name : String} {g : Mysql.Grant} :
    Strict (grant settings mysqlId name g) :=
  strict_finish (Mysql.strict_requested (reads_answer .modifyAccountPrivileges))

theorem stops_readRouteEntry (s : String) : Stops (· = none) (readRouteEntry pageSize s) := by
  refine stops_lift_bind fun id => ?_
  refine Network.stops_uniqueRouteTable.bind (fun _ hnone => hnone ▸ rests_pure rfl) fun table => ?_
  cases table with
  | none => exact stops_pure
  | some _ => exact stops_pure

theorem stops_readAccount (s : String) : Stops (· = none) (readAccount settings s) := by
  refine stops_lift_bind fun ⟨mysqlId, name⟩ => stops_orIfNotFound ?_
  exact Strict.bind Mysql.strict_findAccount fun _ => stops_pure

theorem stops_readPrivilege (s : String) : Stops (· = none) (readPrivilege settings s) := by
  refine stops_lift_bind fun ⟨mysqlId, name, database⟩ => stops_orIfNotFound ?_
  refine Strict.bind (Strict.bind Mysql.strict_findAccount fun account => ?_) fun _ => stops_pure
  cases account with
  | none => exact stops_pure
  | some _ =>
    refine Strict.bind ?_ fun _ => stops_pure
    exact Strict.bind (strict_call (reads_answer .describeAccountPrivileges)) fun _ => stops_pure

/-- **A read gives nothing after a failure.** -/
theorem stops_read (settings : Settings) (kind : LifecycleKind) (s : String) :
    Stops (· = none) ((kind.lifecycle settings).read s) := by
  cases kind with
  | vpc => exact stops_map Network.stops_findVpc
  | subnet => exact stops_map Network.stops_findSubnet
  | routeTable => exact stops_map Network.stops_uniqueRouteTable
  | routeEntry => exact stops_readRouteEntry s
  | account => exact stops_readAccount s
  | privilege => exact stops_readPrivilege s
  | backupPolicy =>
    refine stops_orIfNotFound ?_
    exact Strict.bind (strict_call (reads_answer .describeBackupConfig)) fun _ => stops_pure

theorem strict_createSubnet {r : Resource} : Strict (createSubnet pageSize r) := by
  refine stops_lift_bind fun vpcId => stops_lift_bind fun zone => stops_lift_bind fun name =>
    stops_lift_bind fun cidrBlock => ?_
  have hcreate : Strict (Network.createSubnet vpcId name cidrBlock zone) :=
    Strict.bind (strict_call (reads_answer .createSubnet)) fun _ => Network.strict_checkId
  have hmodify : ∀ id, Strict (Network.modifySubnet id name (r.boolOr "is_multicast" true)) :=
    fun _ => strict_call (reads_answer _)
  cases r.text? "route_table_id" with
  | none =>
    exact Strict.bind hcreate fun id => Strict.bind (hmodify id) fun _ => stops_pure
  | some table =>
    refine Strict.bind strict_ensureInVpc fun _ => ?_
    refine Strict.bind hcreate fun id => Strict.bind (hmodify id) fun _ => ?_
    exact Strict.bind (strict_call (reads_answer .replaceRouteTableAssociation)) fun _ => stops_pure

theorem strict_createRouteEntry {r : Resource} : Strict (createRouteEntry pageSize r) := by
  refine stops_lift_bind fun table => stops_lift_bind fun destination =>
    stops_lift_bind fun gatewayType => stops_lift_bind fun gatewayId => ?_
  have hcreate : ∀ spec, Strict (Network.createRoute pageSize table spec >>= fun entry =>
      pure (RouteEntryId.text ⟨entry, table⟩)) :=
    fun _ => Strict.bind Network.strict_createRoute fun _ => stops_pure
  cases r.text? "vpc_id" with
  | none => exact hcreate _
  | some vpcId => exact Strict.bind strict_ensureInVpc fun _ => hcreate _

/-- **A new entity is not made after a failure.** -/
theorem strict_create (settings : Settings) (kind : LifecycleKind) (r : Resource) :
    Strict ((kind.lifecycle settings).create r) := by
  cases kind with
  | vpc =>
    refine stops_lift_bind fun name => stops_lift_bind fun cidrBlock => ?_
    exact Strict.bind (strict_call (reads_answer .createVpc)) fun _ => Network.strict_checkId
  | subnet => exact strict_createSubnet
  | routeTable =>
    refine stops_lift_bind fun vpcId => stops_lift_bind fun name => ?_
    exact Strict.bind (strict_call (reads_answer .createRouteTable)) fun _ => Network.strict_checkId
  | routeEntry => exact strict_createRouteEntry
  | account =>
    refine stops_lift_bind fun mysqlId => stops_lift_bind fun name =>
      stops_lift_bind fun password => ?_
    exact Strict.bind (strict_finish (Mysql.strict_requested (reads_answer .createAccounts)))
      fun _ => stops_pure
  | privilege =>
    refine stops_lift_bind fun mysqlId => stops_lift_bind fun name =>
      stops_lift_bind fun database => ?_
    exact Strict.bind strict_grant fun _ => stops_pure
  | backupPolicy =>
    refine stops_lift_bind fun mysqlId => ?_
    exact Strict.bind (strict_call (reads_answer .modifyBackupConfig)) fun _ => stops_pure

theorem strict_updateSubnet {s : String} {current : State} {desired : Resource} :
    Strict (updateSubnet pageSize s current desired) := by
  refine stops_lift_bind fun name => ?_
  have hmodify : ∀ isMulticast, Strict (Network.modifySubnet s name isMulticast) :=
    fun _ => strict_call (reads_answer .modifySubnetAttribute)
  have hmove : ∀ table, Strict (do
      let vpcId ← desired.required "vpc_id"
      ensureInVpc pageSize table vpcId
      Network.associateRouteTable s table) :=
    fun table => stops_lift_bind fun vpcId => Strict.bind strict_ensureInVpc fun _ =>
      strict_call (reads_answer .replaceRouteTableAssociation)
  dsimp only
  cases newTable? current desired with
  | none =>
    split_ifs
    · exact Strict.bind (hmodify _) fun _ => stops_pure
    · exact stops_pure
  | some table =>
    split_ifs
    · exact Strict.bind (hmodify _) fun _ => hmove table
    · exact hmove table

theorem strict_updateAccount {s : String} {current : State} {desired : Resource} :
    Strict (updateAccount settings s current desired) := by
  refine stops_lift_bind fun ⟨mysqlId, name⟩ => stops_lift_bind fun password => ?_
  have hpassword : Strict (finish settings (Mysql.setPassword mysqlId name password)) :=
    strict_finish (Mysql.strict_requested (reads_answer .modifyAccountPassword))
  have hdescription : ∀ description, Strict (finish settings
      (Mysql.setDescription mysqlId name description)) :=
    fun _ => strict_finish (Mysql.strict_requested (reads_answer .modifyAccountDescription))
  dsimp only
  split_ifs
  · exact Strict.bind hpassword fun _ => hdescription _
  · exact Strict.bind hpassword fun _ => stops_pure
  · exact hdescription _
  · exact stops_pure

/-- **An update does not go on after a failure.** -/
theorem strict_update (settings : Settings) (kind : LifecycleKind) (s : String) (current : State)
    (desired : Resource) : Strict ((kind.lifecycle settings).update s current desired) := by
  cases kind with
  | vpc => exact stops_lift_bind fun _ => strict_call (reads_answer .modifyVpcAttribute)
  | subnet => exact strict_updateSubnet
  | routeTable =>
    exact stops_lift_bind fun _ => strict_call (reads_answer .modifyRouteTableAttribute)
  | routeEntry => exact stops_pure
  | account => exact strict_updateAccount
  | privilege => exact stops_lift_bind fun ⟨_, _, _⟩ => strict_grant
  | backupPolicy => exact strict_call (reads_answer .modifyBackupConfig)

theorem stops_deleteAccount (s : String) :
    Stops (fun _ => True) (deleteAccount settings s) := by
  refine stops_lift_bind fun ⟨mysqlId, name⟩ => ?_
  refine stops_ifFound (stops_readAccount s) rfl fun _ => ?_
  refine stops_ifFound (stops_orIfNotFound ?_) rfl fun _ => Mysql.strict_await.stops
  exact Strict.bind (Mysql.strict_requested (reads_answer .deleteAccounts)) fun _ => stops_pure

theorem stops_delete (settings : Settings) (kind : LifecycleKind) (s : String) :
    Stops (fun _ => True) ((kind.lifecycle settings).delete s) := by
  cases kind with
  | vpc =>
    refine stops_ifFound Network.stops_findVpc rfl fun _ => ?_
    exact stops_acceptGone (strict_call (reads_answer .deleteVpc))
  | subnet =>
    refine stops_ifFound Network.stops_findSubnet rfl fun _ => ?_
    exact stops_acceptGone (strict_call (reads_answer .deleteSubnet))
  | routeTable =>
    refine stops_ifFound Network.stops_uniqueRouteTable rfl fun _ => ?_
    exact stops_acceptGone (strict_call (reads_answer .deleteRouteTable))
  | routeEntry =>
    refine stops_lift_bind fun id => stops_ifFound (stops_readRouteEntry s) rfl fun _ => ?_
    exact stops_acceptGone (strict_call (reads_answer .deleteRoutes))
  | account => exact stops_deleteAccount s
  | privilege =>
    refine stops_lift_bind fun ⟨_, _, _⟩ => stops_ifFound (stops_readPrivilege s) rfl fun _ => ?_
    exact (stops_orIfNotFound strict_grant).mono fun _ _ => trivial
  | backupPolicy => exact stops_acceptGone (strict_call (reads_answer .modifyBackupConfig))

end Lifecycle

/-! ## Data sources -/

namespace DataSource

variable {pageSize : UInt64}

theorem strict_vpcItems (vpcs : List Network.Vpc) : Strict (vpcItems pageSize vpcs) := by
  induction vpcs with
  | nil => exact stops_pure
  | cons v rest ih =>
    exact Strict.bind Network.strict_listSubnets fun _ => Strict.bind ih fun _ => stops_pure

theorem strict_backupList (r : Resource) : Strict (backupList pageSize r) := by
  have hlist : ∀ mysqlId max, Strict (Mysql.listBackups pageSize mysqlId max) := by
    intro mysqlId max
    rw [Mysql.listBackups]
    split_ifs
    · exact stops_pure
    · exact Listing.strict_upTo fun _ => strict_call (reads_answer .describeBackups)
  rw [backupList]
  cases r.text? "mysql_id" with
  | none => exact stops_throw
  | some mysqlId =>
    dsimp only
    split_ifs
    · exact stops_throw
    · exact Strict.bind (hlist _ _) fun _ => stops_pure

theorem strict_parameterList (r : Resource) : Strict (parameterList r) := by
  rw [parameterList]
  cases r.text? "mysql_id" with
  | some mysqlId =>
    exact Strict.bind (strict_call (reads_answer .describeInstanceParams)) fun _ => stops_pure
  | none =>
    cases r.text? "engine_version" with
    | some version =>
      exact Strict.bind (strict_call (reads_answer .describeDefaultParams)) fun _ => stops_pure
    | none => exact stops_throw

/-- **Nothing is looked up after a failure.** -/
theorem strict_dataSource (settings : Settings) (kind : SourceKind) (r : Resource) :
    Strict (kind.dataSource settings r) := by
  cases kind with
  | vpcInstances =>
    exact Strict.bind Network.strict_listVpcs fun vpcs =>
      Strict.bind (strict_vpcItems vpcs) fun _ => stops_pure
  | vpcSubnets => exact Strict.bind Network.strict_listSubnets fun _ => stops_pure
  | vpcRouteTables =>
    exact Strict.bind Network.strict_listRouteTables fun _ => stops_lift_bind fun _ => stops_pure
  | backupList => exact strict_backupList r
  | parameterList => exact strict_parameterList r
  | zoneConfig =>
    exact Strict.bind (strict_call (reads_answer .describeZoneConfig)) fun _ => stops_pure

end DataSource

/-! ## Operations of the provider -/

namespace Provider

variable (settings : Settings)

theorem stops_logFailure {α : Type} {P : α → Prop} {message : String} {id : ResourceId}
    {op : Api α} (h : Stops P op) : Stops P (logFailure message id op) :=
  fun ex r hy => h ex r (yields_logFailure.mp hy)

theorem strict_readBack {kind : LifecycleKind} {desired : Resource} {s : String} :
    Strict (readBack kind.schema (kind.lifecycle settings) desired s) := by
  refine (Lifecycle.stops_read settings kind s).bind (fun _ hnone => hnone ▸ rests_throw)
    fun attributes => ?_
  cases attributes with
  | none => exact stops_throw
  | some _ => exact stops_pure

theorem stops_read (id : ResourceId) (identifier : Option String) :
    Stops (fun _ => True) (read settings id identifier) := by
  refine Stops.onResource (stops_lift_bind fun kind => ?_) id
  cases identifier with
  | none => exact stops_pure
  | some s =>
    have hnone : Rests (fun _ => True) (event .debug "not found" id [("identifier", s)] >>=
        fun _ => pure (State.absent id)) := (rests_pure trivial).log_bind _
    refine (Lifecycle.stops_read settings kind s).bind (fun _ ha => ha ▸ hnone) fun attributes => ?_
    cases attributes with
    | none => exact hnone.stops
    | some _ => exact stops_log_bind stops_pure

theorem strict_create (r : Resource) : Strict (create settings r) := by
  refine Stops.onResource (stops_lift_bind fun kind => ?_) r.id
  refine stops_lift_bind fun r => stops_log_bind ?_
  refine Strict.bind (stops_logFailure (Lifecycle.strict_create settings kind r)) fun s => ?_
  exact stops_log_bind (strict_readBack settings)

theorem strict_update (id : ResourceId) (s : String) (current : State) (desired : Resource) :
    Strict (update settings id s current desired) := by
  refine Stops.onResource (stops_lift_bind fun kind => ?_) id
  refine stops_lift_bind fun desired => stops_lift_bind fun _ => stops_log_bind ?_
  refine Strict.bind (stops_logFailure ?_) fun _ => strict_readBack settings
  exact Lifecycle.strict_update settings kind s current desired

theorem stops_delete (id : ResourceId) (s : String) :
    Stops (fun _ => True) (delete settings id s) := by
  refine Stops.onResource (stops_lift_bind fun kind => stops_log_bind ?_) id
  exact stops_logFailure (Lifecycle.stops_delete settings kind s)

theorem strict_query (r : Resource) : Strict (query settings r) := by
  refine Stops.onResource (stops_lift_bind fun kind => stops_lift_bind fun r => ?_) r.id
  refine Strict.bind (DataSource.strict_dataSource settings kind r) fun _ => ?_
  exact stops_log_bind stops_pure

/-- **No call follows a failed one**: whatever is asked for, and whatever the remote answers, a call
for which the remote reports an error, or whose answer cannot be read, is the last one. -/
theorem failed_call_is_last {σ : Type} (remote : Dialogue.Remote σ Call Reply) (start : σ) :
    (∀ r, EndsWithFailure ((create settings r).against remote start)) ∧
    (∀ id identifier, EndsWithFailure ((read settings id identifier).against remote start)) ∧
    (∀ id s current desired,
      EndsWithFailure ((update settings id s current desired).against remote start)) ∧
    (∀ id s, EndsWithFailure ((delete settings id s).against remote start)) ∧
    ∀ r, EndsWithFailure ((query settings r).against remote start) :=
  ⟨fun r => (strict_create settings r).endsWithFailure remote start,
    fun id identifier => (stops_read settings id identifier).endsWithFailure remote start,
    fun id s current desired =>
      (strict_update settings id s current desired).endsWithFailure remote start,
    fun id s => (stops_delete settings id s).endsWithFailure remote start,
    fun r => (strict_query settings r).endsWithFailure remote start⟩

/-- A subnet that could not be given its flag gets no route table. -/
theorem failed_flag_is_last :
    let desired : Resource :=
      { id := ⟨"subnet", "web"⟩
        attributes := .ofList
          [("name", .text "web"), ("vpc_id", .text "vpc-1"), ("availability_zone", .text "zone-3"),
           ("cidr_block", .text "10.0.1.0/24"), ("route_table_id", .text "rtb-1")] }
    let run := (create ⟨"ap-guangzhou", 20, ⟨3, 1⟩⟩ desired).against
      (Dialogue.scripted fun _ => .ok .null)
      [.ok (Json.object [("RouteTableSet", .arr [Json.object [("RouteTableId", .str "rtb-1")]])]),
       .ok (Json.object [("Subnet", Json.object [("SubnetId", .str "subnet-1")])]),
       .error ⟨"ModifySubnetAttribute", "InternalError", "try again", none⟩]
    (∃ x, run.exchanges[2]? = some x ∧ Fails x) ∧ run.questions.length = 3 := by
  intro desired run
  have hfailed : run.exchanges[2]?.bind failure? =
      some ⟨.remote ⟨"ModifySubnetAttribute", "InternalError", "try again", none⟩, none⟩ := by
    decide +kernel
  obtain ⟨x, hx, he⟩ := Option.bind_eq_some_iff.mp hfailed
  have hfails : Fails x := fails_iff.mpr ⟨_, he⟩
  exact ⟨⟨x, hx, hfails⟩, (failed_call_is_last _ _ _).1 desired 2 x hx hfails⟩

end Provider

end CloudProvider
