import CloudProvider.Proofs.Addressing
import CloudProvider.Proofs.Carrying

/-!
# Identifiers that creations give

A creation that goes well gives the identifier of what it has sent. The identifier is put together
from names without a look at what they hold, so a separator in one of them makes it useless, and the
resource is created before that shows.

* `Call.IsSentFor`: whether a change is sent for an entity with some names.
* **`Lifecycle.created_of_yields`**: what a creation that goes well has sent, and its identifier.
* **`Provider.usable_of_create_iff`**: which creations give an identifier that can be used.
-/

namespace CloudProvider

open Operation Api

/-! ## The names that a creation is sent for -/

/-- The paths to the names of the entity that a creation is sent for, where its identifier is made
of them. -/
def Action.addressed : Action → List (List String)
  | .createRoutes => [["RouteTableId"]]
  | .createAccounts => [["InstanceId"], ["Accounts", "User"]]
  | .modifyAccountPrivileges =>
    [["InstanceId"], ["Accounts", "User"], ["DatabasePrivileges", "Database"]]
  | _ => []

/-- **Whether a change is sent for an entity** with some names. -/
def Call.IsSentFor (c : Call) (names : List String) : Prop :=
  c.action.addressed.map (fun path => c.request.at? path) = names.map fun s => some (.str s)

namespace Network

/-- The change that adds a route to a table. -/
def routeCreation (routeTableId : String) (spec : RouteSpec) : Call :=
  ⟨.createRoutes, Json.object
    [("RouteTableId", .str routeTableId), ("Routes", .arr [spec.json])]⟩

theorem routeCreation_isSentFor {routeTableId : String} {spec : RouteSpec} :
    (routeCreation routeTableId spec).IsSentFor [routeTableId] := by
  simp [Call.IsSentFor, routeCreation, Action.addressed, Json.at?, Json.onlyItem, Json.object,
    Json.member?, Fields.ofList]

end Network

namespace Mysql

/-- The change that adds an account. -/
def accountCreation (mysqlId name password description : String) : Call :=
  ⟨.createAccounts, Json.object
    [("InstanceId", .str mysqlId), ("Accounts", accountsOf name), ("Password", .str password),
     ("Description", .str description)]⟩

theorem accountCreation_isSentFor {mysqlId name password description : String} :
    (accountCreation mysqlId name password description).IsSentFor [mysqlId, name] := by
  simp [Call.IsSentFor, accountCreation, accountsOf, Action.addressed, Json.at?, Json.onlyItem,
    Json.object, Json.member?, Fields.ofList]

theorem grantChange_isSentFor {mysqlId name : String} {g : Grant} :
    (grantChange mysqlId name g).IsSentFor [mysqlId, name, g.database] := by
  simp [Call.IsSentFor, grantChange, Grant.json, accountsOf, Action.addressed, Json.at?,
    Json.onlyItem, Json.object, Json.member?, Fields.ofList]

end Mysql

/-! ## Creations that go well -/

theorem Resource.text?_of_required {r : Resource} {key s : String} (h : r.required key = .ok s) :
    r.text? key = some s := by
  unfold required at h
  split at h
  · next t ht =>
    obtain rfl := Except.ok.inj h
    exact ht
  · cases h

theorem Resource.ne_empty_of_required {r : Resource} {key s : String}
    (h : r.required key = .ok s) : s ≠ "" := by
  have hs := Option.filter_eq_some_iff.mp (text?_of_required h)
  exact of_decide_eq_true hs.2

/-- Whether no name that the identifier of a resource is made of holds the separator. -/
def LifecycleKind.Plain (kind : LifecycleKind) (r : Resource) : Prop :=
  ∀ p ∈ kind.names r, kind.separator ∉ p.toList

instance (kind : LifecycleKind) (r : Resource) : Decidable (kind.Plain r) :=
  inferInstanceAs (Decidable (∀ p ∈ kind.names r, kind.separator ∉ p.toList))

/-- Only identifiers made of names need not be addresses. -/
theorem LifecycleKind.keys_ne_nil {kind : LifecycleKind} {s : String} (h : ¬ kind.IsAddress s) :
    kind.keys ≠ [] := by
  cases kind with
  | routeEntry | account | privilege => exact List.cons_ne_nil _ _
  | vpc | subnet | routeTable | backupPolicy => exact absurd trivial h

/-- **What a creation that goes well has done.** Its identifier is made of the desired names, none
of which is empty, and where there are any the one change that it has made is sent for them. -/
structure LifecycleKind.Created (kind : LifecycleKind) (r : Resource) (ex : List (Call × Reply))
    (s : String) : Prop where
  writes : kind.Writes (kind.names r) s
  nonempty : ∀ p ∈ kind.names r, p ≠ ""
  sent (hkeys : kind.keys ≠ []) : ∃ c, changes ex = [c] ∧ c.IsSentFor (kind.names r)

namespace Network

theorem createRoute_eq_bind (pageSize : UInt64) (table : String) (spec : RouteSpec) :
    ∃ rest : Unit → Api UInt64, (∀ u, Looks (rest u)) ∧ createRoute pageSize table spec =
      (command .createRoutes (routeCreation table spec).request : Api Unit) >>= rest := by
  refine ⟨_, fun _ => ?_, rfl⟩
  refine AsksOnly.bind looks_uniqueRouteTable fun found => ?_
  cases found with
  | none => exact asksOnly_throw
  | some t =>
    refine AsksOnly.bind Lookup.asksOnly_unique fun route => ?_
    cases route with
    | none => exact asksOnly_throw
    | some _ => exact asksOnly_pure

theorem makes_createRoute {pageSize : UInt64} {table : String} {spec : RouteSpec} :
    Makes (createRoute pageSize table spec) [routeCreation table spec] := by
  obtain ⟨rest, hrest, heq⟩ := createRoute_eq_bind pageSize table spec
  rw [heq]
  exact (makes_command rfl).bind_looks hrest

theorem failsOnly_createRoute {P : Error → Prop} (hP : CoversFailures P) {pageSize : UInt64}
    {table : String} {spec : RouteSpec}
    (htable : FailsOnly P (uniqueRouteTable pageSize table none)) :
    FailsOnly P (createRoute pageSize table spec) := by
  refine FailsOnly.bind (failsOnly_call hP) fun _ => FailsOnly.bind htable fun found => ?_
  cases found with
  | none => exact failsOnly_throw (hP _ rfl rfl)
  | some t =>
    refine FailsOnly.bind (Lookup.failsOnly_unique hP) fun route => ?_
    cases route with
    | none => exact failsOnly_throw (hP _ rfl rfl)
    | some _ => exact failsOnly_pure

theorem neverRejects_createRoute {pageSize : UInt64} (hp : pageSize ≠ 0) {table : String}
    {spec : RouteSpec} : NeverRejects (createRoute pageSize table spec) :=
  failsOnly_createRoute coversFailures_valid (neverRejects_uniqueRouteTable hp)

theorem failsOnly_checkId {P : Error → Prop} (hP : CoversFailures P) {action : Action}
    {id : String} : FailsOnly P (checkId action id) := by
  rw [checkId]
  split_ifs
  · exact failsOnly_throw (hP _ rfl rfl)
  · exact failsOnly_pure

theorem neverRejects_checkId {action : Action} {id : String} : NeverRejects (checkId action id) :=
  failsOnly_checkId coversFailures_valid

end Network

namespace Lifecycle

variable {settings : Settings} {pageSize : UInt64} {kind : LifecycleKind} {r : Resource}
  {ex : List (Call × Reply)} {s : String}

theorem created_of_changes {c : Call} {names : List String} (hnames : kind.names r = names)
    (hne : ∀ p ∈ names, p ≠ "") (hwrites : kind.Writes names s) (hsent : c.IsSentFor names)
    (hchanges : changes ex = [c]) : kind.Created r ex s where
  writes := hnames ▸ hwrites
  nonempty := hnames ▸ hne
  sent _ := ⟨c, hchanges, hnames ▸ hsent⟩

theorem created_routeEntry (h : Yields (createRouteEntry pageSize r) ex (.ok s)) :
    LifecycleKind.routeEntry.Created r ex s := by
  obtain ⟨table, htable, h⟩ := yields_lift_bind_ok.mp h
  obtain ⟨destination, -, h⟩ := yields_lift_bind_ok.mp h
  obtain ⟨gatewayType, -, h⟩ := yields_lift_bind_ok.mp h
  obtain ⟨gatewayId, -, h⟩ := yields_lift_bind_ok.mp h
  have hnames : LifecycleKind.routeEntry.names r = [table] := by
    simp [LifecycleKind.names, LifecycleKind.keys, Resource.text?_of_required htable]
  have hroute (spec : Network.RouteSpec) {ex : List (Call × Reply)} (h : Yields (do
      let entry ← Network.createRoute pageSize table spec
      return RouteEntryId.text ⟨entry, table⟩) ex (.ok s)) :
      ∃ entry, s = RouteEntryId.text ⟨entry, table⟩ ∧
        changes ex = [Network.routeCreation table spec] := by
    obtain ⟨x, hx, hs⟩ := yields_bind_pure.mp h
    cases x with
    | error e => cases hs
    | ok entry => exact ⟨entry, Except.ok.inj hs, Network.makes_createRoute ex entry hx⟩
  obtain ⟨spec, entry, rfl, hchanges⟩ : ∃ spec entry, s = RouteEntryId.text ⟨entry, table⟩ ∧
      changes ex = [Network.routeCreation table spec] := by
    dsimp only at h
    cases hvpc : r.text? "vpc_id" with
    | none =>
      rw [hvpc] at h
      exact ⟨_, hroute _ h⟩
    | some vpcId =>
      rw [hvpc] at h
      rcases yields_bind.mp h with ⟨_, -, hs⟩ | ⟨ex₁, _, ex₂, rfl, h₁, h₂⟩
      · cases hs
      · rw [changes_append, changes_eq_nil (looks_ensureInVpc ex₁ _ h₁), List.nil_append]
        exact ⟨_, hroute _ h₂⟩
  refine created_of_changes hnames ?_ (.routeEntry entry table) Network.routeCreation_isSentFor
    hchanges
  simp [Resource.ne_empty_of_required htable]

theorem created_account (h : Yields (createAccount settings r) ex (.ok s)) :
    LifecycleKind.account.Created r ex s := by
  obtain ⟨mysqlId, hmysqlId, h⟩ := yields_lift_bind_ok.mp h
  obtain ⟨name, hname, h⟩ := yields_lift_bind_ok.mp h
  obtain ⟨password, -, h⟩ := yields_lift_bind_ok.mp h
  have hnames : LifecycleKind.account.names r = [mysqlId, name] := by
    simp [LifecycleKind.names, LifecycleKind.keys, Resource.text?_of_required hmysqlId,
      Resource.text?_of_required hname]
  obtain ⟨x, hfinish, hs⟩ := yields_bind_pure.mp h
  cases x with
  | error e => cases hs
  | ok _ =>
    obtain rfl := Except.ok.inj hs
    refine created_of_changes hnames ?_ (.account mysqlId name) Mysql.accountCreation_isSentFor
      (makes_finish rfl ex _ hfinish)
    simp [Resource.ne_empty_of_required hmysqlId, Resource.ne_empty_of_required hname]

theorem created_privilege (h : Yields (createPrivilege settings r) ex (.ok s)) :
    LifecycleKind.privilege.Created r ex s := by
  obtain ⟨mysqlId, hmysqlId, h⟩ := yields_lift_bind_ok.mp h
  obtain ⟨name, hname, h⟩ := yields_lift_bind_ok.mp h
  obtain ⟨database, hdatabase, h⟩ := yields_lift_bind_ok.mp h
  have hnames : LifecycleKind.privilege.names r = [mysqlId, name, database] := by
    simp [LifecycleKind.names, LifecycleKind.keys, Resource.text?_of_required hmysqlId,
      Resource.text?_of_required hname, Resource.text?_of_required hdatabase]
  obtain ⟨x, hfinish, hs⟩ := yields_bind_pure.mp h
  cases x with
  | error e => cases hs
  | ok _ =>
    obtain rfl := Except.ok.inj hs
    refine created_of_changes hnames ?_ (.privilege mysqlId name database)
      Mysql.grantChange_isSentFor (makes_finish rfl ex _ hfinish)
    simp [Resource.ne_empty_of_required hmysqlId, Resource.ne_empty_of_required hname,
      Resource.ne_empty_of_required hdatabase]

/-- **What a creation has sent**, and what its identifier is made of. -/
theorem created_of_yields (h : Yields ((kind.lifecycle settings).create r) ex (.ok s)) :
    kind.Created r ex s := by
  have hgiven (hkeys : kind.keys = []) : kind.Created r ex s := by
    have hnames : kind.names r = [] := by rw [LifecycleKind.names, hkeys, List.map_nil]
    refine ⟨hnames ▸ .given hkeys s, hnames ▸ nofun, fun hne => absurd hkeys hne⟩
  cases kind with
  | routeEntry => exact created_routeEntry h
  | account => exact created_account h
  | privilege => exact created_privilege h
  | vpc | subnet | routeTable | backupPolicy => exact hgiven rfl

/-! ## Creations that are rejected -/

theorem rejectsFirst_createSubnet : RejectsFirst (createSubnet pageSize r) := by
  refine rejectsFirst_lift_bind fun vpcId _ => ?_
  refine rejectsFirst_lift_bind fun zone _ => ?_
  refine rejectsFirst_lift_bind fun name _ => ?_
  refine rejectsFirst_lift_bind fun cidrBlock _ => ?_
  dsimp only
  have hid : NeverRejects (Network.createSubnet vpcId name cidrBlock zone) :=
    FailsOnly.bind neverRejects_call fun _ => Network.neverRejects_checkId
  cases r.text? "route_table_id" with
  | none =>
    refine NeverRejects.rejectsFirst (FailsOnly.bind hid fun id => ?_)
    exact FailsOnly.bind neverRejects_call fun _ => failsOnly_pure
  | some table =>
    refine looks_ensureInVpc.bind_rejectsFirst fun _ => ?_
    refine NeverRejects.rejectsFirst (FailsOnly.bind hid fun id => ?_)
    refine FailsOnly.bind neverRejects_call fun _ => ?_
    exact FailsOnly.bind neverRejects_call fun _ => failsOnly_pure

theorem rejectsFirst_createRouteEntry (hp : pageSize ≠ 0) :
    RejectsFirst (createRouteEntry pageSize r) := by
  refine rejectsFirst_lift_bind fun table _ => ?_
  refine rejectsFirst_lift_bind fun destination _ => ?_
  refine rejectsFirst_lift_bind fun gatewayType _ => ?_
  refine rejectsFirst_lift_bind fun gatewayId _ => ?_
  have hroute (spec : Network.RouteSpec) : NeverRejects (do
      let entry ← Network.createRoute pageSize table spec
      return RouteEntryId.text ⟨entry, table⟩) :=
    FailsOnly.bind (Network.neverRejects_createRoute hp) fun _ => failsOnly_pure
  dsimp only
  cases r.text? "vpc_id" with
  | none => exact (hroute _).rejectsFirst
  | some vpcId => exact looks_ensureInVpc.bind_rejectsFirst fun _ => (hroute _).rejectsFirst

theorem rejectsFirst_create (hp : settings.pageSize ≠ 0) :
    RejectsFirst ((kind.lifecycle settings).create r) := by
  cases kind with
  | vpc =>
    refine rejectsFirst_lift_bind fun name _ => rejectsFirst_lift_bind fun cidrBlock _ => ?_
    refine NeverRejects.rejectsFirst (FailsOnly.bind neverRejects_call fun _ => ?_)
    exact Network.neverRejects_checkId
  | subnet => exact rejectsFirst_createSubnet
  | routeTable =>
    refine rejectsFirst_lift_bind fun vpcId _ => rejectsFirst_lift_bind fun name _ => ?_
    refine NeverRejects.rejectsFirst (FailsOnly.bind neverRejects_call fun _ => ?_)
    exact Network.neverRejects_checkId
  | routeEntry => exact rejectsFirst_createRouteEntry hp
  | account =>
    refine rejectsFirst_lift_bind fun mysqlId _ => rejectsFirst_lift_bind fun name _ => ?_
    refine rejectsFirst_lift_bind fun password _ => NeverRejects.rejectsFirst ?_
    exact FailsOnly.bind (neverRejects_finish Mysql.neverRejects_requested) fun _ => failsOnly_pure
  | privilege =>
    refine rejectsFirst_lift_bind fun mysqlId _ => rejectsFirst_lift_bind fun name _ => ?_
    refine rejectsFirst_lift_bind fun database _ => NeverRejects.rejectsFirst ?_
    exact FailsOnly.bind (neverRejects_finish Mysql.neverRejects_requested) fun _ => failsOnly_pure
  | backupPolicy =>
    refine rejectsFirst_lift_bind fun mysqlId _ => NeverRejects.rejectsFirst ?_
    exact FailsOnly.bind neverRejects_call fun _ => failsOnly_pure

end Lifecycle

namespace Provider

variable {settings : Settings} {kind : LifecycleKind} {desired r : Resource}
  {ex : List (Call × Reply)} {s : String}

theorem rejectsFirst_create (hp : settings.pageSize ≠ 0) (htype : desired.id.type = kind.name)
    (hr : prepareFor kind.schema (kind.lifecycle settings) desired = .ok r)
    (hplain : kind.Plain r) : RejectsFirst (create settings desired) := by
  refine RejectsFirst.onResource ?_ desired.id
  rw [lifecycleKind_of_type htype]
  refine rejectsFirst_lift_bind fun kind' hkind => ?_
  obtain rfl := Except.ok.inj hkind
  refine rejectsFirst_lift_bind fun r' hr' => ?_
  obtain rfl := Except.ok.inj (hr.symm.trans hr')
  refine Looks.bind_rejectsFirst asksOnly_log fun _ => ?_
  refine RejectsFirst.bind_neverRejects (fun ex e hy => ?_) fun ex s hy => ?_
  · exact Lifecycle.rejectsFirst_create hp ex e (yields_logFailure.mp hy)
  · have hcreated := Lifecycle.created_of_yields (yields_logFailure.mp hy)
    have hs := (hcreated.writes.isAddress_iff hcreated.nonempty).mpr hplain
    exact FailsOnly.bind failsOnly_log fun _ => neverRejects_readBack hp hs

/-- **A resource may be created and then rejected** for its identifier. -/
theorem exists_yields_create (htype : desired.id.type = kind.name)
    (hr : prepareFor kind.schema (kind.lifecycle settings) desired = .ok r)
    (h : Yields ((kind.lifecycle settings).create r) ex (.ok s)) (hs : ¬ kind.IsAddress s) :
    ∃ e, e.ConcernsIdentifier ∧ Yields (create settings desired) ex (.error e) := by
  obtain ⟨e, he, hread⟩ := exists_yields_read settings hs
  refine ⟨e.forResource desired.id, he, yields_onResource.mpr ⟨.error e, ?_, rfl⟩⟩
  refine (yields_ok_bind (lifecycleKind_of_type htype)).mpr ((yields_ok_bind hr).mpr ?_)
  refine yields_log_bind.mpr (yields_bind.mpr (.inr ⟨ex, s, [], (List.append_nil ex).symm, ?_⟩))
  refine ⟨yields_logFailure.mpr h, yields_log_bind.mpr ?_⟩
  exact yields_bind.mpr (.inl ⟨e, hread, rfl⟩)

/-- **A creation that goes well gives an identifier that can be used just if no name in it holds the
separator.** Only then does the identifier give back the names that the creation was sent for, and
only then are such resources never rejected after a change. -/
theorem usable_of_create_iff (hp : settings.pageSize ≠ 0) (kind : LifecycleKind)
    (htype : desired.id.type = kind.name)
    (hr : prepareFor kind.schema (kind.lifecycle settings) desired = .ok r) {σ : Type}
    (remote : Dialogue.Remote σ Call Reply) (start : σ) :
    let run := ((kind.lifecycle settings).create r).against remote start
    ∀ s, run.result = .ok s →
      (kind.keys ≠ [] → ∃ c, changes run.exchanges = [c] ∧ c.IsSentFor (kind.names r)) ∧
      (kind.parse s = .ok (kind.names r) ↔ kind.Plain r) ∧
      (Usable settings kind s ↔ kind.Plain r) ∧
      ((∀ (τ : Type) (remote : Dialogue.Remote τ Call Reply) (start : τ),
        let whole := (create settings desired).against remote start
        ∀ e, whole.result = .error e → e.isInvalid = true →
          ∀ q ∈ whole.questions, q.action.isDescribing = true) ↔ kind.Plain r) := by
  intro run s hs
  have hy : Yields ((kind.lifecycle settings).create r) run.exchanges (.ok s) :=
    hs ▸ yields_against remote start _
  obtain ⟨hwrites, hne, hsent⟩ := Lifecycle.created_of_yields hy
  have haddress : kind.IsAddress s ↔ kind.Plain r := hwrites.isAddress_iff hne
  refine ⟨hsent, hwrites.parse_eq_ok hne, (usable_iff hp).trans haddress, ?_⟩
  rw [← rejectsFirst_iff]
  refine ⟨fun hfirst => haddress.mp ?_, rejectsFirst_create hp htype hr⟩
  by_cases h : kind.IsAddress s
  · exact h
  · -- Something has been created by the time the identifier is read.
    obtain ⟨e, he, hwhole⟩ := exists_yields_create htype hr hy h
    obtain ⟨c, hc, -⟩ := hsent (LifecycleKind.keys_ne_nil h)
    obtain ⟨x, hx, hchange⟩ := exists_of_mem_changes (hc ▸ List.mem_singleton.mpr rfl)
    rw [hfirst _ e hwhole he.isInvalid x hx] at hchange
    cases hchange

/-- An account of an instance with some name. -/
def accountNamed (name : String) : Resource where
  id := ⟨"mysql_account", "app"⟩
  attributes := .ofList
    [("mysql_id", .text "cdb-1"), ("name", .text name), ("password", .text "long-secret"),
     ("description", .text "--")]

/-- An account without the separator in its name. -/
theorem usable_of_plain_account :
    let settings : Settings := ⟨"ap-guangzhou", 20, ⟨3, 1⟩⟩
    let r := accountNamed "reader"
    let run := ((LifecycleKind.account.lifecycle settings).create r).against
      (Dialogue.scripted fun _ => .ok .null)
      [.ok (Json.object [("AsyncRequestId", .str "req-1")]),
       .ok (Json.object [("Status", .str "SUCCESS")])]
    settings.pageSize ≠ 0 ∧ r.id.type = LifecycleKind.account.name ∧
      prepareFor LifecycleKind.account.schema (LifecycleKind.account.lifecycle settings) r = .ok r ∧
      run.result = .ok "cdb-1#reader" ∧ Usable settings .account "cdb-1#reader" := by
  intro settings r run
  have hr : prepareFor LifecycleKind.account.schema
      (LifecycleKind.account.lifecycle settings) r = .ok r := by decide +kernel
  have hrun : run.result = .ok "cdb-1#reader" := by decide +kernel
  refine ⟨by decide, by decide +kernel, hr, hrun, ?_⟩
  have hplain : LifecycleKind.account.Plain r := by decide +kernel
  exact (usable_of_create_iff (by decide) .account (by decide +kernel) hr _ _ _
    hrun).2.2.1.mpr hplain

/-- **An account is created whose identifier cannot be used.** -/
theorem unusable_of_hashed_account :
    let settings : Settings := ⟨"ap-guangzhou", 20, ⟨3, 1⟩⟩
    let r := accountNamed "a#b"
    let replies : List Reply :=
      [.ok (Json.object [("AsyncRequestId", .str "req-1")]),
       .ok (Json.object [("Status", .str "SUCCESS")])]
    let run := ((LifecycleKind.account.lifecycle settings).create r).against
      (Dialogue.scripted fun _ => .ok .null) replies
    let whole := (create settings r).against (Dialogue.scripted fun _ => .ok .null) replies
    prepareFor LifecycleKind.account.schema (LifecycleKind.account.lifecycle settings) r = .ok r ∧
      run.result = .ok "cdb-1#a#b" ∧ ¬ Usable settings .account "cdb-1#a#b" ∧
      LifecycleKind.account.parse "cdb-1#a#b" ≠ .ok ["cdb-1", "a#b"] ∧
      whole.questions.map (fun q => q.action) = [.createAccounts, .describeAsyncRequestInfo] ∧
      whole.result = .error
        ⟨.invalid "identifier 'cdb-1#a#b' must look like <mysql_id>#<name>", some r.id⟩ := by
  intro settings r replies run whole
  refine ⟨by decide +kernel, by decide +kernel, fun h => ?_, by decide +kernel,
    by decide +kernel, by decide +kernel⟩
  have hread : ((read settings r.id (some "cdb-1#a#b")).against
      (Dialogue.scripted fun _ => .ok .null) []).result = .error
        ⟨.invalid "identifier 'cdb-1#a#b' must look like <mysql_id>#<name>", some r.id⟩ := by
    decide +kernel
  refine h r.id _ _ _ _ (by decide +kernel) (.inl hread) (.inl ⟨"cdb-1#a#b", ?_⟩)
  exact ⟨"<mysql_id>#<name>", by decide +kernel⟩

end Provider

end CloudProvider
