import CloudProvider.Proofs.Asking
import CloudProvider.Proofs.Changes

/-!
# Route tables are found before they are used

A new subnet that is to use a route table, the change of the table that a subnet uses and a new
route in the table of a given network all come after a look-up that has found the table there.

* `Operation.Follows`: whether all exchanges of an operation are allowed by those before them.
* `Network.FoundInVpc`: whether exchanges hold a whole listing with just one table of a network.
* `Network.UsesFound`: whether a call uses no route table but one that has been found.
* **`Lifecycle.follows_createSubnet`**, **`Lifecycle.follows_updateSubnet`**,
  **`Lifecycle.follows_createRouteEntry`**: the operations that use route tables.
* **`Provider.table_found_before_use`**: no run of them uses a table that has not been found.
-/

namespace CloudProvider

open Listing Operation Api

/-! ## What comes before -/

namespace Operation

variable {Q A α β : Type} {P : List (Q × A) → Q × A → Prop} {past : List (Q × A)}
  {op : Operation Q A α}

/-- **Whether all exchanges of an operation are allowed by those before them**, whatever the
answers. Some exchanges are past already when the operation starts. -/
def Follows (P : List (Q × A) → Q × A → Prop) (past : List (Q × A)) (op : Operation Q A α) : Prop :=
  ∀ ex r, Yields op ex r → ∀ before x after, ex = before ++ x :: after → P (past ++ before) x

theorem AsksOnly.follows {p : Q → Prop} (h : AsksOnly p op) (hp : ∀ past x, p x.1 → P past x) :
    Follows P past op := by
  rintro ex r hy before x after rfl
  exact hp _ x (h _ r hy x (List.mem_append_right before List.mem_cons_self))

theorem Follows.bind {f : α → Operation Q A β} (h : Follows P past op)
    (hf : ∀ ex a, Yields op ex (.ok a) → Follows P (past ++ ex) (f a)) :
    Follows P past (op >>= f) := by
  intro ex r hy before x after hex
  rcases yields_bind.mp hy with ⟨e, he, -⟩ | ⟨ex₁, a, ex₂, rfl, h₁, h₂⟩
  · exact h ex _ he before x after hex
  · rcases Mysql.append_eq_append_cons hex with ⟨mid, hmid, -⟩ | ⟨mid, hmid⟩
    · exact h ex₁ _ h₁ before x mid hmid
    · -- The exchange is in the second part, and the whole first part is before it.
      have hbefore : before = ex₁ ++ mid := by
        rw [hmid, ← List.append_assoc] at hex
        exact (List.append_cancel_right hex).symm
      rw [hbefore, ← List.append_assoc]
      exact hf ex₁ a h₁ ex₂ r h₂ mid x after hmid

theorem follows_lift_bind {c : Except Error α} {f : α → Operation Q A β}
    (hf : ∀ a, c = .ok a → Follows P past (f a)) :
    Follows P past ((liftM c : Operation Q A α) >>= f) := by
  intro ex r hy
  cases hc : c with
  | error e =>
    obtain ⟨rfl, -⟩ := (yields_error_bind hc).mp hy
    exact fun before x after hex => absurd hex.symm (by simp)
  | ok a => exact hf a hc ex r ((yields_ok_bind hc).mp hy)

theorem follows_log_bind {e : Event} {f : Unit → Operation Q A α} (hf : Follows P past (f ())) :
    Follows P past (log e >>= f) :=
  fun ex r hy => hf ex r (yields_log_bind.mp hy)

theorem Follows.onResource (h : Follows P past op) (id : ResourceId) :
    Follows P past (op.onResource id) := by
  intro ex r hy
  obtain ⟨x, hx, -⟩ := yields_onResource.mp hy
  exact h ex x hx

theorem Follows.against {σ : Type} (h : Follows P [] op) (remote : Dialogue.Remote σ Q A) (s : σ)
    {before after : List (Q × A)} {x : Q × A}
    (hex : (op.against remote s).exchanges = before ++ x :: after) : P before x :=
  h _ _ (yields_against remote s op) before x after hex

end Operation

namespace Api

variable {α : Type} {P : List (Call × Reply) → Call × Reply → Prop} {past : List (Call × Reply)}

theorem follows_call {action : Action} {request : Json} {decode : Json → Except Issue α}
    (h : ∀ reply, P past (⟨action, request⟩, reply)) :
    Follows P past (call action request decode) := by
  intro ex r hy before x after hex
  obtain ⟨reply, rfl, -⟩ := yields_call.mp hy
  obtain ⟨rfl, hx, -⟩ : before = [] ∧ x = (⟨action, request⟩, reply) ∧ after = [] := by
    simpa [List.singleton_eq_append_iff, and_assoc] using hex
  rw [hx, List.append_nil]
  exact h reply

theorem follows_logFailure {op : Api α} {message : String} {id : ResourceId}
    (h : Follows P past op) : Follows P past (Provider.logFailure message id op) :=
  fun ex r hy => h ex r (Provider.yields_logFailure.mp hy)

end Api

/-! ## Route tables that have been found -/

namespace Network

/-- **A call that asks for one route table**, by its id, among those of one network. -/
structure AsksForTable (table vpcId : String) (c : Call) : Prop where
  action : c.action = .describeRouteTables
  id : c.request.member? "RouteTableIds" = some (.strs [table])
  network : c.request.member? "Filters" =
    some (.arr [Json.object [("Name", .str "vpc-id"), ("Values", .strs [vpcId])]])

/-- **Whether a route table has been found in a network**: among some exchanges there was a listing
of the tables with its id in that network, from the first page to the last, and it had just one. -/
def FoundInVpc (pageSize : UInt64) (table vpcId : String) (past : List (Call × Reply)) : Prop :=
  ∃ before look after question found, past = before ++ look ++ after ∧
    (∀ c, AsksForTable table vpcId (question c)) ∧
    Paged pageSize none question (answer .describeRouteTables) 0 look (.ok [found])

/-- **Whether a call uses no route table but one that has been found** in the network, given what
table and network are desired, if any, and which subnets may be changed. -/
structure UsesFound (pageSize : UInt64) (table? vpcId? : Option String)
    (IsOwn : List (Call × Reply) → String → Prop) (past : List (Call × Reply)) (x : Call × Reply) :
    Prop where
  creation (h : x.1.action = .createSubnet) (htable : table?.isSome) :
    ∃ table vpcId, table? = some table ∧ vpcId? = some vpcId ∧
      FoundInVpc pageSize table vpcId past
  association (h : x.1.action = .replaceRouteTableAssociation) :
    ∃ table vpcId subnetId, table? = some table ∧ vpcId? = some vpcId ∧
      FoundInVpc pageSize table vpcId past ∧ IsOwn past subnetId ∧
      x.1 = associationChange subnetId table
  route (h : x.1.action = .createRoutes) (hvpc : vpcId?.isSome) :
    ∃ table vpcId, table? = some table ∧ vpcId? = some vpcId ∧
      FoundInVpc pageSize table vpcId past

/-- Whether a subnet is one that has been created among some exchanges. -/
def IsCreated (past : List (Call × Reply)) (subnetId : String) : Prop :=
  ∃ x ∈ past, x.1.action = .createSubnet ∧
    ∃ subnet, answer .createSubnet x.2 = .ok subnet ∧ subnet.id = subnetId

variable {pageSize : UInt64} {table vpcId : String} {past : List (Call × Reply)}
  {table? vpcId? : Option String} {IsOwn : List (Call × Reply) → String → Prop}

theorem FoundInVpc.append (h : FoundInVpc pageSize table vpcId past) (later : List (Call × Reply)) :
    FoundInVpc pageSize table vpcId (past ++ later) := by
  obtain ⟨before, look, after, question, found, rfl, hq, hpaged⟩ := h
  exact ⟨before, look, after ++ later, question, found, List.append_assoc .., hq, hpaged⟩

theorem asksForTable_listRequest (c : Cursor) :
    AsksForTable table vpcId ⟨.describeRouteTables, listRequest "RouteTableIds" (some table)
      [("vpc-id", some vpcId), ("route-table-name", none)] c⟩ where
  action := rfl
  id := by simp [listRequest, unlessEmpty, filterList, Json.object, Json.member?, Fields.ofList,
    Json.strs]
  network := by simp [listRequest, unlessEmpty, filterList, Json.object, Json.member?,
    Fields.ofList]

theorem foundInVpc_of_ensureInVpc {ex : List (Call × Reply)}
    (h : Yields (Lifecycle.ensureInVpc pageSize table vpcId) ex (.ok ()))
    (past : List (Call × Reply)) : FoundInVpc pageSize table vpcId (past ++ ex) := by
  have hp : pageSize ≠ 0 := Lifecycle.asksIf_ensureInVpc.of_yields h
  rcases yields_bind.mp h with ⟨_, -, he⟩ | ⟨ex₁, found, ex₂, rfl, h₁, h₂⟩
  · cases he
  · obtain ⟨y, hy, hfound⟩ := yields_bind_pure.mp h₁
    obtain ⟨x, hpaged, rfl⟩ := (yields_uniqueRouteTable hp).mp hy
    cases found with
    | false => cases (yields_throw.mp h₂).2
    | true =>
      obtain ⟨t, ht⟩ : ∃ t, ifNotFound .vpc [] x >>= Lookup.choice "route table" table =
          .ok (some t) := by
        cases hc : ifNotFound .vpc [] x >>= Lookup.choice "route table" table with
        | error e =>
          rw [hc] at hfound
          cases hfound
        | ok found =>
          rw [hc] at hfound
          exact (Option.isSome_iff_exists.mp (Except.ok.inj hfound).symm).imp fun t ht => by rw [ht]
      obtain ⟨tables, hx, hchoice⟩ := except_bind_eq_ok.mp ht
      obtain rfl := Lookup.choice_eq_some.mp hchoice
      rcases ifNotFound_eq_ok.mp hx with rfl | ⟨hnone, -⟩
      · exact ⟨past, ex₁, ex₂, _, t, (List.append_assoc ..).symm, asksForTable_listRequest, hpaged⟩
      · cases hnone

/-- The calls that use a route table. -/
def usesOfTables : List Action := [.createSubnet, .replaceRouteTableAssociation, .createRoutes]

theorem usesFound_of_notMem {x : Call × Reply} (h : x.1.action ∉ usesOfTables) :
    UsesFound pageSize table? vpcId? IsOwn past x where
  creation ha := absurd (ha ▸ List.mem_cons_self) h
  association ha := absurd (ha ▸ List.mem_cons_of_mem _ List.mem_cons_self) h
  route ha := absurd (ha ▸ List.mem_cons_of_mem _ (List.mem_cons_of_mem _ List.mem_cons_self)) h

theorem usesFound_of_createSubnet {x : Call × Reply} (h : x.1.action = .createSubnet)
    (hfound : table?.isSome = true → ∃ table vpcId, table? = some table ∧ vpcId? = some vpcId ∧
      FoundInVpc pageSize table vpcId past) :
    UsesFound pageSize table? vpcId? IsOwn past x where
  creation _ := hfound
  association ha := absurd (h.symm.trans ha) (by decide)
  route ha := absurd (h.symm.trans ha) (by decide)

theorem follows_of_looks {α : Type} {op : Api α} (h : Looks op) :
    Follows (UsesFound pageSize table? vpcId? IsOwn) past op := by
  refine h.follows fun past x hx => usesFound_of_notMem fun hmem => ?_
  simp only [usesOfTables, List.mem_cons, List.not_mem_nil, or_false] at hmem
  rcases hmem with ha | ha | ha <;> rw [ha] at hx <;> cases hx

end Network

/-! ## The operations that use route tables -/

namespace Lifecycle

open Network

variable {settings : Settings} {pageSize : UInt64} {r : Resource} {s table vpcId : String}
  {table? vpcId? : Option String} {IsOwn : List (Call × Reply) → String → Prop}
  {past : List (Call × Reply)}

theorem follows_associate (hfound : FoundInVpc pageSize table vpcId past) (hown : IsOwn past s) :
    Follows (UsesFound pageSize (some table) (some vpcId) IsOwn) past
      (associateRouteTable s table) := by
  refine follows_call fun reply => ⟨nofun, fun _ => ?_, nofun⟩
  exact ⟨table, vpcId, s, rfl, rfl, hfound, hown, rfl⟩

theorem isCreated_of_createSubnet {name cidrBlock zone : String} {ex : List (Call × Reply)}
    (h : Yields (Network.createSubnet vpcId name cidrBlock zone) ex (.ok s))
    (past : List (Call × Reply)) : IsCreated (past ++ ex) s := by
  rcases yields_bind.mp h with ⟨_, -, he⟩ | ⟨ex₁, subnet, ex₂, rfl, h₁, h₂⟩
  · cases he
  · obtain ⟨reply, rfl, hreply⟩ := yields_call.mp h₁
    have hid : subnet.id = s := by
      rw [checkId] at h₂
      split_ifs at h₂
      · cases (yields_throw.mp h₂).2
      · exact (Except.ok.inj (yields_pure.mp h₂).2).symm
    exact ⟨_, List.mem_append_right past (List.mem_append_left ex₂ (List.mem_singleton_self _)),
      rfl, subnet, hreply.symm, hid⟩

theorem follows_newSubnet {name cidrBlock zone : String}
    (hfound : table?.isSome = true → ∃ table vpcId, table? = some table ∧ vpcId? = some vpcId ∧
      FoundInVpc pageSize table vpcId past) :
    Follows (UsesFound pageSize table? vpcId? IsOwn) past
      (Network.createSubnet vpcId name cidrBlock zone) := by
  refine Follows.bind (follows_call fun _ => usesFound_of_createSubnet rfl hfound)
    fun _ _ _ => follows_of_looks ?_
  rw [checkId]
  split_ifs
  · exact asksOnly_throw
  · exact asksOnly_pure

theorem follows_modifySubnet {name : String} {isMulticast : Bool} :
    Follows (UsesFound pageSize table? vpcId? IsOwn) past (modifySubnet s name isMulticast) := by
  refine follows_call fun reply => usesFound_of_notMem ?_
  show Action.modifySubnetAttribute ∉ usesOfTables
  decide

/-- **The creation of a subnet** looks its route table up first. -/
theorem follows_createSubnet :
    Follows (UsesFound pageSize (r.text? "route_table_id") (r.text? "vpc_id") IsCreated) []
      (createSubnet pageSize r) := by
  refine follows_lift_bind fun vpcId hvpc => follows_lift_bind fun zone _ =>
    follows_lift_bind fun name _ => follows_lift_bind fun cidrBlock _ => ?_
  rw [Resource.text?_of_required hvpc]
  cases htable : r.text? "route_table_id" with
  | none =>
    have hcreate : Follows (UsesFound pageSize none (some vpcId) IsCreated) []
        (Network.createSubnet vpcId name cidrBlock zone) :=
      follows_newSubnet fun h => absurd h Bool.false_ne_true
    exact hcreate.bind fun _ _ _ => follows_modifySubnet.bind fun _ _ _ =>
      follows_of_looks asksOnly_pure
  | some table =>
    refine (follows_of_looks looks_ensureInVpc).bind fun looked _ hlooked => ?_
    have hfound := foundInVpc_of_ensureInVpc hlooked []
    have hcreate : Follows (UsesFound pageSize (some table) (some vpcId) IsCreated) ([] ++ looked)
        (Network.createSubnet vpcId name cidrBlock zone) :=
      follows_newSubnet fun _ => ⟨table, vpcId, rfl, rfl, hfound⟩
    refine hcreate.bind fun created id hid => follows_modifySubnet.bind fun modified _ _ => ?_
    have hcreated : IsCreated ([] ++ looked ++ created ++ modified) id := by
      obtain ⟨x, hmem, hanswer⟩ := isCreated_of_createSubnet hid ([] ++ looked)
      exact ⟨x, List.mem_append_left modified hmem, hanswer⟩
    have hassociate := follows_associate ((hfound.append created).append modified) hcreated
    exact hassociate.bind fun _ _ _ => follows_of_looks asksOnly_pure

/-- **The update of a subnet** looks a new route table up first. -/
theorem follows_updateSubnet {current : State} :
    Follows (UsesFound pageSize (r.text? "route_table_id") (r.text? "vpc_id") fun _ id => id = s) []
      (updateSubnet pageSize s current r) := by
  refine follows_lift_bind fun name _ => ?_
  dsimp only
  cases hnew : newTable? current r with
  | none =>
    split_ifs
    · exact follows_modifySubnet.bind fun _ _ _ => follows_of_looks asksOnly_pure
    · exact follows_of_looks asksOnly_pure
  | some table =>
    have htable : r.text? "route_table_id" = some table := (Option.filter_eq_some_iff.mp hnew).1
    have huse {past : List (Call × Reply)} :
        Follows (UsesFound pageSize (r.text? "route_table_id") (r.text? "vpc_id")
          fun _ id => id = s) past (do
            let vpcId ← (r.required "vpc_id" : Except Error String)
            ensureInVpc pageSize table vpcId
            associateRouteTable s table : Api Unit) := by
      refine follows_lift_bind fun vpcId hvpc => ?_
      rw [htable, Resource.text?_of_required hvpc]
      refine (follows_of_looks looks_ensureInVpc).bind fun looked _ hlooked => ?_
      exact follows_associate (foundInVpc_of_ensureInVpc hlooked past) rfl
    split_ifs
    · exact follows_modifySubnet.bind fun _ _ _ => huse
    · exact huse

/-- **The creation of a route entry** looks its table up in its network. -/
theorem follows_createRouteEntry :
    Follows (UsesFound pageSize (r.text? "route_table_id") (r.text? "vpc_id") IsOwn) []
      (createRouteEntry pageSize r) := by
  refine follows_lift_bind fun table htable => follows_lift_bind fun destination _ =>
    follows_lift_bind fun gatewayType _ => follows_lift_bind fun gatewayId _ => ?_
  dsimp only
  rw [Resource.text?_of_required htable]
  have hroute {vpcId? : Option String} {past : List (Call × Reply)} (spec : RouteSpec)
      (hfound : ∀ vpcId, vpcId? = some vpcId → FoundInVpc pageSize table vpcId past) :
      Follows (UsesFound pageSize (some table) vpcId? IsOwn) past (do
        let entry ← Network.createRoute pageSize table spec
        return RouteEntryId.text ⟨entry, table⟩) := by
    have hcommand : Follows (UsesFound pageSize (some table) vpcId? IsOwn) past
        (command .createRoutes (routeCreation table spec).request : Api Unit) := by
      refine follows_call fun reply => ⟨nofun, nofun, fun _ hvpc => ?_⟩
      obtain ⟨vpcId, hvpc⟩ := Option.isSome_iff_exists.mp hvpc
      exact ⟨table, vpcId, rfl, hvpc, hfound vpcId hvpc⟩
    obtain ⟨rest, hrest, heq⟩ := createRoute_eq_bind pageSize table spec
    rw [heq]
    refine Follows.bind ?_ fun _ _ _ => follows_of_looks asksOnly_pure
    exact hcommand.bind fun _ u _ => follows_of_looks (hrest u)
  cases hvpc : r.text? "vpc_id" with
  | none => exact hroute _ nofun
  | some vpcId =>
    refine (follows_of_looks looks_ensureInVpc).bind fun looked _ hlooked => ?_
    refine hroute _ fun vpcId' hvpc' => ?_
    rw [← Option.some.inj hvpc']
    exact foundInVpc_of_ensureInVpc hlooked []

end Lifecycle

/-! ## Runs -/

namespace Provider

open Network

variable {settings : Settings} {kind : LifecycleKind} {r : Resource}

theorem text?_of_prepared (hkind : kind = .subnet ∨ kind = .routeEntry) {prepared : Resource}
    (h : prepareFor kind.schema (kind.lifecycle settings) r = .ok prepared) {key : String}
    (hkey : key = "route_table_id" ∨ key = "vpc_id") : prepared.text? key = r.text? key := by
  have hdeclared : ∃ d ∈ kind.schema.attributes, d.1 = key ∧ d.2.default.isNone = true := by
    rcases hkind with rfl | rfl <;> rcases hkey with rfl | rfl <;> decide +kernel
  obtain ⟨⟨_, a⟩, ha, rfl, hdefault⟩ := hdeclared
  obtain ⟨-, rfl⟩ := prepareFor_eq_ok.mp h
  rw [Resource.text?, Resource.text?, LifecycleKind.get?_withDefaults ha hdefault]

/-- **A creation uses no route table that it has not found.** -/
theorem follows_create (hkind : kind = .subnet ∨ kind = .routeEntry) (hid : r.id.type = kind.name) :
    Follows (UsesFound settings.pageSize (r.text? "route_table_id") (r.text? "vpc_id") IsCreated)
      [] (create settings r) := by
  refine Follows.onResource (follows_lift_bind fun kind' hkind' => ?_) r.id
  obtain rfl := Except.ok.inj ((lifecycleKind_of_type hid).symm.trans hkind')
  refine follows_lift_bind fun prepared hprepared => follows_log_bind ?_
  rw [← text?_of_prepared hkind hprepared (.inl rfl),
    ← text?_of_prepared hkind hprepared (.inr rfl)]
  refine Follows.bind (follows_logFailure ?_) fun _ identifier _ => follows_log_bind ?_
  · rcases hkind with rfl | rfl
    · exact Lifecycle.follows_createSubnet
    · exact Lifecycle.follows_createRouteEntry
  · exact follows_of_looks (looks_readBack settings kind prepared identifier)

theorem follows_update {id : ResourceId} (hid : id.type = LifecycleKind.subnet.name)
    {identifier : String} {current : State} :
    Follows (UsesFound settings.pageSize (r.text? "route_table_id") (r.text? "vpc_id")
      fun _ subnetId => subnetId = identifier) [] (update settings id identifier current r) := by
  refine Follows.onResource (follows_lift_bind fun kind' hkind' => ?_) id
  obtain rfl := Except.ok.inj ((lifecycleKind_of_type hid).symm.trans hkind')
  refine follows_lift_bind fun prepared hprepared => follows_lift_bind fun _ _ =>
    follows_log_bind ?_
  rw [← text?_of_prepared (.inl rfl) hprepared (.inl rfl),
    ← text?_of_prepared (.inl rfl) hprepared (.inr rfl)]
  refine Follows.bind (follows_logFailure Lifecycle.follows_updateSubnet) fun _ _ _ => ?_
  exact follows_of_looks (looks_readBack settings .subnet prepared identifier)

/-- **Route tables are found before they are used.** In every run of a creation of a subnet or of a
route entry, and of an update of a subnet, a call that uses a route table comes after a look-up that
has found the desired table, and no other, in the desired network. A subnet that is told to use it
is the one that has just been created, or the one that is updated. -/
theorem table_found_before_use (settings : Settings) {σ : Type}
    (remote : Dialogue.Remote σ Call Reply) (start : σ) :
    (∀ (r : Resource) (kind : LifecycleKind), kind = .subnet ∨ kind = .routeEntry →
      r.id.type = kind.name → ∀ before x after,
        ((create settings r).against remote start).exchanges = before ++ x :: after →
          UsesFound settings.pageSize (r.text? "route_table_id") (r.text? "vpc_id") IsCreated
            before x) ∧
    (∀ (id : ResourceId) (identifier : String) (current : State) (desired : Resource),
      id.type = LifecycleKind.subnet.name → ∀ before x after,
        ((update settings id identifier current desired).against remote start).exchanges =
            before ++ x :: after →
          UsesFound settings.pageSize (desired.text? "route_table_id") (desired.text? "vpc_id")
            (fun _ subnetId => subnetId = identifier) before x) :=
  ⟨fun _ _ hkind hid _ _ _ hex => (follows_create hkind hid).against remote start hex,
    fun _ _ _ _ hid _ _ _ hex => (follows_update hid).against remote start hex⟩

/-- A new subnet uses its route table after it has been found. -/
theorem shopSubnet_uses_found_table :
    let run := (create ⟨"ap-guangzhou", 20, ⟨3, 1⟩⟩ shopSubnet).against
      (Dialogue.scripted fun _ => .ok .null)
      [.ok (Json.object [("TotalCount", .int 1),
        ("RouteTableSet", .arr [Json.object [("RouteTableId", .str "rtb-9")]])]),
       .ok (Json.object [("Subnet", Json.object [("SubnetId", .str "subnet-7")])]),
       .ok (.obj []), .ok (.obj [])]
    run.questions.map (fun q => q.action) = [.describeRouteTables, .createSubnet,
      .modifySubnetAttribute, .replaceRouteTableAssociation, .describeSubnets] ∧
    ∀ before x after, run.exchanges = before ++ x :: after →
      x.1.action = .replaceRouteTableAssociation →
        FoundInVpc 20 "rtb-9" "vpc-1" before ∧ ∃ subnetId, IsCreated before subnetId ∧
          x.1 = associationChange subnetId "rtb-9" := by
  intro run
  refine ⟨by decide +kernel, fun before x after hex hx => ?_⟩
  have huses := (table_found_before_use _ _ _).1 shopSubnet .subnet (.inl rfl) (by decide +kernel)
    before x after hex
  obtain ⟨table, vpcId, subnetId, htable, hvpc, hfound, hcreated, hcall⟩ := huses.association hx
  have htable' : shopSubnet.text? "route_table_id" = some "rtb-9" := by decide +kernel
  have hvpc' : shopSubnet.text? "vpc_id" = some "vpc-1" := by decide +kernel
  obtain rfl := Option.some.inj (htable'.symm.trans htable)
  obtain rfl := Option.some.inj (hvpc'.symm.trans hvpc)
  exact ⟨hfound, subnetId, hcreated, hcall⟩

end Provider

end CloudProvider
