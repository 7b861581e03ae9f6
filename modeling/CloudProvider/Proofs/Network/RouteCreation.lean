import CloudProvider.Proofs.Admission
import CloudProvider.Proofs.Creation
import CloudProvider.Proofs.Network.Operations
import CloudProvider.Proofs.Network.RouteEntries

/-!
# New routes

The remote does not tell the number of a new route. It is that of the only route of the table with
the desired content, and the entry is then read back by it.

* `Network.RouteSpec.IsMetBy`: the routes that have some desired content.
* `Network.picked`, **`Network.result_createRoute`**: what is made of the table that is read after a
  route is created.
* `Network.Asks`: the route that a resource asks for.
* **`Network.createRoute_exact`**: which number a new route has, and that its entry is the one that
  was asked for.
-/

namespace CloudProvider

open Operation

theorem Schema.withDefaults_eq_self {schema : Schema}
    (h : ∀ d ∈ schema.attributes, d.2.default = none) (attributes : Attributes) :
    schema.withDefaults attributes = attributes := by
  rw [withDefaults, fill]
  generalize schema.attributes = declared at h
  induction declared with
  | nil => rfl
  | cons d rest ih =>
    obtain ⟨name, a⟩ := d
    have ha : a.default = none := h (name, a) List.mem_cons_self
    simp only [List.foldl_cons, ha, ite_self]
    exact ih fun d hd => h d (List.mem_cons_of_mem _ hd)

namespace Network

/-! ## The routes that are asked for -/

/-- **Whether a route has the desired content**; its description does not count. -/
def RouteSpec.IsMetBy (spec : RouteSpec) (r : Route) : Prop :=
  r.destination = spec.destination ∧ r.gatewayType = spec.gatewayType ∧
    r.gatewayId = spec.gatewayId

instance (spec : RouteSpec) : DecidablePred spec.IsMetBy :=
  fun _ => inferInstanceAs (Decidable (_ ∧ _ ∧ _))

theorem RouteSpec.matches_eq (spec : RouteSpec) :
    spec.matches = fun r => decide (spec.IsMetBy r) := by
  funext r
  rw [Bool.eq_iff_iff, decide_eq_true_iff]
  simp [RouteSpec.matches, RouteSpec.IsMetBy, and_assoc]

/-- The words for a route by its content and its table. -/
def routeKey (tableId : String) (spec : RouteSpec) : String :=
  s!"{spec.destination}->{spec.gatewayType}:{spec.gatewayId} in {tableId}"

/-- What is made of the routes that have the desired content. -/
def pickedOf (tableId : String) (spec : RouteSpec) : Option Route → Except Error UInt64
  | some route => .ok route.id
  | none => .error (.malformed s!"route {routeKey tableId spec} not found after CreateRoutes")

/-- **The number of a new route**, by the table that is read after its creation. -/
def picked (tableId : String) (spec : RouteSpec) : Option RouteTable → Except Error UInt64
  | none => .error (.malformed s!"route table {tableId} disappeared after CreateRoutes")
  | some t => Lookup.choice "route entry" (routeKey tableId spec)
      (t.routes.filter fun r => spec.IsMetBy r) >>= pickedOf tableId spec

section Creation

variable {σ : Type} {remote : Dialogue.Remote σ Call Reply} {s s' : σ} {pageSize : UInt64}
  {tableId : String} {spec : RouteSpec} {tables : List RouteTable} {t : RouteTable}

/-- The request for a new route. -/
def requestRoute (tableId : String) (spec : RouteSpec) : Api Unit :=
  Api.command .createRoutes (routeCreation tableId spec).request

/-- **The result of a new route**: its number is picked from its table. -/
theorem result_createRoute (pageSize : UInt64) (tableId : String) (spec : RouteSpec) :
    (exec remote s (createRoute pageSize tableId spec)).1 =
      let asked := exec remote s (requestRoute tableId spec)
      asked.1 >>= fun _ => (exec remote asked.2 (findRouteTable pageSize tableId)).1 >>=
        picked tableId spec := by
  rw [createRoute]
  change (exec remote s (requestRoute tableId spec >>= _)).1 = _
  rw [exec_bind]
  obtain ⟨asked, s₁⟩ := exec remote s (requestRoute tableId spec)
  cases asked with
  | error e => rfl
  | ok _ =>
    dsimp only
    rw [exec_bind]
    obtain ⟨found, s₂⟩ := exec remote s₁ (findRouteTable pageSize tableId)
    cases found with
    | error e => rfl
    | ok found =>
      cases found with
      | none => rfl
      | some t =>
        dsimp only
        rw [exec_bind, Lookup.exec_unique, RouteSpec.matches_eq]
        change _ = Lookup.choice "route entry" (routeKey tableId spec)
          (t.routes.filter fun r => spec.IsMetBy r) >>= pickedOf tableId spec
        rw [routeKey]
        cases Lookup.choice "route entry"
          s!"{spec.destination}->{spec.gatewayType}:{spec.gatewayId} in {tableId}"
          (t.routes.filter fun r => spec.IsMetBy r) with
        | error e => rfl
        | ok route =>
          cases route with
          | none => rfl
          | some route => rfl

theorem result_createRoute_of_lists (h : exec remote s (requestRoute tableId spec) = (.ok (), s'))
    (hl : Lists pageSize remote s' tableId tables) :
    (exec remote s (createRoute pageSize tableId spec)).1 =
      Lookup.choice "route table" tableId tables >>= picked tableId spec := by
  have hlisted : (exec remote s'
      (Api.orIfNotFound .vpc (listRouteTables pageSize { id := some tableId }) [])).1 =
        .ok tables := hl
  rw [result_createRoute, h]
  dsimp only
  rw [exec_findRouteTable]
  dsimp only
  rw [hlisted]
  rfl

theorem picked_eq_ok {found : Option RouteTable} {e : UInt64} :
    picked tableId spec found = .ok e ↔ ∃ t route, found = some t ∧
      (t.routes.filter fun r => spec.IsMetBy r) = [route] ∧ route.id = e := by
  cases found with
  | none => exact iff_of_false nofun fun ⟨_, _, h, _⟩ => nomatch h
  | some t =>
    rw [picked, except_bind_eq_ok]
    constructor
    · rintro ⟨route, hchoice, he⟩
      cases route with
      | none => cases he
      | some route => exact ⟨t, route, rfl, Lookup.choice_eq_some.mp hchoice, Except.ok.inj he⟩
    · rintro ⟨_, route, ht, hone, rfl⟩
      obtain rfl := Option.some.inj ht
      exact ⟨some route, Lookup.choice_eq_some.mpr hone, rfl⟩

theorem picked_of_eq_nil (h : (t.routes.filter fun r => spec.IsMetBy r) = []) :
    picked tableId spec (some t) =
      .error (.malformed s!"route {routeKey tableId spec} not found after CreateRoutes") := by
  rw [picked, h]
  rfl

theorem picked_of_two_le (h : 2 ≤ (t.routes.filter fun r => spec.IsMetBy r).length) :
    picked tableId spec (some t) = .error ⟨.ambiguous "route entry" (routeKey tableId spec)
      (t.routes.filter fun r => spec.IsMetBy r).length, none⟩ := by
  rw [picked]
  generalize (t.routes.filter fun r => spec.IsMetBy r) = met at h
  match met with
  | [] => simp at h
  | [route] => simp at h
  | route :: route' :: rest => rfl

theorem createRoute_eq_ok {e : UInt64} :
    (exec remote s (createRoute pageSize tableId spec)).1 = .ok e ↔
      (exec remote s (requestRoute tableId spec)).1 = .ok () ∧ ∃ t route,
        Lists pageSize remote (exec remote s (requestRoute tableId spec)).2 tableId [t] ∧
        (t.routes.filter fun r => spec.IsMetBy r) = [route] ∧ route.id = e := by
  rw [result_createRoute]
  obtain ⟨asked, s'⟩ := exec remote s (requestRoute tableId spec)
  dsimp only
  rw [except_bind_eq_ok, exec_findRouteTable]
  simp only [except_bind_eq_ok, picked_eq_ok]
  constructor
  · rintro ⟨_, hasked, found, ⟨tables, hl, hchoice⟩, t, route, rfl, hone, he⟩
    obtain rfl := Lookup.choice_eq_some.mp hchoice
    exact ⟨hasked, t, route, hl, hone, he⟩
  · rintro ⟨hasked, t, route, hl, hone, he⟩
    exact ⟨(), hasked, some t, ⟨[t], hl, rfl⟩, t, route, rfl, hone, he⟩

end Creation

/-! ## Entries that are created -/

/-- **The route that a resource asks for**, and its table. -/
structure Asks (r : Resource) (tableId : String) (spec : RouteSpec) : Prop where
  tableId : r.text? "route_table_id" = some tableId
  destination : r.text? "destination_cidr_block" = some spec.destination
  gatewayType : r.text? "next_type" = some spec.gatewayType
  gatewayId : r.text? "next_hub" = some spec.gatewayId
  description : (r.text? "description").getD "" = spec.description

theorem Asks.shown {r : Resource} {tableId : String} {spec : RouteSpec} (h : Asks r tableId spec)
    {route : Route} (hmet : spec.IsMetBy route) {vpcId : String} {attributes : Attributes}
    (hshown : route.Shown tableId vpcId attributes) :
    ∀ key ∈ ["route_table_id", "destination_cidr_block", "next_type", "next_hub"],
      attributes.get? key = r.attributes.get? key := by
  have hdesired {key s : String} (hs : r.text? key = some s) :
      r.attributes.get? key = some (.text s) := by
    have hne : s ≠ "" := Resource.ne_empty_of_required (Resource.required_of_text? hs)
    exact (Resource.text?_eq_some hne).mp hs
  simp only [List.forall_mem_cons, List.not_mem_nil, IsEmpty.forall_iff, implies_true, and_true]
  refine ⟨?_, ?_, ?_, ?_⟩
  · rw [hshown.routeTableId, hdesired h.tableId]
  · rw [hshown.destination, hdesired h.destination, hmet.1]
  · rw [hshown.nextType, hdesired h.gatewayType, hmet.2.1]
  · rw [hshown.nextHub, hdesired h.gatewayId, hmet.2.2]

/-- What is looked up before a route is created: if a network is desired, the table belongs to
it. -/
def ensureDesiredVpc (pageSize : UInt64) (tableId : String) (r : Resource) : Api Unit :=
  match r.text? "vpc_id" with
  | some vpcId => Lifecycle.ensureInVpc pageSize tableId vpcId
  | none => return ()

section Entry

variable {σ : Type} {remote : Dialogue.Remote σ Call Reply} {s s₁ s₂ : σ} {settings : Settings}
  {tableId : String} {spec : RouteSpec} {r : Resource} {e : UInt64} {t : RouteTable}

theorem exec_createRouteEntry (h : Asks r tableId spec)
    (hcheck : exec remote s (ensureDesiredVpc settings.pageSize tableId r) = (.ok (), s₁))
    (hroute : exec remote s₁ (createRoute settings.pageSize tableId spec) = (.ok e, s₂)) :
    exec remote s ((LifecycleKind.routeEntry.lifecycle settings).create r) =
      (.ok (RouteEntryId.text ⟨e, tableId⟩), s₂) := by
  change exec remote s (Lifecycle.createRouteEntry settings.pageSize r) = _
  rw [Lifecycle.createRouteEntry, exec_ok_bind (Resource.required_of_text? h.tableId),
    exec_ok_bind (Resource.required_of_text? h.destination),
    exec_ok_bind (Resource.required_of_text? h.gatewayType),
    exec_ok_bind (Resource.required_of_text? h.gatewayId), h.description]
  have hpick : exec remote s₁ (do
      let entry ← createRoute settings.pageSize tableId spec
      return RouteEntryId.text ⟨entry, tableId⟩) = (.ok (RouteEntryId.text ⟨e, tableId⟩), s₂) :=
    exec_bind_ok hroute
  rw [ensureDesiredVpc] at hcheck
  cases hvpc : r.text? "vpc_id" with
  | none =>
    rw [hvpc] at hcheck
    obtain rfl := (Prod.mk.inj hcheck).2
    exact hpick
  | some vpcId =>
    rw [hvpc] at hcheck
    exact (exec_bind_ok hcheck).trans hpick

/-- **An entry that is created is read back** as its route. -/
theorem exec_create_routeEntry (hr : r.id.type = "route_table_entry")
    (hvalid : LifecycleKind.routeEntry.Admits r.attributes) (h : Asks r tableId spec)
    (hdot : '.' ∉ tableId.toList)
    (hcheck : exec remote s (ensureDesiredVpc settings.pageSize tableId r) = (.ok (), s₁))
    (hroute : exec remote s₁ (createRoute settings.pageSize tableId spec) = (.ok e, s₂))
    (hback : Lists settings.pageSize remote s₂ tableId [t]) {route : Route}
    (hentry : t.entry? e = some route) :
    (exec remote s (Provider.create settings r)).1 = .ok (.existing r.id
      (some (RouteEntryId.text ⟨e, tableId⟩))
      (LifecycleKind.routeEntry.schema.complete (route.attributes tableId t.vpcId))) := by
  have hne : tableId ≠ "" := Resource.ne_empty_of_required (Resource.required_of_text? h.tableId)
  have hdefaults : LifecycleKind.routeEntry.schema.withDefaults r.attributes = r.attributes :=
    Schema.withDefaults_eq_self (by decide +kernel) r.attributes
  have hprepare : Provider.prepareFor LifecycleKind.routeEntry.schema
      (LifecycleKind.routeEntry.lifecycle settings) r = .ok r :=
    Provider.prepareFor_eq_ok.mpr ⟨by rwa [hdefaults], by rw [hdefaults]⟩
  have hid : RouteEntryId.ofText (RouteEntryId.text ⟨e, tableId⟩) = .ok ⟨e, tableId⟩ :=
    RouteEntryId.ofText_text hne hdot
  obtain ⟨s₃, hread⟩ := exec_lifecycle_readRouteEntry hback hid
  rw [hentry] at hread
  have hcreate := exec_createRouteEntry h hcheck hroute
  have hkind : Provider.lifecycleKind r.id = .ok .routeEntry := Provider.lifecycleKind_of_type hr
  rw [Provider.create, exec_onResource, exec_ok_bind hkind]
  dsimp only
  rw [exec_ok_bind hprepare, exec_bind_ok Provider.exec_event,
    exec_bind_ok (Provider.exec_logFailure.trans hcreate), exec_bind_ok Provider.exec_event,
    Provider.exec_readBack (by decide +kernel) hread]
  rfl

end Entry

/-- **A new route is the one that is asked for.** Its number is found just if the creation goes well
and the table that is looked up afterwards is the only one, and has one route with the desired
content. If a valid resource asks for the route, the routes of the table have different numbers, and
the table is read back as it was, then the entry is created under that number, with the desired
attributes. -/
theorem createRoute_exact {σ : Type} (settings : Settings)
    (remote : Dialogue.Remote σ Call Reply) :
    (∀ tableId spec s,
      let asked := (requestRoute tableId spec).against remote s
      let created := (createRoute settings.pageSize tableId spec).against remote s
      let met := fun t : RouteTable => t.routes.filter fun r => spec.IsMetBy r
      (∀ e, created.result = .ok e ↔ asked.result = .ok () ∧ ∃ t route,
        Lists settings.pageSize remote asked.remote tableId [t] ∧ met t = [route] ∧
          route.id = e) ∧
      (asked.result = .ok () →
        (Lists settings.pageSize remote asked.remote tableId [] → created.result =
          .error (.malformed s!"route table {tableId} disappeared after CreateRoutes")) ∧
        ∀ t, Lists settings.pageSize remote asked.remote tableId [t] →
          (met t = [] → created.result =
            .error (.malformed s!"route {routeKey tableId spec} not found after CreateRoutes")) ∧
          (2 ≤ (met t).length → created.result =
            .error ⟨.ambiguous "route entry" (routeKey tableId spec) (met t).length, none⟩))) ∧
    (∀ r tableId spec s s₁ s₂ e t, r.id.type = "route_table_entry" →
      LifecycleKind.routeEntry.Admits r.attributes → Asks r tableId spec → '.' ∉ tableId.toList →
      exec remote s (ensureDesiredVpc settings.pageSize tableId r) = (.ok (), s₁) →
      exec remote s₁ (createRoute settings.pageSize tableId spec) = (.ok e, s₂) →
      Lists settings.pageSize remote ((requestRoute tableId spec).against remote s₁).remote
        tableId [t] →
      (t.routes.map Route.id).Nodup → Lists settings.pageSize remote s₂ tableId [t] →
      ∃ attributes, ((Provider.create settings r).against remote s).result =
          .ok (.existing r.id (some s!"{e}.{tableId}") attributes) ∧
        ∀ key ∈ ["route_table_id", "destination_cidr_block", "next_type", "next_hub"],
          attributes.get? key = r.attributes.get? key) := by
  refine ⟨fun tableId spec s => ?_, ?_⟩
  · intro asked created met
    refine ⟨fun e => createRoute_eq_ok, fun hasked => ?_⟩
    have hresult {tables : List RouteTable}
        (hl : Lists settings.pageSize remote asked.remote tableId tables) :
        created.result = Lookup.choice "route table" tableId tables >>= picked tableId spec :=
      result_createRoute_of_lists (Prod.ext hasked rfl) hl
    refine ⟨fun hl => hresult hl, fun t hl => ⟨fun hnone => ?_, fun hmany => ?_⟩⟩
    · rw [hresult hl, Lookup.choice]
      exact picked_of_eq_nil hnone
    · rw [hresult hl, Lookup.choice]
      exact picked_of_two_le hmany
  · intro r tableId spec s s₁ s₂ e t hr hvalid hasks hdot hcheck hroute hseen hnodup hback
    obtain ⟨-, t', route, hseen', hone, rfl⟩ := createRoute_eq_ok.mp (congrArg Prod.fst hroute)
    obtain rfl := List.singleton_inj.mp (Except.ok.inj (hseen'.symm.trans hseen))
    obtain ⟨hmem, hmet⟩ := List.mem_filter.mp (hone ▸ List.mem_singleton_self route)
    have hcreated := exec_create_routeEntry hr hvalid hasks hdot hcheck hroute hback
      (entry?_of_mem hnodup hmem)
    exact ⟨_, hcreated, hasks.shown (of_decide_eq_true hmet)
      ((route.shown_attributes tableId t'.vpcId).complete _)⟩

/-- A resource that asks for the first of two routes. -/
def officeRoute : Resource where
  id := ⟨"route_table_entry", "office"⟩
  attributes := Fields.ofList
    [("route_table_id", .text "rtb-1"), ("destination_cidr_block", .text "10.1.0.0/16"),
     ("next_type", .text "CVM"), ("next_hub", .text "10.0.0.5"), ("vpc_id", .text "vpc-1")]

/-- The route to an office is created under its number. -/
theorem create_of_officeRoute :
    let settings : Settings := ⟨"ap-guangzhou", 20, ⟨3, 1⟩⟩
    ∃ attributes, ((Provider.create settings officeRoute).against answerTwoRoutes ()).result =
        .ok (.existing officeRoute.id (some "7.rtb-1") attributes) ∧
      ∀ key ∈ ["route_table_id", "destination_cidr_block", "next_type", "next_hub"],
        attributes.get? key = officeRoute.attributes.get? key := by
  intro settings
  have hvalid : LifecycleKind.routeEntry.Admits officeRoute.attributes :=
    ⟨(Schema.violations_eq_nil_iff_admits (LifecycleKind.schema_nodup _)).mp (by decide +kernel),
      fun _ => by decide +kernel⟩
  have hasks : Asks officeRoute "rtb-1" ⟨"10.1.0.0/16", "CVM", "10.0.0.5", ""⟩ :=
    ⟨by decide +kernel, by decide +kernel, by decide +kernel, by decide +kernel, by decide +kernel⟩
  have hlists : Lists settings.pageSize answerTwoRoutes () "rtb-1" [twoRoutes] := by
    unfold Lists
    decide +kernel
  exact (createRoute_exact settings answerTwoRoutes).2 officeRoute "rtb-1"
    ⟨"10.1.0.0/16", "CVM", "10.0.0.5", ""⟩ () () () 7 twoRoutes rfl hvalid hasks (by decide)
    (by decide +kernel) (by decide +kernel) hlists (by decide) hlists

end Network

end CloudProvider
