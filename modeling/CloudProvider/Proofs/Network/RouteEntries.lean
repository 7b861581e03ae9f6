import CloudProvider.Proofs.Identifier
import CloudProvider.Proofs.Network.Ledger
import CloudProvider.Proofs.Reading

/-!
# The entries of a route table

A route table shows identifiers of its entries. They are those by which the entries are read.

* `Network.Lists`: the route tables that a remote lists under an id.
* `Network.Route.Shown`: the attributes that show a route of a table.
* `Provider.result_read`: a read shows what the read of its kind gives.
* `Network.result_read_routeTable`, **`Network.result_read_routeEntry`**: what is read of a table
  that is listed, and of an entry of it.
* **`Network.read_entries_of_routeTable`**: the identifiers that a table shows address its entries.
-/

namespace CloudProvider

open Operation

theorem LifecycleKind.get?_complete_of_get? {kind : LifecycleKind} {attributes : Attributes}
    {key : String} {v : Value} (h : attributes.get? key = some v) :
    (kind.schema.complete attributes).get? key = some v := by
  rw [Schema.complete, Schema.get?_fill kind.schema_nodup, h]
  rfl

namespace Provider

variable {σ : Type} {remote : Dialogue.Remote σ Call Reply} {s s' : σ} {settings : Settings}

theorem result_read {kind : LifecycleKind} {id : ResourceId} (hid : id.type = kind.name)
    {identifier : String} {found : Option Attributes}
    (h : exec remote s ((kind.lifecycle settings).read identifier) = (.ok found, s')) :
    ((read settings id (some identifier)).against remote s).result =
      .ok (shown kind id identifier found) := by
  have hread : exec remote s (read settings id (some identifier)) =
      (.ok (shown kind id identifier found), s') := by
    rw [read, exec_onResource, exec_ok_bind (lifecycleKind_of_type hid)]
    dsimp only
    rw [exec_bind_ok h]
    cases found with
    | none => rfl
    | some a => rfl
  exact congrArg Prod.fst hread

end Provider

namespace Network

/-! ## Routes and what shows them -/

/-- **The attributes that show a route** of a table in a network. -/
structure Route.Shown (tableId vpcId : String) (r : Route) (attributes : Attributes) : Prop where
  routeTableId : attributes.get? "route_table_id" = some (.text tableId)
  vpcId : attributes.get? "vpc_id" = some (.text vpcId)
  destination : attributes.get? "destination_cidr_block" = some (.text r.destination)
  nextType : attributes.get? "next_type" = some (.text r.gatewayType)
  nextHub : attributes.get? "next_hub" = some (.text r.gatewayId)
  description : attributes.get? "description" = some (.text r.description)

theorem Route.shown_attributes (tableId vpcId : String) (r : Route) :
    r.Shown tableId vpcId (r.attributes tableId vpcId) where
  routeTableId := by simp [attributes, Fields.ofList]
  vpcId := by simp [attributes, Fields.ofList]
  destination := by simp [attributes, Fields.ofList]
  nextType := by simp [attributes, Fields.ofList]
  nextHub := by simp [attributes, Fields.ofList]
  description := by simp [attributes, Fields.ofList]

theorem Route.Shown.complete {tableId vpcId : String} {r : Route} {attributes : Attributes}
    (h : r.Shown tableId vpcId attributes) (kind : LifecycleKind) :
    r.Shown tableId vpcId (kind.schema.complete attributes) where
  routeTableId := LifecycleKind.get?_complete_of_get? h.routeTableId
  vpcId := LifecycleKind.get?_complete_of_get? h.vpcId
  destination := LifecycleKind.get?_complete_of_get? h.destination
  nextType := LifecycleKind.get?_complete_of_get? h.nextType
  nextHub := LifecycleKind.get?_complete_of_get? h.nextHub
  description := LifecycleKind.get?_complete_of_get? h.description

variable {t : RouteTable} {r : Route} {n : UInt64}

theorem entry?_of_mem (h : (t.routes.map Route.id).Nodup) (hr : r ∈ t.routes) :
    t.entry? r.id = some r := find?_of_nodup_map h hr

theorem entry?_eq_none : t.entry? n = none ↔ n ∉ t.routes.map Route.id := by
  simp [RouteTable.entry?, List.find?_eq_none]

theorem map_text_entryIds (t : RouteTable) :
    t.entryIds.map RouteEntryId.text =
      (t.routes.map Route.id).map fun n => RouteEntryId.text ⟨n, t.id⟩ := by
  rw [RouteTable.entryIds, List.map_map, List.map_map]
  rfl

theorem nodup_entryIds (hid : t.id ≠ "") (hdot : '.' ∉ t.id.toList)
    (h : (t.routes.map Route.id).Nodup) : (t.entryIds.map RouteEntryId.text).Nodup := by
  rw [map_text_entryIds]
  refine h.map fun n m hnm => ?_
  have hread (k : UInt64) : RouteEntryId.ofText (RouteEntryId.text ⟨k, t.id⟩) = .ok ⟨k, t.id⟩ :=
    RouteEntryId.ofText_text hid hdot
  have hsame : RouteEntryId.ofText (RouteEntryId.text ⟨n, t.id⟩) =
      RouteEntryId.ofText (RouteEntryId.text ⟨m, t.id⟩) := congrArg _ hnm
  rw [hread, hread] at hsame
  exact congrArg RouteEntryId.entry (Except.ok.inj hsame)

/-! ## Remotes that list a table -/

variable {σ : Type} {remote : Dialogue.Remote σ Call Reply} {s s' : σ} {pageSize : UInt64}
  {settings : Settings} {id : String} {tables : List RouteTable}

/-- **Which route tables a remote lists** in some state, when it is asked for those with an id; if
it does not know the id, it lists none. -/
def Lists (pageSize : UInt64) (remote : Dialogue.Remote σ Call Reply) (s : σ) (id : String)
    (tables : List RouteTable) : Prop :=
  ((Api.orIfNotFound .vpc (listRouteTables pageSize { id := some id }) []).against
    remote s).result = .ok tables

theorem exec_findRouteTable (pageSize : UInt64) (id : String) :
    exec remote s (findRouteTable pageSize id) =
      let listed := exec remote s
        (Api.orIfNotFound .vpc (listRouteTables pageSize { id := some id }) [])
      (listed.1 >>= Lookup.choice "route table" id, listed.2) := by
  rw [findRouteTable, uniqueRouteTable, exec_bind]
  obtain ⟨x, s'⟩ := exec remote s
    (Api.orIfNotFound .vpc (listRouteTables pageSize { id := some id }) [])
  cases x with
  | error e => rfl
  | ok tables => exact Lookup.exec_unique

theorem Lists.exec_findRouteTable (h : Lists pageSize remote s id [t]) :
    ∃ s', exec remote s (findRouteTable pageSize id) = (.ok (some t), s') := by
  refine ⟨_, (Network.exec_findRouteTable pageSize id).trans (Prod.ext ?_ rfl)⟩
  exact congrArg (· >>= Lookup.choice "route table" id) h

/-! ## Reads -/

/-- **What is read of a table that is listed.** -/
theorem result_read_routeTable (h : Lists settings.pageSize remote s id [t]) (name : String) :
    let table : ResourceId := ⟨"route_table", name⟩
    ((Provider.read settings table (some id)).against remote s).result =
      .ok (.existing table (some id) (LifecycleKind.routeTable.schema.complete t.attributes)) := by
  obtain ⟨s', hfind⟩ := h.exec_findRouteTable
  have hread : exec remote s ((LifecycleKind.routeTable.lifecycle settings).read id) =
      (.ok (some t.attributes), s') := exec_bind_ok hfind
  exact Provider.result_read rfl hread

theorem exec_lifecycle_readRouteEntry (h : Lists settings.pageSize remote s id [t])
    {identifier : String} (hid : RouteEntryId.ofText identifier = .ok ⟨n, id⟩) :
    ∃ s', exec remote s ((LifecycleKind.routeEntry.lifecycle settings).read identifier) =
      (.ok ((t.entry? n).map (Route.attributes id t.vpcId)), s') := by
  obtain ⟨s', hfind⟩ := h.exec_findRouteTable
  refine ⟨s', ?_⟩
  change exec remote s (Lifecycle.readRouteEntry settings.pageSize identifier) = _
  rw [Lifecycle.readRouteEntry, exec_ok_bind hid, exec_bind_ok hfind]
  rfl

/-- **What is read of an entry** of a table. -/
theorem result_read_routeEntry (h : Lists settings.pageSize remote s id [t]) (name : String)
    {identifier : String} (hid : RouteEntryId.ofText identifier = .ok ⟨n, id⟩) :
    let entry : ResourceId := ⟨"route_table_entry", name⟩
    ((Provider.read settings entry (some identifier)).against remote s).result =
      .ok (Provider.shown .routeEntry entry identifier
        ((t.entry? n).map (Route.attributes id t.vpcId))) := by
  obtain ⟨s', hread⟩ := exec_lifecycle_readRouteEntry h hid
  exact Provider.result_read rfl hread

/-- **The identifiers that a route table shows address its entries**, in the order of the table.
Each of them is read as the route at its place, and an identifier with another number as absent. -/
theorem read_entries_of_routeTable (settings : Settings) (remote : Dialogue.Remote σ Call Reply)
    {s : σ} {t : RouteTable} (hs : Lists settings.pageSize remote s t.id [t]) (hid : t.id ≠ "")
    (hdot : '.' ∉ t.id.toList) (hroutes : (t.routes.map Route.id).Nodup) (name entryName : String) :
    let table : ResourceId := ⟨"route_table", name⟩
    let entry : ResourceId := ⟨"route_table_entry", entryName⟩
    ∃ attributes ids,
      ((Provider.read settings table (some t.id)).against remote s).result =
        .ok (.existing table (some t.id) attributes) ∧
      attributes.get? "route_entry_ids" = some (.texts ids) ∧ ids.Nodup ∧
      (∀ s', Lists settings.pageSize remote s' t.id [t] →
        List.Forall₂ (fun route identifier => ∃ attributes,
          ((Provider.read settings entry (some identifier)).against remote s').result =
            .ok (.existing entry (some identifier) attributes) ∧
          route.Shown t.id t.vpcId attributes) t.routes ids ∧
        ∀ identifier n, RouteEntryId.ofText identifier = .ok ⟨n, t.id⟩ →
          n ∉ t.routes.map Route.id →
          ((Provider.read settings entry (some identifier)).against remote s').result =
            .ok (.absent entry)) := by
  intro table entry
  have hshown : t.attributes.get? "route_entry_ids" =
      some (.texts (t.entryIds.map RouteEntryId.text)) := by
    simp [RouteTable.attributes, Fields.ofList]
  refine ⟨_, _, result_read_routeTable hs name, LifecycleKind.get?_complete_of_get? hshown,
    nodup_entryIds hid hdot hroutes, fun s' hs' => ⟨?_, fun identifier n hn hnew => ?_⟩⟩
  · rw [RouteTable.entryIds, List.map_map, List.forall₂_map_right_iff, List.forall₂_same]
    intro route hroute
    rw [Function.comp_apply]
    have hread : RouteEntryId.ofText (RouteEntryId.text ⟨route.id, t.id⟩) = .ok ⟨route.id, t.id⟩ :=
      RouteEntryId.ofText_text hid hdot
    have hentry := result_read_routeEntry hs' entryName hread
    rw [entry?_of_mem hroutes hroute] at hentry
    exact ⟨_, hentry, (route.shown_attributes t.id t.vpcId).complete _⟩
  · have habsent := result_read_routeEntry hs' entryName hn
    rw [entry?_eq_none.mpr hnew] at habsent
    exact habsent

/-- A table of two routes, the number of the second one being the greatest that there is. -/
def twoRoutes : RouteTable where
  vpcId := "vpc-1"
  id := "rtb-1"
  name := "shop"
  associations := []
  routes := [⟨7, "10.1.0.0/16", "CVM", "10.0.0.5", "office"⟩,
    ⟨18446744073709551615, "0.0.0.0/0", "EIP", "0", ""⟩]
  isMain := false
  createdTime := ""

/-- A remote that has this table alone. -/
def answerTwoRoutes : Dialogue.Remote Unit Call Reply := fun s _ =>
  let route (r : Route) : Json := Json.object
    [("RouteId", .int r.id.toNat), ("DestinationCidrBlock", .str r.destination),
     ("GatewayType", .str r.gatewayType), ("GatewayId", .str r.gatewayId),
     ("RouteDescription", .str r.description)]
  let table : Json := Json.object
    [("VpcId", .str twoRoutes.vpcId), ("RouteTableId", .str twoRoutes.id),
     ("RouteTableName", .str twoRoutes.name), ("RouteSet", .arr (twoRoutes.routes.map route))]
  (.ok (Json.object [("TotalCount", .int 1), ("RouteTableSet", .arr [table])]), s)

/-- Both routes are read by what the table shows. -/
theorem read_entries_of_twoRoutes :
    let settings : Settings := ⟨"ap-guangzhou", 20, ⟨3, 1⟩⟩
    let entry : ResourceId := ⟨"route_table_entry", "out"⟩
    let read := fun identifier =>
      ((Provider.read settings entry (some identifier)).against answerTwoRoutes ()).result
    (∃ attributes, read "7.rtb-1" = .ok (.existing entry (some "7.rtb-1") attributes) ∧
      Route.Shown "rtb-1" "vpc-1" ⟨7, "10.1.0.0/16", "CVM", "10.0.0.5", "office"⟩ attributes) ∧
    (∃ attributes, read "18446744073709551615.rtb-1" =
        .ok (.existing entry (some "18446744073709551615.rtb-1") attributes) ∧
      Route.Shown "rtb-1" "vpc-1" ⟨18446744073709551615, "0.0.0.0/0", "EIP", "0", ""⟩
        attributes) ∧
    read "8.rtb-1" = .ok (.absent entry) := by
  intro settings entry read
  have hlists : Lists settings.pageSize answerTwoRoutes () "rtb-1" [twoRoutes] := by
    unfold Lists
    decide +kernel
  obtain ⟨attributes, ids, hresult, hshows, -, hread⟩ :=
    read_entries_of_routeTable settings answerTwoRoutes (t := twoRoutes) hlists (by decide)
      (by decide) (by decide) "shop" "out"
  have hids : ids = ["7.rtb-1", "18446744073709551615.rtb-1"] := by
    have htable : ((Provider.read settings ⟨"route_table", "shop"⟩ (some "rtb-1")).against
        answerTwoRoutes ()).result.map (fun st => (st.get? "route_entry_ids").bind Value.texts?) =
        .ok (some ["7.rtb-1", "18446744073709551615.rtb-1"]) := by decide +kernel
    have hshown := congrArg (Except.map fun st => (st.get? "route_entry_ids").bind Value.texts?)
      hresult
    rw [Except.map, State.get?, State.attributes, hshows, Option.bind_some,
      Value.texts?_texts] at hshown
    exact Option.some.inj (Except.ok.inj (hshown.symm.trans htable))
  subst hids
  obtain ⟨hroutes, habsent⟩ := hread () hlists
  obtain ⟨hfirst, hroutes⟩ := List.forall₂_cons.mp hroutes
  obtain ⟨hsecond, -⟩ := List.forall₂_cons.mp hroutes
  exact ⟨hfirst, hsecond, habsent "8.rtb-1" 8 (by decide +kernel) (by decide)⟩

end Network

end CloudProvider
