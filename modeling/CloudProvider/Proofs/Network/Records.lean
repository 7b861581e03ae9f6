import CloudProvider.Lifecycle.Network
import CloudProvider.Proofs.Inventory
import CloudProvider.Proofs.Network.Ledger

/-!
# Remotes that keep records of networks

* `Network.KeepsVpcs`: the remotes that keep records under ids and apply requests to them.
* `Network.exec_createVpc`, `Network.exec_modifyVpc`, …: what calls do to the records.
* **`Network.exec_findVpc`**: a look-up finds the record with an id, page by page or not.
-/

namespace CloudProvider

open Listing Operation

namespace Network

/-! ## Requests as the remote reads them -/

/-- A flag in a request. -/
def flag? : Json → Option Bool
  | .str "true" => some true
  | .str "false" => some false
  | _ => none

@[simp]
theorem flag?_flag (b : Bool) : flag? (flag b) = some b := by
  cases b <;> rfl

/-- **What a request to write a network says**: the name and the flag, and the servers if it gives
them. -/
structure Writes (request : Json) (name : String) (isMulticast : Bool)
    (servers : Option (List String)) : Prop where
  name : request.member? "VpcName" = some (.str name)
  isMulticast : (request.member? "EnableMulticast").bind flag? = some isMulticast
  servers : request.member? "DnsServers" = servers.map Json.strs

/-- Whether a request for a listing selects a network: its id is one of those that are asked for,
and it passes all filters. What a filter means is left to the remote. -/
def Vpc.isSelected (passes : Json → Vpc → Bool) (request : Json) (v : Vpc) : Bool :=
  ((request.member? "VpcIds").bind Json.arr?).all (fun ids =>
      ids.any fun j => j.str? = some v.id) &&
    ((request.member? "Filters").bind Json.arr?).all fun filters => filters.all (passes · v)

/-- The networks that a request for a listing selects. -/
def selectedVpcs (passes : Json → Vpc → Bool) (request : Json) (vpcs : List Vpc) : List Vpc :=
  vpcs.filter (Vpc.isSelected passes request)

/-- A network with a new name and flag, and new servers if there are any. -/
def Vpc.rewrite (v : Vpc) (name : String) (isMulticast : Bool) (servers : Option (List String)) :
    Vpc :=
  { v with name, isMulticast, dnsServers := servers.getD v.dnsServers }

/-! ## Remotes -/

/-- Whether an answer says that the addressed entity does not exist. -/
def IsGone (reply : Reply) : Prop := ∃ e : ApiError, reply = .error e ∧ e.code = "ResourceNotFound"

/-- **A remote that keeps records of networks** under ids that tell them apart and are not empty.
A new record gets an id that no other record has. The remote may know more than the records. -/
structure KeepsVpcs {σ : Type} (remote : Dialogue.Remote σ Call Reply) (vpcs : σ → List Vpc)
    (passes : Json → Vpc → Bool) : Prop where
  nodup : ∀ s, ((vpcs s).map Vpc.id).Nodup
  id_ne : ∀ s, ∀ v ∈ vpcs s, v.id ≠ ""
  create : ∀ s request name cidrBlock isMulticast servers,
    Writes request name isMulticast servers → request.member? "CidrBlock" = some (.str cidrBlock) →
    ∃ v members j s', remote s ⟨.createVpc, request⟩ = (.ok (.obj members), s') ∧
      Fields.get? members "Vpc" = some j ∧ Vpc.ofJson j = .ok v ∧
      v.entry = ⟨name, cidrBlock, isMulticast, servers.getD []⟩ ∧ vpcs s' = vpcs s ++ [v]
  modify : ∀ s request id name isMulticast servers,
    Writes request name isMulticast servers → request.member? "VpcId" = some (.str id) →
    id ∈ (vpcs s).map Vpc.id →
    ∃ members s', remote s ⟨.modifyVpcAttribute, request⟩ = (.ok (.obj members), s') ∧
      vpcs s' = (vpcs s).map fun v => if v.id = id then v.rewrite name isMulticast servers else v
  modify_gone : ∀ s request id, request.member? "VpcId" = some (.str id) →
    id ∉ (vpcs s).map Vpc.id →
    ∃ reply s', remote s ⟨.modifyVpcAttribute, request⟩ = (reply, s') ∧ IsGone reply ∧
      vpcs s' = vpcs s
  delete : ∀ s request id, request.member? "VpcId" = some (.str id) →
    id ∈ (vpcs s).map Vpc.id →
    ∃ members s', remote s ⟨.deleteVpc, request⟩ = (.ok (.obj members), s') ∧
      vpcs s' = (vpcs s).filter fun v => v.id ≠ id
  delete_gone : ∀ s request id, request.member? "VpcId" = some (.str id) →
    id ∉ (vpcs s).map Vpc.id →
    ∃ reply s', remote s ⟨.deleteVpc, request⟩ = (reply, s') ∧ IsGone reply ∧ vpcs s' = vpcs s
  describe : ∀ s request offset limit,
    Call.window? ⟨.describeVpcs, request⟩ = some (offset, limit) →
    ∃ reply records s', remote s ⟨.describeVpcs, request⟩ = (reply, s') ∧
      IsPage "VpcSet" (selectedVpcs passes request (vpcs s)).length records reply ∧
      Json.asItems Vpc.ofJson records =
        .ok (((selectedVpcs passes request (vpcs s)).drop offset).take limit) ∧
      vpcs s' = vpcs s

/-! ## Requests as they are sent -/

/-- Servers are sent if there are any. -/
def sent (servers : List String) : Option (List String) :=
  if servers.isEmpty then none else some servers

theorem getD_sent {servers others : List String} (h : servers = [] → others = []) :
    (sent servers).getD others = servers := by
  cases servers with
  | nil => exact h rfl
  | cons server rest => rfl

theorem writes_object {key : String} (hname : key ≠ "VpcName") (hflag : key ≠ "EnableMulticast")
    (hservers : key ≠ "DnsServers") (j : Json) (name : String) (isMulticast : Bool)
    (servers : List String) :
    let request := Json.object <|
      [(key, j), ("VpcName", .str name), ("EnableMulticast", flag isMulticast)]
        ++ unlessEmpty "DnsServers" (servers.map .str)
    request.member? key = some j ∧ Writes request name isMulticast (sent servers) := by
  cases servers with
  | nil =>
    refine ⟨?_, ?_, ?_, ?_⟩
    all_goals
      simp [Json.object, Json.member?, Fields.ofList, unlessEmpty, sent, hname, hflag,
        hservers.symm]
  | cons server rest =>
    refine ⟨?_, ?_, ?_, ?_⟩
    all_goals
      simp [Json.object, Json.member?, Fields.ofList, unlessEmpty, sent, hname, hflag, hservers,
        Json.strs]

theorem selectedVpcs_listRequest (passes : Json → Vpc → Bool) (id : String) (c : Cursor)
    (vpcs : List Vpc) :
    selectedVpcs passes (listRequest "VpcIds" (some id) [("vpc-name", none)] c) vpcs =
      vpcs.filter fun v => v.id = id := by
  have hids : (listRequest "VpcIds" (some id) [("vpc-name", none)] c).member? "VpcIds" =
      some (.arr [.str id]) := by
    simp [listRequest, unlessEmpty, filterList, Json.object, Json.member?, Fields.ofList]
  have hfilters : (listRequest "VpcIds" (some id) [("vpc-name", none)] c).member? "Filters" =
      none := by
    simp [listRequest, unlessEmpty, filterList, Json.object, Json.member?, Fields.ofList]
  refine List.filter_congr fun v _ => ?_
  simp [Vpc.isSelected, hids, hfilters, Json.arr?, Json.str?, eq_comm]

theorem filter_id_eq {vpcs : List Vpc} (h : (vpcs.map Vpc.id).Nodup) (id : String) :
    (vpcs.filter fun v => v.id = id) = (vpcs.find? fun v => v.id = id).toList := by
  induction vpcs with
  | nil => rfl
  | cons v rest ih =>
    obtain ⟨hv, hrest⟩ := List.nodup_cons.mp h
    by_cases hid : v.id = id
    · have hnone : (rest.filter fun v => v.id = id) = [] := by
        refine List.filter_eq_nil_iff.mpr fun w hw => ?_
        have hne : w.id ≠ v.id := fun he => hv (he ▸ List.mem_map_of_mem hw)
        simpa [← hid] using hne
      rw [List.filter_cons_of_pos (by simpa using hid), hnone,
        List.find?_cons_of_pos (by simpa using hid)]
      rfl
    · rw [List.filter_cons_of_neg (by simpa using hid), List.find?_cons_of_neg (by simpa using hid),
        ih hrest]

/-! ## Calls -/

section Calls

variable {σ : Type} {remote : Dialogue.Remote σ Call Reply} {vpcs : σ → List Vpc}
  {passes : Json → Vpc → Bool} {s : σ}

/-- **A new network** is a new record. -/
theorem exec_createVpc (h : KeepsVpcs remote vpcs passes) (name cidrBlock : String)
    (isMulticast : Bool) (servers : List String) :
    ∃ v s', exec remote s (createVpc name cidrBlock isMulticast servers) = (.ok v.id, s') ∧
      v.entry = ⟨name, cidrBlock, isMulticast, servers⟩ ∧ vpcs s' = vpcs s ++ [v] := by
  obtain ⟨hcidr, hwrites⟩ := writes_object (by decide : "CidrBlock" ≠ "VpcName") (by decide)
    (by decide) (.str cidrBlock) name isMulticast servers
  obtain ⟨v, members, j, s', hreply, hmember, hv, hentry, hvpcs⟩ :=
    h.create s _ name cidrBlock isMulticast (sent servers) hwrites hcidr
  rw [getD_sent fun _ => rfl] at hentry
  have hid : v.id ≠ "" := h.id_ne s' v (by simp [hvpcs])
  refine ⟨v, s', ?_, hentry, hvpcs⟩
  have hdecode : Row.ofJson "CreateVpcResponse" (.required "Vpc" Vpc.ofJson) (.obj members) =
      .ok v := by
    simp [Row.ofJson, Row.required, hmember, hv, Except.mapError]
  rw [createVpc, exec_bind, Api.exec_call, hreply, Api.outcomeOf, hdecode]
  change exec remote s' (checkId .createVpc v.id) = _
  rw [checkId, if_neg hid, exec_pure]

theorem exec_command {action : Action} {request : Json} {members : Fields Json} {s' : σ}
    (h : remote s ⟨action, request⟩ = (.ok (.obj members), s')) :
    exec remote s (Api.command action request) = (.ok (), s') := by
  rw [Api.command, Api.exec_call, h]
  rfl

/-- **A known network is written.** -/
theorem exec_modifyVpc (h : KeepsVpcs remote vpcs passes) {id : String}
    (hid : id ∈ (vpcs s).map Vpc.id) (name : String) (isMulticast : Bool)
    (servers : List String) :
    ∃ s', exec remote s (modifyVpc id name isMulticast servers) = (.ok (), s') ∧
      vpcs s' = (vpcs s).map fun v =>
        if v.id = id then v.rewrite name isMulticast (sent servers) else v := by
  obtain ⟨hmember, hwrites⟩ := writes_object (by decide : "VpcId" ≠ "VpcName") (by decide)
    (by decide) (.str id) name isMulticast servers
  obtain ⟨members, s', hreply, hvpcs⟩ :=
    h.modify s _ id name isMulticast (sent servers) hwrites hmember hid
  exact ⟨s', exec_command hreply, hvpcs⟩

theorem exec_modifyVpc_gone (h : KeepsVpcs remote vpcs passes) {id : String}
    (hid : id ∉ (vpcs s).map Vpc.id) (name : String) (isMulticast : Bool)
    (servers : List String) :
    ∃ e s', exec remote s (modifyVpc id name isMulticast servers) = (.error e, s') ∧
      vpcs s' = vpcs s := by
  obtain ⟨hmember, -⟩ := writes_object (by decide : "VpcId" ≠ "VpcName") (by decide)
    (by decide) (.str id) name isMulticast servers
  obtain ⟨reply, s', hreply, ⟨e, rfl, -⟩, hvpcs⟩ := h.modify_gone s _ id hmember hid
  refine ⟨⟨.remote e, none⟩, s', ?_, hvpcs⟩
  rw [modifyVpc, Api.command, Api.exec_call, hreply]
  rfl

theorem exec_deleteVpc (h : KeepsVpcs remote vpcs passes) {id : String}
    (hid : id ∈ (vpcs s).map Vpc.id) :
    ∃ s', exec remote s (deleteVpc id) = (.ok (), s') ∧
      vpcs s' = (vpcs s).filter fun v => v.id ≠ id := by
  obtain ⟨members, s', hreply, hvpcs⟩ := h.delete s (Json.object [("VpcId", .str id)]) id rfl hid
  exact ⟨s', exec_command hreply, hvpcs⟩

end Calls

/-! ## Look-ups -/

section Finding

variable {σ : Type} {remote : Dialogue.Remote σ Call Reply} {vpcs : σ → List Vpc}
  {passes : Json → Vpc → Bool} {s s' : σ} {pageSize : UInt64}

theorem exec_all_of_isLast {α : Type} {fetch : Cursor → Api (Page α)} {page : Page α}
    (hp : pageSize ≠ 0) (hfetch : exec remote s (fetch ⟨0, pageSize⟩) = (.ok page, s'))
    (hlast : IsLast none 0 page) : exec remote s (all pageSize fetch) = (.ok page.items, s') := by
  change exec remote s (fetch ⟨([] : List α).length, pageSize⟩) = _ at hfetch
  rw [all, upTo, if_neg hp]
  change exec remote s (collectFrom pageSize none fetch [] ([] : List α).length) = _
  rw [collectFrom_eq, exec_bind_ok hfetch]
  change exec remote s' (if IsLast none 0 page then _ else _) = _
  rw [if_pos hlast]
  rfl

/-- **A look-up finds the record with an id.** -/
theorem exec_findVpc (h : KeepsVpcs remote vpcs passes) (hp : pageSize ≠ 0) (s : σ) (id : String) :
    ∃ s', exec remote s (findVpc pageSize id) =
        (.ok ((vpcs s).find? fun v => v.id = id), s') ∧ vpcs s' = vpcs s := by
  let request := listRequest "VpcIds" (some id) [("vpc-name", none)]
  let found := (vpcs s).find? fun v => v.id = id
  have hwindow : Windowed .describeVpcs (parameters "VpcIds" (some id) [("vpc-name", none)])
      request :=
    windowed_listRequest rfl (by decide) _ _
  obtain ⟨reply, records, s', hreply, hpage, hrecords, hvpcs⟩ :=
    h.describe s (request ⟨0, pageSize⟩) 0 pageSize.toNat (hwindow ⟨0, pageSize⟩).2
  have hselected : selectedVpcs passes (request ⟨0, pageSize⟩) (vpcs s) = found.toList := by
    rw [selectedVpcs_listRequest, filter_id_eq (h.nodup s)]
  have hpos : 0 < pageSize.toNat := Nat.pos_of_ne_zero fun h => hp (UInt64.toNat_inj.mp h)
  have hlength : found.toList.length ≤ 1 := Option.length_toList_le
  rw [hselected] at hpage hrecords
  rw [List.drop_zero, List.take_of_length_le (by omega)] at hrecords
  let page : Page Vpc := ⟨found.toList, UInt64.ofNat found.toList.length⟩
  have htotal : found.toList.length < UInt64.size :=
    Nat.lt_of_le_of_lt hlength (by decide)
  have hlast : IsLast none 0 page := by
    have hall : (UInt64.ofNat found.toList.length).toNat = 0 + found.toList.length := by
      rw [UInt64.toNat_ofNat_of_lt' htotal, Nat.zero_add]
    exact .inr (.inr (Nat.le_of_eq hall))
  have hfetch : exec remote s (Api.call .describeVpcs (request ⟨0, pageSize⟩)
      ((pageRow "VpcSet" Vpc.ofJson).ofJson "DescribeVpcsResponse")) = (.ok page, s') := by
    rw [Api.exec_call, hreply, outcomeOf_page hpage hrecords, pageOf, if_pos htotal]
  have hlist : exec remote s (listVpcs pageSize (some id) none) = (.ok found.toList, s') :=
    exec_all_of_isLast hp hfetch hlast
  have hknown : exec remote s (Api.orIfNotFound .vpc (listVpcs pageSize (some id) none) []) =
      (.ok found.toList, s') := by
    rw [Api.exec_orIfNotFound, hlist]
    rfl
  refine ⟨s', ?_, hvpcs⟩
  rw [findVpc, exec_bind_ok hknown, Lookup.exec_unique, Lookup.choice_toList]

end Finding

end Network

end CloudProvider
