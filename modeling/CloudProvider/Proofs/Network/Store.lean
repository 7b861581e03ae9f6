import CloudProvider.Proofs.Network.Records

/-!
# A remote that keeps records of networks

* `Network.Store`: networks with numbered ids, of which none is given twice.
* `Network.Store.answer`: the remote that applies requests to them.
* **`Network.Store.keepsVpcs_answer`**: it is one that keeps records.
-/

namespace CloudProvider.Network

/-! ## Networks as the remote describes them -/

/-- The description of a network. -/
def Vpc.json (v : Vpc) : Json :=
  Json.object
    [("VpcId", .str v.id), ("VpcName", .str v.name), ("CidrBlock", .str v.cidrBlock),
     ("IsDefault", .bool v.isDefault), ("EnableMulticast", .bool v.isMulticast),
     ("DnsServerSet", .strs v.dnsServers), ("CreatedTime", .str v.createdTime)]

/-- **A network is read back from its description.** -/
theorem Vpc.ofJson_json (v : Vpc) : Vpc.ofJson v.json = .ok v := by
  have hservers : Json.asListOrNull Json.asText (.strs v.dnsServers) = .ok v.dnsServers := by
    refine Json.asItems_eq_ok.mpr (List.forall₂_map_left_iff.mpr ?_)
    exact List.forall₂_same.mpr fun _ _ => rfl
  simp [Vpc.ofJson, Vpc.json, Json.object, Row.ofJson, Vpc.row, Fields.ofList, Functor.map, Seq.seq,
    Row.column, Json.asText, Json.asBool, hservers, Except.mapError]

/-! ## Stores -/

/-- The id with a number. -/
def numberedId (n : Nat) : String := "vpc-" ++ toString n

theorem numberedId_inj {m n : Nat} (h : numberedId m = numberedId n) : m = n := by
  have htexts := congrArg String.toList h
  rw [numberedId, numberedId, String.toList_append, String.toList_append] at htexts
  have hdigits := congrArg Text.decimal? (List.append_cancel_left htexts)
  rw [Text.decimal?_toString, Text.decimal?_toString] at hdigits
  exact Option.some.inj hdigits

theorem numberedId_ne (n : Nat) : numberedId n ≠ "" := by
  intro h
  have htexts := congrArg String.toList h
  rw [numberedId, String.toList_append] at htexts
  cases htexts

/-- **Networks with numbered ids.** The numbers below the next one have been given. -/
structure Store where
  next : Nat
  vpcs : List Vpc
  nodup : (vpcs.map Vpc.id).Nodup
  numbered : ∀ v ∈ vpcs, ∃ n < next, v.id = numberedId n

namespace Store

/-- The store of no networks. -/
def empty : Store := ⟨0, [], List.nodup_nil, fun _ h => absurd h List.not_mem_nil⟩

/-- A store with one more network, under the next number. -/
def append (s : Store) (v : Vpc) (hv : v.id = numberedId s.next) : Store where
  next := s.next + 1
  vpcs := s.vpcs ++ [v]
  nodup := by
    rw [List.map_append, List.nodup_append]
    refine ⟨s.nodup, List.nodup_singleton _, fun id hid id' hid' he => ?_⟩
    obtain ⟨w, hw, rfl⟩ := List.mem_map.mp hid
    obtain ⟨n, hn, hwid⟩ := s.numbered w hw
    obtain rfl := List.mem_singleton.mp hid'
    exact absurd (numberedId_inj (hwid.symm.trans (he.trans hv))) (Nat.ne_of_lt hn)
  numbered w hw := by
    rcases List.mem_append.mp hw with hw | hw
    · obtain ⟨n, hn, hid⟩ := s.numbered w hw
      exact ⟨n, Nat.lt_succ_of_lt hn, hid⟩
    · obtain rfl := List.mem_singleton.mp hw
      exact ⟨s.next, Nat.lt_succ_self _, hv⟩

/-- A store with each network changed, but for its id. -/
def map (s : Store) (f : Vpc → Vpc) (hf : ∀ v, (f v).id = v.id) : Store where
  next := s.next
  vpcs := s.vpcs.map f
  nodup := by
    rw [List.map_map, show Vpc.id ∘ f = Vpc.id from funext hf]
    exact s.nodup
  numbered w hw := by
    obtain ⟨v, hv, rfl⟩ := List.mem_map.mp hw
    rw [hf]
    exact s.numbered v hv

/-- A store without the networks that a test refuses. -/
def filter (s : Store) (p : Vpc → Bool) : Store where
  next := s.next
  vpcs := s.vpcs.filter p
  nodup := s.nodup.sublist (List.Sublist.map _ List.filter_sublist)
  numbered w hw := s.numbered w (List.mem_filter.mp hw).1

end Store

/-! ## Requests -/

/-- The texts of an array. -/
def texts (j : Json) : List String := (j.arr?.getD []).filterMap Json.str?

/-- What a request to write a network says: a name and a flag, and servers if it gives them. -/
def written? (request : Json) : Option (String × Bool × Option (List String)) :=
  ((request.member? "VpcName").bind Json.str?).bind fun name =>
    ((request.member? "EnableMulticast").bind flag?).map fun isMulticast =>
      (name, isMulticast, (request.member? "DnsServers").map texts)

theorem written?_eq {request : Json} {name : String} {isMulticast : Bool}
    {servers : Option (List String)} (h : Writes request name isMulticast servers) :
    written? request = some (name, isMulticast, servers) := by
  have htexts : (servers.map Json.strs).map texts = servers := by
    cases servers with
    | none => rfl
    | some l => simp [texts, Json.strs, Json.arr?, List.filterMap_map, Function.comp_def, Json.str?]
  rw [written?, h.name, h.isMulticast, h.servers, htexts]
  rfl

/-- Whether a network passes a filter. The only filter is that of names. -/
def Vpc.passes (filter : Json) (v : Vpc) : Bool :=
  (filter.member? "Name").any (fun name => name.str? = some "vpc-name") &&
    (filter.member? "Values").any fun values => v.name ∈ texts values

/-! ## The remote -/

namespace Store

def failure (action : Action) (code : String) : Reply := .error ⟨action.name, code, "", none⟩

/-- The answer to a request about a network that does not exist. -/
def gone (action : Action) : Reply := failure action "ResourceNotFound"

/-- The answer to a request that lacks something. -/
def incomplete (action : Action) : Reply := failure action "MissingParameter"

/-- A network with a new number. -/
def create (s : Store) (request : Json) : Reply × Store :=
  match written? request, (request.member? "CidrBlock").bind Json.str? with
  | some (name, isMulticast, servers), some cidrBlock =>
    let v : Vpc :=
      { id := numberedId s.next, name, cidrBlock, isDefault := false, isMulticast,
        dnsServers := servers.getD [], createdTime := "" }
    (.ok (Json.object [("Vpc", v.json)]), s.append v rfl)
  | _, _ => (incomplete .createVpc, s)

def modify (s : Store) (request : Json) : Reply × Store :=
  match (request.member? "VpcId").bind Json.str? with
  | none => (incomplete .modifyVpcAttribute, s)
  | some id =>
    if id ∈ s.vpcs.map Vpc.id then
      match written? request with
      | none => (incomplete .modifyVpcAttribute, s)
      | some (name, isMulticast, servers) =>
        (.ok (Json.object []),
          s.map (fun v => if v.id = id then v.rewrite name isMulticast servers else v) fun v => by
            split_ifs <;> rfl)
    else (gone .modifyVpcAttribute, s)

def delete (s : Store) (request : Json) : Reply × Store :=
  match (request.member? "VpcId").bind Json.str? with
  | none => (incomplete .deleteVpc, s)
  | some id =>
    if id ∈ s.vpcs.map Vpc.id then (.ok (Json.object []), s.filter fun v => v.id ≠ id)
    else (gone .deleteVpc, s)

/-- The networks that a request selects, from an offset on and up to a limit. -/
def describe (s : Store) (request : Json) : Reply :=
  match Call.window? ⟨.describeVpcs, request⟩ with
  | none => incomplete .describeVpcs
  | some (offset, limit) =>
    let selected := selectedVpcs Vpc.passes request s.vpcs
    .ok <| Json.object
      [("TotalCount", .int selected.length),
       ("VpcSet", .arr (((selected.drop offset).take limit).map Vpc.json))]

/-- **The remote that keeps a store**, and does nothing else. -/
def answer : Dialogue.Remote Store Call Reply := fun s c =>
  match c.action with
  | .createVpc => s.create c.request
  | .modifyVpcAttribute => s.modify c.request
  | .deleteVpc => s.delete c.request
  | .describeVpcs => (s.describe c.request, s)
  | action => (failure action "InvalidAction", s)

theorem isGone_gone (action : Action) : IsGone (gone action) := ⟨_, rfl, rfl⟩

/-- **The store keeps records of networks.** -/
theorem keepsVpcs_answer : KeepsVpcs answer vpcs Vpc.passes where
  nodup s := s.nodup
  id_ne s v hv := by
    obtain ⟨n, -, hid⟩ := s.numbered v hv
    exact hid ▸ numberedId_ne n
  create s request name cidrBlock isMulticast servers hwrites hcidr := by
    have hanswer : answer s ⟨.createVpc, request⟩ = s.create request := rfl
    rw [hanswer, create, written?_eq hwrites, hcidr]
    exact ⟨_, _, _, _, rfl, rfl, Vpc.ofJson_json _, rfl, rfl⟩
  modify s request id name isMulticast servers hwrites hid hmem := by
    have hanswer : answer s ⟨.modifyVpcAttribute, request⟩ = s.modify request := rfl
    rw [hanswer, modify, hid]
    dsimp only [Option.bind_some, Json.str?]
    rw [if_pos hmem, written?_eq hwrites]
    exact ⟨_, _, rfl, rfl⟩
  modify_gone s request id hid hmem := by
    have hanswer : answer s ⟨.modifyVpcAttribute, request⟩ = s.modify request := rfl
    rw [hanswer, modify, hid]
    dsimp only [Option.bind_some, Json.str?]
    rw [if_neg hmem]
    exact ⟨_, _, rfl, isGone_gone _, rfl⟩
  delete s request id hid hmem := by
    have hanswer : answer s ⟨.deleteVpc, request⟩ = s.delete request := rfl
    rw [hanswer, delete, hid]
    dsimp only [Option.bind_some, Json.str?]
    rw [if_pos hmem]
    exact ⟨_, _, rfl, rfl⟩
  delete_gone s request id hid hmem := by
    have hanswer : answer s ⟨.deleteVpc, request⟩ = s.delete request := rfl
    rw [hanswer, delete, hid]
    dsimp only [Option.bind_some, Json.str?]
    rw [if_neg hmem]
    exact ⟨_, _, rfl, isGone_gone _, rfl⟩
  describe s request offset limit hwindow := by
    have hanswer : answer s ⟨.describeVpcs, request⟩ = (s.describe request, s) := rfl
    rw [hanswer, describe, hwindow]
    let window := ((selectedVpcs Vpc.passes request s.vpcs).drop offset).take limit
    refine ⟨_, window.map Vpc.json, s, rfl, ⟨_, rfl, ?_, ?_⟩, ?_, rfl⟩
    · simp [Fields.ofList]
    · simp [Fields.ofList, window]
    refine Json.asItems_eq_ok.mpr (List.forall₂_map_left_iff.mpr ?_)
    exact List.forall₂_same.mpr fun v _ => Vpc.ofJson_json v

end Store

end CloudProvider.Network
