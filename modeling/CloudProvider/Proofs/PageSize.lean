import CloudProvider.Proofs.Inventory.Outcome

/-!
# Page sizes

The size of a page is a matter of how a remote is asked, not of what it answers: every outcome is
that of the inventory, which knows of no pages.

* `Provider.Conveys`: whether listings, reads and queries give just what an inventory has.
* **`Provider.result_eq_of_pageSize`**: they do, whatever the page size.
-/

namespace CloudProvider

open Operation

namespace Provider

variable {inv : Inventory} {remote paged whole : Call → Reply} {settings : Settings}

/-- **Whether all that is told is what an inventory has.** A listing gives an entity for each record
that is selected, in order and up to the bound. -/
structure Conveys (settings : Settings) (inv : Inventory) (remote : Call → Reply) : Prop where
  listVpcs : ∀ id name,
    resultWith remote (Network.listVpcs settings.pageSize id name) = inv.vpcs id name
  listSubnets : ∀ q, resultWith remote (Network.listSubnets settings.pageSize q) = inv.subnets q
  listRouteTables : ∀ q,
    resultWith remote (Network.listRouteTables settings.pageSize q) = inv.routeTables q
  listAccounts : ∀ mysqlId,
    resultWith remote (Mysql.listAccounts settings.pageSize mysqlId) = inv.accounts mysqlId
  listBackups : ∀ mysqlId max,
    resultWith remote (Mysql.listBackups settings.pageSize mysqlId max) = inv.backups mysqlId max
  read : ∀ id identifier, resultWith remote (read settings id identifier) = inv.state id identifier
  query : ∀ r, resultWith remote (query settings r) = inv.found settings.region r

theorem read_of_tells (h : inv.Tells settings.pageSize remote) (id : ResourceId)
    (identifier : Option String) :
    resultWith remote (read settings id identifier) = inv.state id identifier := by
  rw [read, resultWith_onResource, Inventory.state]
  refine congrArg (Except.mapError _) ?_
  rw [resultWith_bind, resultWith_lift]
  refine bind_congr fun kind => ?_
  cases identifier with
  | none => rfl
  | some s =>
    dsimp only
    rw [resultWith_bind, h.read]
    refine bind_congr fun attributes => ?_
    cases attributes with
    | none => rfl
    | some _ => rfl

theorem query_of_tells (h : inv.Tells settings.pageSize remote) (r : Resource) :
    resultWith remote (query settings r) = inv.found settings.region r := by
  rw [query, resultWith_onResource, Inventory.found]
  refine congrArg (Except.mapError _) ?_
  rw [resultWith_bind, resultWith_lift]
  refine bind_congr fun kind => ?_
  rw [resultWith_bind, resultWith_lift]
  refine bind_congr fun prepared => ?_
  rw [resultWith_bind, h.dataSource]
  rfl

theorem conveys_of_tells (h : inv.Tells settings.pageSize remote) :
    Conveys settings inv remote where
  listVpcs := h.listVpcs
  listSubnets := h.listSubnets
  listRouteTables := h.listRouteTables
  listAccounts := h.listAccounts
  listBackups := h.listBackups
  read := read_of_tells h
  query := query_of_tells h

/-- **The page size never changes an answer.** Whatever a remote has, listings, reads and queries
give just that. So they have the same outcome with pages of any two sizes, and it is the outcome
against a remote that has the same and lists it all at once. -/
theorem result_eq_of_pageSize (hpaged : inv.InPages paged) (hwhole : inv.AtOnce whole)
    {p q : UInt64} (hp : p ≠ 0) (hq : q ≠ 0) (region : String) (polling : AsyncRequest.Polling) :
    Conveys ⟨region, p, polling⟩ inv paged ∧ Conveys ⟨region, q, polling⟩ inv whole ∧
    (∀ id identifier,
      resultWith paged (read ⟨region, p, polling⟩ id identifier) =
          resultWith paged (read ⟨region, q, polling⟩ id identifier) ∧
        resultWith paged (read ⟨region, p, polling⟩ id identifier) =
          resultWith whole (read ⟨region, q, polling⟩ id identifier)) ∧
    ∀ r,
      resultWith paged (query ⟨region, p, polling⟩ r) =
          resultWith paged (query ⟨region, q, polling⟩ r) ∧
        resultWith paged (query ⟨region, p, polling⟩ r) =
          resultWith whole (query ⟨region, q, polling⟩ r) := by
  have h₁ : Conveys ⟨region, p, polling⟩ inv paged := conveys_of_tells (hpaged.tells hp)
  have h₂ : Conveys ⟨region, q, polling⟩ inv paged := conveys_of_tells (hpaged.tells hq)
  have h₃ : Conveys ⟨region, q, polling⟩ inv whole := conveys_of_tells (hwhole.tells hq)
  refine ⟨h₁, h₃, fun id identifier => ?_, fun r => ?_⟩
  · exact ⟨(h₁.read id identifier).trans (h₂.read id identifier).symm,
      (h₁.read id identifier).trans (h₃.read id identifier).symm⟩
  · exact ⟨(h₁.query r).trans (h₂.query r).symm, (h₁.query r).trans (h₃.query r).symm⟩

/-- The network whose subnets are asked for. -/
def networkAsked? (parameters : Json) : Option String :=
  match parameters.member? "Filters" with
  | some (.arr [.obj [_, ("Values", .arr [.str id])]]) => some id
  | _ => none

/-- Three networks: one with three subnets, one with none and one with a subnet. -/
def threeNetworks : Inventory where
  select action parameters :=
    match action, networkAsked? parameters with
    | .describeVpcs, _ =>
      ["vpc-1", "vpc-2", "vpc-3"].map fun id => .obj [("VpcId", .str id)]
    | .describeSubnets, some "vpc-1" =>
      ["subnet-1", "subnet-2", "subnet-3"].map fun id => .obj [("SubnetId", .str id)]
    | .describeSubnets, some "vpc-3" => [.obj [("SubnetId", .str "subnet-4")]]
    | _, _ => []
  other c := .error ⟨c.action.name, "UnsupportedOperation", "not offered", none⟩
  isRecord action parameters j hj := by
    split at hj
    · obtain ⟨id, -, rfl⟩ := List.mem_map.mp hj
      exact ⟨_, rfl⟩
    · obtain ⟨id, -, rfl⟩ := List.mem_map.mp hj
      exact ⟨_, rfl⟩
    · rw [List.mem_singleton.mp hj]
      exact ⟨_, rfl⟩
    · exact absurd hj List.not_mem_nil

/-- The three networks with their subnets, in pages of two and all at once. -/
theorem threeNetworks_in_pages_of_two :
    let settings (pageSize : UInt64) : Settings := ⟨"ap-guangzhou", pageSize, ⟨3, 1⟩⟩
    let r : Resource := ⟨⟨"vpc_instances", "all"⟩, [], true⟩
    let item (id : String) (subnetIds : List String) : Value := .ofEntries
      [("vpc_id", .text id), ("name", .text ""), ("cidr_block", .text ""),
        ("is_default", .bool false), ("is_multicast", .bool false), ("dns_servers", .texts []),
        ("subnet_ids", .texts subnetIds), ("create_time", .text "")]
    let state : State := .existing r.id (some "vpc_instances_") <| .ofList
      [("instance_list", .list
        [item "vpc-1" ["subnet-1", "subnet-2", "subnet-3"], item "vpc-2" [],
          item "vpc-3" ["subnet-4"]]),
        ("name", .text ""), ("vpc_id", .text "")]
    threeNetworks.InPages threeNetworks.windows ∧ threeNetworks.AtOnce threeNetworks.everything ∧
      (2 : UInt64) ≠ 0 ∧ (100 : UInt64) ≠ 0 ∧
      resultWith threeNetworks.windows (query (settings 2) r) = .ok state ∧
      resultWith threeNetworks.everything (query (settings 100) r) = .ok state := by
  intro settings r item state
  have hpaged := threeNetworks.inPages_windows
  have hwhole := threeNetworks.atOnce_everything
  obtain ⟨htold, -, -, hquery⟩ := result_eq_of_pageSize hpaged hwhole (p := 2) (q := 100)
    (by decide) (by decide) "ap-guangzhou" ⟨3, 1⟩
  have hstate : threeNetworks.found "ap-guangzhou" r = .ok state := by decide +kernel
  have hresult : resultWith threeNetworks.windows (query (settings 2) r) = .ok state :=
    (htold.query r).trans hstate
  exact ⟨hpaged, hwhole, by decide, by decide, hresult, (hquery r).2.symm.trans hresult⟩

end Provider

end CloudProvider
