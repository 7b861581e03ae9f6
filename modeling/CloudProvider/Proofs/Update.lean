import CloudProvider.Proofs.Attributes
import CloudProvider.Proofs.Rejection

/-!
# Updates that are rejected

An update checks what it can before the first call. What it still checks afterwards is whether a
route table belongs to the network of a subnet, and a subnet may have been renamed by then.

* `Provider.HalfApplies`: the updates that change a subnet before they check its route table.
* `Provider.rejectsFirst_update`: all other updates are rejected before the first change.
* **`Provider.untouched_iff_not_halfApplies`**: which updates leave the remote as it is whenever
  they are rejected.
-/

namespace CloudProvider

open Listing Operation Api

deriving instance DecidableEq for Resource

/-! ## Updates by kind -/

theorem Resource.isInvalid_of_required (r : Resource) {key : String} {e : Error}
    (h : r.required key = .error e) : e.isInvalid = true := by
  unfold required at h
  split at h
  · cases h
  · obtain rfl := Except.error.inj h
    rfl

namespace Lifecycle

variable {settings : Settings} {pageSize : UInt64} {s : String} {current : State}
  {desired : Resource}

theorem rejectsFirst_updateVpc : RejectsFirst (updateVpc s current desired) :=
  rejectsFirst_lift_bind fun _ _ => NeverRejects.rejectsFirst neverRejects_call

theorem rejectsFirst_updateRouteTable : RejectsFirst (updateRouteTable s desired) :=
  rejectsFirst_lift_bind fun _ _ => NeverRejects.rejectsFirst neverRejects_call

theorem neverRejects_optional {p q : Prop} [Decidable p] [Decidable q] {first second : Api Unit}
    (hfirst : NeverRejects first) (hsecond : NeverRejects second) :
    NeverRejects (do
      if p then first
      if q then second) := by
  refine failsOnly_optional hfirst ?_
  split_ifs
  · exact hsecond
  · exact failsOnly_pure

theorem rejectsFirst_updateAccount : RejectsFirst (updateAccount settings s current desired) := by
  refine rejectsFirst_lift_bind fun ⟨mysqlId, name⟩ _ => ?_
  refine rejectsFirst_lift_bind fun password _ => NeverRejects.rejectsFirst ?_
  exact neverRejects_optional (neverRejects_finish Mysql.neverRejects_requested)
    (neverRejects_finish Mysql.neverRejects_requested)

theorem rejectsFirst_updatePrivilege : RejectsFirst (updatePrivilege settings s desired) :=
  rejectsFirst_lift_bind fun ⟨_, _, _⟩ _ =>
    NeverRejects.rejectsFirst (neverRejects_finish Mysql.neverRejects_requested)

theorem looks_ensureInVpc {table vpcId : String} : Looks (ensureInVpc pageSize table vpcId) := by
  refine AsksOnly.bind (AsksOnly.bind Network.looks_uniqueRouteTable fun _ => asksOnly_pure)
    fun found => ?_
  split_ifs
  · exact asksOnly_pure
  · exact asksOnly_throw

theorem rejectsFirst_updateSubnet
    (h : ∀ name table, desired.required "name" = .ok name →
      subnetDiffers current name (desired.boolOr "is_multicast" true) = true →
      newTable? current desired ≠ some table) :
    RejectsFirst (updateSubnet pageSize s current desired) := by
  refine rejectsFirst_lift_bind fun name hname => ?_
  dsimp only
  cases htable : newTable? current desired with
  | none =>
    refine NeverRejects.rejectsFirst ?_
    split_ifs
    · exact FailsOnly.bind neverRejects_call fun _ => failsOnly_pure
    · exact failsOnly_pure
  | some table =>
    rw [if_neg fun hdiffers => h name table hname hdiffers htable]
    refine rejectsFirst_lift_bind fun vpcId _ => ?_
    exact looks_ensureInVpc.bind_rejectsFirst fun _ => neverRejects_call.rejectsFirst

theorem exists_yields_ensureInVpc (hp : pageSize ≠ 0) (table vpcId : String) :
    ∃ ex, Yields (ensureInVpc pageSize table vpcId) ex (.error (foreignTable table vpcId)) := by
  have hpage : answer .describeRouteTables (.ok (.obj [])) =
      .ok (⟨[], 0⟩ : Page Network.RouteTable) := rfl
  have hlast : IsLast none 0 (⟨[], 0⟩ : Page Network.RouteTable) := .inr (.inl rfl)
  have hnone : Yields (Network.uniqueRouteTable pageSize table (some vpcId)) _ (.ok none) :=
    (Network.yields_uniqueRouteTable hp).mpr ⟨_, .last hpage hlast, rfl⟩
  have hfound : Yields (Network.isRouteTableInVpc pageSize table vpcId) _ (.ok false) :=
    yields_bind_pure.mpr ⟨_, hnone, rfl⟩
  exact ⟨_, yields_bind.mpr (.inr ⟨_, false, [], rfl, hfound, yields_throw.mpr ⟨rfl, rfl⟩⟩)⟩

/-- **A subnet can be changed and its route table be refused.** -/
theorem exists_yields_updateSubnet (hp : pageSize ≠ 0) {name table : String}
    (hname : desired.required "name" = .ok name)
    (hdiffers : subnetDiffers current name (desired.boolOr "is_multicast" true) = true)
    (htable : newTable? current desired = some table) :
    ∃ ex e, Yields (updateSubnet pageSize s current desired) ex (.error e) ∧
      e.isInvalid = true ∧ ∃ x ∈ ex, x.1.action.isDescribing = false := by
  obtain ⟨x, hmodify, hx⟩ : ∃ x, Yields
      (Network.modifySubnet s name (desired.boolOr "is_multicast" true)) [x] (.ok ()) ∧
      x.1.action.isDescribing = false := ⟨_, yields_call.mpr ⟨.ok (.obj []), rfl, rfl⟩, rfl⟩
  have hcheck : ∃ ex e, Yields (do
      let vpcId ← (desired.required "vpc_id" : Except Error String)
      ensureInVpc pageSize table vpcId
      Network.associateRouteTable s table : Api Unit) ex (.error e) ∧ e.isInvalid = true := by
    cases hvpc : desired.required "vpc_id" with
    | error e =>
      exact ⟨[], e, (yields_error_bind rfl).mpr ⟨rfl, rfl⟩, desired.isInvalid_of_required hvpc⟩
    | ok vpcId =>
      obtain ⟨ex, hex⟩ := exists_yields_ensureInVpc hp table vpcId
      exact ⟨ex, _, (yields_ok_bind rfl).mpr (yields_bind.mpr (.inl ⟨_, hex, rfl⟩)), rfl⟩
  obtain ⟨ex, e, hex, he⟩ := hcheck
  refine ⟨[x] ++ ex, e, (yields_ok_bind hname).mpr ?_, he, x,
    List.mem_append_left _ (List.mem_singleton.mpr rfl), hx⟩
  dsimp only
  rw [if_pos hdiffers, htable]
  exact yields_bind.mpr (.inr ⟨[x], (), ex, rfl, hmodify, hex⟩)

end Lifecycle

/-! ## Updates of resources -/

theorem LifecycleKind.name_of_ofName? {name : String} {kind : LifecycleKind}
    (h : ofName? name = some kind) : kind.name = name := by
  have h := List.find?_some h
  exact of_decide_eq_true h

namespace Provider

variable {settings : Settings} {id : ResourceId} {identifier : String} {current : State}
  {desired : Resource}

/-- **Whether an update changes a subnet before it checks its route table**: the name or the flag
differs, and a table is given that the subnet does not use yet. -/
def HalfApplies (id : ResourceId) (current : State) (desired : Resource) : Prop :=
  id.type = LifecycleKind.subnet.name ∧ ∃ r name table,
    prepare Catalog.subnetSchema desired = .ok r ∧
    Catalog.subnetSchema.replacements current.attributes r.attributes = [] ∧
    r.required "name" = .ok name ∧
    Lifecycle.subnetDiffers current name (r.boolOr "is_multicast" true) = true ∧
    Lifecycle.newTable? current r = some table

theorem rejectsFirst_change (hp : settings.pageSize ≠ 0) {kind : LifecycleKind} {op : Api Unit}
    (hop : RejectsFirst op) (haddress : ∀ ex, Yields op ex (.ok ()) → kind.IsAddress identifier) :
    RejectsFirst (logFailure "update failed" id op >>= fun _ =>
      readBack kind.schema (kind.lifecycle settings) desired identifier) := by
  refine RejectsFirst.bind_neverRejects (fun ex e hy => hop ex e (yields_logFailure.mp hy)) ?_
  intro ex _ hy
  exact neverRejects_readBack hp (haddress ex (yields_logFailure.mp hy))

/-- **Updates are rejected before they change anything**, unless they half apply. -/
theorem rejectsFirst_update (hp : settings.pageSize ≠ 0) (h : ¬ HalfApplies id current desired) :
    RejectsFirst (update settings id identifier current desired) := by
  refine RejectsFirst.onResource ?_ id
  refine rejectsFirst_lift_bind fun kind hkind => ?_
  refine rejectsFirst_lift_bind fun r hr => ?_
  refine rejectsFirst_lift_bind fun _ hreplace => ?_
  refine Looks.bind_rejectsFirst asksOnly_log fun _ => ?_
  cases kind with
  | vpc => exact rejectsFirst_change hp Lifecycle.rejectsFirst_updateVpc fun _ _ => trivial
  | subnet =>
    refine rejectsFirst_change hp ?_ fun _ _ => trivial
    refine Lifecycle.rejectsFirst_updateSubnet fun name table hname hdiffers htable => h ?_
    exact ⟨(LifecycleKind.name_of_ofName? (lifecycleKind_eq_ok.mp hkind)).symm, r, name, table,
      (prepareFor_eq fun _ => rfl).symm.trans hr, checkReplacements_eq_ok.mp hreplace, hname,
      hdiffers, htable⟩
  | routeTable =>
    exact rejectsFirst_change hp Lifecycle.rejectsFirst_updateRouteTable fun _ _ => trivial
  | routeEntry =>
    -- The identifier need not be an address here: nothing has looked at it yet.
    exact Looks.rejectsFirst (AsksOnly.bind (looks_logFailure asksOnly_pure) fun _ =>
      looks_readBack settings .routeEntry _ identifier)
  | account =>
    refine rejectsFirst_change hp Lifecycle.rejectsFirst_updateAccount fun ex hy => ?_
    cases hid : CompositeId.two identifier Mysql.Account.idShape with
    | error e => cases ((yields_error_bind hid).mp hy).2
    | ok _ => exact CompositeId.two_eq_ok hid
  | privilege =>
    refine rejectsFirst_change hp Lifecycle.rejectsFirst_updatePrivilege fun ex hy => ?_
    cases hid : CompositeId.three identifier Mysql.Grant.idShape with
    | error e => cases ((yields_error_bind hid).mp hy).2
    | ok _ => exact CompositeId.three_eq_ok hid
  | backupPolicy =>
    exact rejectsFirst_change hp (NeverRejects.rejectsFirst neverRejects_call) fun _ _ => trivial

theorem exists_yields_halfApplied (hp : settings.pageSize ≠ 0)
    (h : HalfApplies id current desired) :
    ∃ ex e, Yields (update settings id identifier current desired) ex (.error e) ∧
      e.isInvalid = true ∧ ∃ x ∈ ex, x.1.action.isDescribing = false := by
  obtain ⟨htype, r, name, table, hr, hreplace, hname, hdiffers, htable⟩ := h
  obtain ⟨ex, e, hex, he, hchange⟩ := Lifecycle.exists_yields_updateSubnet hp
    hname hdiffers htable
  have hkind : lifecycleKind id = .ok .subnet := by
    rw [lifecycleKind_eq_ok, htype, LifecycleKind.ofName?_name]
  refine ⟨ex, e.forResource id, yields_onResource.mpr ⟨.error e, ?_, rfl⟩, he, hchange⟩
  refine (yields_ok_bind hkind).mpr ?_
  refine (yields_ok_bind ((prepareFor_eq fun _ => rfl).trans hr)).mpr ?_
  refine (yields_ok_bind (checkReplacements_eq_ok.mpr hreplace)).mpr ?_
  exact yields_log_bind.mpr (yields_bind.mpr (.inl ⟨e, yields_logFailure.mpr hex, rfl⟩))

/-- **The updates that leave the remote as it is whenever they are rejected** are those that do not
half apply. -/
theorem untouched_iff_not_halfApplies (hp : settings.pageSize ≠ 0) (id : ResourceId)
    (identifier : String) (current : State) (desired : Resource) :
    (∀ (σ : Type) (remote : Dialogue.Remote σ Call Reply) (start : σ),
      let run := (update settings id identifier current desired).against remote start
      ∀ e, run.result = .error e → e.isInvalid = true →
        ∀ q ∈ run.questions, q.action.isDescribing = true) ↔
      ¬ HalfApplies id current desired := by
  constructor
  · intro huntouched h
    obtain ⟨ex, e, hex, he, x, hx, hchange⟩ := exists_yields_halfApplied hp h
    obtain ⟨hexchanges, hresult⟩ := hex.exists_against fun _ => .ok .null
    have hq := huntouched _ _ _ e hresult he x.1
    rw [Dialogue.Run.questions_eq, hexchanges, hchange] at hq
    exact absurd (hq (List.mem_map_of_mem hx)) Bool.false_ne_true
  · intro h σ remote start run e hresult he q hq
    rw [Dialogue.Run.questions_eq] at hq
    obtain ⟨x, hx, rfl⟩ := List.mem_map.mp hq
    have hy : Yields (update settings id identifier current desired) run.exchanges (.error e) :=
      hresult ▸ yields_against remote start _
    exact rejectsFirst_update hp h _ e hy he x hx

/-- A subnet with a route table of its network. -/
def webSubnet : State :=
  .existing ⟨"subnet", "web"⟩ (some "subnet-1") <| .ofList
    [("name", .text "web"), ("vpc_id", .text "vpc-1"), ("availability_zone", .text "zone-3"),
     ("cidr_block", .text "10.0.1.0/24"), ("is_multicast", .bool true),
     ("route_table_id", .text "rtb-1")]

/-- The subnet with another name, and a route table of another network. -/
def shopSubnet : Resource where
  id := ⟨"subnet", "web"⟩
  attributes := .ofList
    [("name", .text "shop"), ("vpc_id", .text "vpc-1"), ("availability_zone", .text "zone-3"),
     ("cidr_block", .text "10.0.1.0/24"), ("is_multicast", .bool true),
     ("route_table_id", .text "rtb-9")]

/-- **The subnet is renamed, and its route table refused.** -/
theorem rename_before_refusal :
    let run := (update ⟨"ap-guangzhou", 20, ⟨3, 1⟩⟩ shopSubnet.id "subnet-1" webSubnet
      shopSubnet).against (Dialogue.scripted fun _ => .ok .null) [.ok (.obj []), .ok (.obj [])]
    run.result = .error ⟨.invalid "route table rtb-9 not found in vpc vpc-1", some shopSubnet.id⟩ ∧
      run.questions.map (fun q => q.action) = [.modifySubnetAttribute, .describeRouteTables] := by
  decide +kernel

/-- The update of the subnet half applies. -/
theorem renamed_subnet_not_untouched :
    (20 : UInt64) ≠ 0 ∧ HalfApplies shopSubnet.id webSubnet shopSubnet ∧
      ¬ ∀ (σ : Type) (remote : Dialogue.Remote σ Call Reply) (start : σ),
        let run := (update ⟨"ap-guangzhou", 20, ⟨3, 1⟩⟩ shopSubnet.id "subnet-1" webSubnet
          shopSubnet).against remote start
        ∀ e, run.result = .error e → e.isInvalid = true →
          ∀ q ∈ run.questions, q.action.isDescribing = true := by
  have hhalf : HalfApplies shopSubnet.id webSubnet shopSubnet := by
    refine ⟨by decide, shopSubnet, "shop", "rtb-9", ?_, ?_, ?_, ?_, ?_⟩
    · decide +kernel
    · decide +kernel
    · decide +kernel
    · decide +kernel
    · decide +kernel
  refine ⟨by decide, hhalf, fun huntouched => ?_⟩
  exact (untouched_iff_not_halfApplies (by decide) shopSubnet.id "subnet-1" webSubnet shopSubnet).mp
    huntouched hhalf

end Provider

end CloudProvider
