import CloudProvider.Proofs.Changes
import CloudProvider.Proofs.Desired

/-!
# Updates that carry what differs

Each attribute that an update is to change is carried by a change, and a change that is only made
when needed carries one of them.

* `Call.Carries`: whether a change carries a value for an attribute.
* `LifecycleKind.Faithful`: whether some changes bring about what is to change.
* `LifecycleKind.Faithful.of_caused`: changes that are only made when needed.
* **`Provider.update_faithful`**: updates that go well lose nothing and send nothing in vain.
-/

namespace CloudProvider

open Operation Api

/-! ## What changes carry -/

/-- How a value is written in a request; a flag is written as a text. -/
inductive Value.IsSentAs : Value → Json → Prop
  | text (s : String) : IsSentAs (.text s) (.str s)
  | int (n : Int64) : IsSentAs (.int n) (.int n.toInt)
  | bool (b : Bool) : IsSentAs (.bool b) (.str (if b then "true" else "false"))
  | texts (items : List String) : IsSentAs (.texts items) (.strs items)

/-- The only item of a list of one, and any other value itself. -/
def Json.onlyItem : Json → Json
  | .arr [j] => j
  | j => j

/-- The value at the end of a path of names, past lists of one item. -/
def Json.at? : List String → Json → Option Json
  | [], j => some j
  | name :: path, j => (j.onlyItem.member? name).bind (at? path)

/-- **The attributes that a change carries**, each with the path to its value in the request. -/
def Action.carried : Action → List (String × List String)
  | .modifyVpcAttribute => [("name", ["VpcName"]), ("is_multicast", ["EnableMulticast"]),
      ("dns_servers", ["DnsServers"])]
  | .modifySubnetAttribute => [("name", ["SubnetName"]), ("is_multicast", ["EnableBroadcast"])]
  | .replaceRouteTableAssociation => [("route_table_id", ["RouteTableId"])]
  | .modifyRouteTableAttribute => [("name", ["RouteTableName"])]
  | .modifyAccountPassword => [("password", ["NewPassword"])]
  | .modifyAccountDescription => [("description", ["Description"])]
  | .modifyAccountPrivileges => [("privileges", ["DatabasePrivileges", "Privileges"])]
  | .modifyBackupConfig => [("retention_period", ["ExpireDays"]),
      ("backup_model", ["BackupMethod"]), ("backup_time", ["StartTime"])]
  | _ => []

/-- **Whether a change carries a value for an attribute.** -/
def Call.Carries (c : Call) (key : String) (v : Value) : Prop :=
  ∃ path j, (key, path) ∈ c.action.carried ∧ c.request.at? path = some j ∧ v.IsSentAs j

theorem Call.Carries.mem_carried {c : Call} {key : String} {v : Value} (h : c.Carries key v) :
    key ∈ c.action.carried.map Prod.fst := by
  obtain ⟨path, -, hpath, -⟩ := h
  exact List.mem_map_of_mem (f := Prod.fst) hpath

theorem Call.carries_of_member? {c : Call} {key name : String} {v : Value} {j : Json}
    (hpath : (key, [name]) ∈ c.action.carried) (hj : c.request.member? name = some j)
    (hv : v.IsSentAs j) : c.Carries key v := by
  refine ⟨[name], j, hpath, ?_, hv⟩
  obtain ⟨action, request⟩ := c
  cases request with
  | obj members => simpa [Json.at?, Json.onlyItem] using hj
  | null | bool _ | int _ | float _ | str _ | arr _ => cases hj

/-! ## The changes of updates -/

/-- The changes that updates only make when they are needed. -/
def Action.onDemand : List Action :=
  [.modifySubnetAttribute, .replaceRouteTableAssociation, .modifyAccountPassword,
   .modifyAccountDescription]

namespace LifecycleKind

/-- Those of them that updates of a kind make. -/
def onDemand : LifecycleKind → List Action
  | .subnet => [.modifySubnetAttribute, .replaceRouteTableAssociation]
  | .account => [.modifyAccountPassword, .modifyAccountDescription]
  | _ => []

/-- **Whether some changes bring about what is to change.** -/
structure Faithful (kind : LifecycleKind) (current : State) (desired : Attributes)
    (calls : List Call) : Prop where
  /-- No update is lost: what is to change is carried. -/
  carried {key : String} (h : kind.Changed current desired key) :
    ∃ c ∈ calls, ∃ v, desired.get? key = some v ∧ c.Carries key v
  /-- None is sent without a cause: a change that is only made when needed is made just when an
  attribute that it carries is to change. -/
  needed {a : Action} (h : a ∈ Action.onDemand) :
    (∃ c ∈ calls, c.action = a) ↔
      a ∈ kind.onDemand ∧ ∃ key ∈ a.carried.map Prod.fst, kind.Changed current desired key
  /-- A kind with such changes makes none when nothing is to change. -/
  idle (hkind : kind.onDemand ≠ []) (h : ∀ key, ¬ kind.Changed current desired key) :
    calls = []

theorem onDemand_unique (kind : LifecycleKind) : ∀ a ∈ kind.onDemand,
    ∀ b ∈ kind.onDemand, ∀ key ∈ a.carried.map Prod.fst,
      key ∈ b.carried.map Prod.fst → a = b := by
  cases kind <;> decide +kernel

namespace Faithful

variable {kind : LifecycleKind} {current : State} {desired : Attributes} {calls : List Call}

/-- **Changes that are made when needed** have a cause each. -/
theorem of_caused (hcaused : ∀ c ∈ calls, c.action ∈ kind.onDemand ∧
      ∃ key ∈ c.action.carried.map Prod.fst, kind.Changed current desired key)
    (hcarried : ∀ key, kind.Changed current desired key →
      ∃ c ∈ calls, ∃ v, desired.get? key = some v ∧ c.Carries key v) :
    kind.Faithful current desired calls where
  carried h := hcarried _ h
  needed _ := by
    constructor
    · rintro ⟨c, hc, rfl⟩
      exact hcaused c hc
    · rintro ⟨ha, key, hkey, hchanged⟩
      obtain ⟨c, hc, v, -, hcarries⟩ := hcarried key hchanged
      exact ⟨c, hc, kind.onDemand_unique _ (hcaused c hc).1 _ ha key hcarries.mem_carried hkey⟩
  idle _ h := by
    refine List.eq_nil_iff_forall_not_mem.mpr fun c hc => ?_
    obtain ⟨-, key, -, hchanged⟩ := hcaused c hc
    exact h key hchanged

theorem of_single {c : Call} (hkind : kind.onDemand = []) (hc : c.action ∉ Action.onDemand)
    (hcarried : ∀ key, kind.Changed current desired key →
      ∃ v, desired.get? key = some v ∧ c.Carries key v) :
    kind.Faithful current desired [c] where
  carried h := ⟨c, List.mem_singleton.mpr rfl, hcarried _ h⟩
  needed h := by
    rw [hkind]
    refine iff_of_false ?_ fun h => absurd h.1 List.not_mem_nil
    rintro ⟨c', hc', rfl⟩
    exact hc (List.mem_singleton.mp hc' ▸ h)
  idle h := absurd hkind h

end Faithful

end LifecycleKind

/-! ## Faithful updates by kind -/

namespace Network

open Call

theorem carries_vpcChange (id name : String) (isMulticast : Bool) (servers : List String) :
    (vpcChange id name isMulticast servers).Carries "name" (.text name) ∧
      (vpcChange id name isMulticast servers).Carries "is_multicast" (.bool isMulticast) ∧
      (servers ≠ [] →
        (vpcChange id name isMulticast servers).Carries "dns_servers" (.texts servers)) := by
  refine ⟨carries_of_member? (List.mem_cons_self) ?_ (.text name),
    carries_of_member? (List.mem_cons_of_mem _ List.mem_cons_self) ?_ (.bool isMulticast),
    fun h => carries_of_member? (List.mem_cons_of_mem _ (List.mem_cons_of_mem _ List.mem_cons_self))
      ?_ (.texts servers)⟩
  · cases servers <;> simp [vpcChange, Json.object, Json.member?, Fields.ofList, unlessEmpty]
  · cases servers <;> simp [vpcChange, Json.object, Json.member?, Fields.ofList, unlessEmpty, flag]
  · simp [vpcChange, Json.object, Json.member?, Fields.ofList, unlessEmpty, h, Json.strs]

theorem carries_subnetChange (id name : String) (isMulticast : Bool) :
    (subnetChange id name isMulticast).Carries "name" (.text name) ∧
      (subnetChange id name isMulticast).Carries "is_multicast" (.bool isMulticast) := by
  refine ⟨carries_of_member? List.mem_cons_self ?_ (.text name),
    carries_of_member? (List.mem_cons_of_mem _ List.mem_cons_self) ?_ (.bool isMulticast)⟩
  · simp [subnetChange, Json.object, Json.member?, Fields.ofList]
  · simp [subnetChange, Json.object, Json.member?, Fields.ofList, flag]

theorem carries_associationChange (subnetId table : String) :
    (associationChange subnetId table).Carries "route_table_id" (.text table) := by
  refine carries_of_member? List.mem_cons_self ?_ (.text table)
  simp [associationChange, Json.object, Json.member?, Fields.ofList]

theorem carries_routeTableChange (id name : String) :
    (routeTableChange id name).Carries "name" (.text name) := by
  refine carries_of_member? List.mem_cons_self ?_ (.text name)
  simp [routeTableChange, Json.object, Json.member?, Fields.ofList]

end Network

namespace Mysql

open Call

theorem carries_passwordChange (mysqlId name password : String) :
    (passwordChange mysqlId name password).Carries "password" (.text password) := by
  refine carries_of_member? List.mem_cons_self ?_ (.text password)
  simp [passwordChange, Json.object, Json.member?, Fields.ofList]

theorem carries_descriptionChange (mysqlId name description : String) :
    (descriptionChange mysqlId name description).Carries "description" (.text description) := by
  refine carries_of_member? List.mem_cons_self ?_ (.text description)
  simp [descriptionChange, Json.object, Json.member?, Fields.ofList]

theorem carries_grantChange (mysqlId name database : String) (privileges : List String) :
    (grantChange mysqlId name ⟨database, privileges⟩).Carries "privileges" (.texts privileges) := by
  refine ⟨["DatabasePrivileges", "Privileges"], _, List.mem_cons_self, ?_, .texts privileges⟩
  simp [grantChange, Grant.json, Json.at?, Json.onlyItem, Json.object, Json.member?, Fields.ofList]

theorem carries_backupPolicyChange (mysqlId : String) (days : Int64) (method window : String) :
    (backupPolicyChange mysqlId days method window).Carries "retention_period" (.int days) ∧
      (backupPolicyChange mysqlId days method window).Carries "backup_model" (.text method) ∧
      (backupPolicyChange mysqlId days method window).Carries "backup_time" (.text window) := by
  refine ⟨carries_of_member? List.mem_cons_self ?_ (.int days),
    carries_of_member? (List.mem_cons_of_mem _ List.mem_cons_self) ?_ (.text method),
    carries_of_member? (List.mem_cons_of_mem _ (List.mem_cons_of_mem _ List.mem_cons_self)) ?_
      (.text window)⟩
  · simp [backupPolicyChange, Json.object, Json.member?, Fields.ofList]
  · simp [backupPolicyChange, Json.object, Json.member?, Fields.ofList]
  · simp [backupPolicyChange, Json.object, Json.member?, Fields.ofList]

end Mysql

theorem Value.bind_text? {o : Option Value} {s : String} :
    o.bind text? = some s ↔ o = some (.text s) := by
  cases o with
  | none => simp
  | some v => cases v <;> simp [text?]

theorem Value.bind_bool? {o : Option Value} {b : Bool} :
    o.bind bool? = some b ↔ o = some (.bool b) := by
  cases o with
  | none => simp
  | some v => cases v <;> simp [bool?]

namespace Lifecycle

variable {settings : Settings} {pageSize : UInt64} {s : String} {current : State}
  {desired r : Resource}

theorem faithful_updateVpc (hr : Provider.prepare LifecycleKind.vpc.schema desired = .ok r) :
    ∃ calls, Makes (updateVpc s current r) calls ∧
      LifecycleKind.vpc.Faithful current r.attributes calls := by
  have hm : ("name", Catalog.nameType) ∈ LifecycleKind.vpc.mutable := List.mem_cons_self
  obtain ⟨name, hname, htext⟩ := exists_text hr hm (by decide) (by decide)
  have hm : ("is_multicast", AttributeType.bool) ∈ LifecycleKind.vpc.mutable :=
    List.mem_cons_of_mem _ List.mem_cons_self
  obtain ⟨isMulticast, hflag, hboolOr⟩ := exists_bool hr hm (by decide)
  refine ⟨_, makes_updateVpc (Resource.required_of_text? htext), ?_⟩
  rw [hboolOr]
  obtain ⟨hcname, hcflag, hcservers⟩ :=
    Network.carries_vpcChange s name isMulticast (dnsServers current r)
  have hdemand : Action.modifyVpcAttribute ∉ Action.onDemand := by decide
  refine .of_single rfl hdemand fun key h => ?_
  obtain ⟨type, v, hm, hv, -, -⟩ := (changed_iff hr).mp h
  have hcheck := conforms_of_mutable hr hm hv
  simp only [LifecycleKind.mutable, List.mem_cons, Prod.mk.injEq, List.not_mem_nil,
    or_false] at hm
  obtain ⟨rfl, rfl⟩ | ⟨rfl, rfl⟩ | ⟨rfl, rfl⟩ := hm
  · exact ⟨_, hname, hcname⟩
  · exact ⟨_, hflag, hcflag⟩
  · obtain ⟨items, rfl, hlength, -⟩ := AttributeType.check_listBetween_text.mp hcheck
    have hservers : dnsServers current r = items := by
      rw [dnsServers, Resource.texts?_of_get? hv, Option.some_or, Option.getD_some]
    rw [hservers] at hcservers ⊢
    refine ⟨_, hv, hcservers ?_⟩
    rintro rfl
    exact absurd hlength (by decide)

theorem subnetDiffers_iff {name : String} {isMulticast : Bool} :
    subnetDiffers current name isMulticast = true ↔
      current.get? "name" ≠ some (.text name) ∨
        current.get? "is_multicast" ≠ some (.bool isMulticast) := by
  simp [subnetDiffers, Value.bind_text?, Value.bind_bool?]

theorem newTable?_eq_some {table : String} :
    newTable? current r = some table ↔
      r.attributes.get? "route_table_id" = some (.text table) ∧ table ≠ "" ∧
        current.get? "route_table_id" ≠ some (.text table) := by
  simp only [newTable?, Resource.text?, Option.filter_eq_some_iff, Value.bind_text?, ne_eq,
    decide_not, Bool.not_eq_eq_eq_not, Bool.not_true, decide_eq_false_iff_not, and_assoc]

theorem faithful_updateSubnet
    (hr : Provider.prepare LifecycleKind.subnet.schema desired = .ok r) :
    ∃ calls, Makes (updateSubnet pageSize s current r) calls ∧
      LifecycleKind.subnet.Faithful current r.attributes calls := by
  have hm : ("name", Catalog.nameType) ∈ LifecycleKind.subnet.mutable := List.mem_cons_self
  obtain ⟨name, hname, htext⟩ := exists_text hr hm (by decide) (by decide)
  have hnamed : LifecycleKind.subnet.Changed current r.attributes "name" ↔
      current.get? "name" ≠ some (.text name) :=
    (changed_iff_of_get? hr hm hname).trans (and_iff_right fun h => absurd h (by decide))
  have hm : ("is_multicast", AttributeType.bool) ∈ LifecycleKind.subnet.mutable :=
    List.mem_cons_of_mem _ List.mem_cons_self
  obtain ⟨isMulticast, hflag, hboolOr⟩ := exists_bool hr hm (by decide)
  have hflagged : LifecycleKind.subnet.Changed current r.attributes "is_multicast" ↔
      current.get? "is_multicast" ≠ some (.bool isMulticast) :=
    (changed_iff_of_get? hr hm hflag).trans (and_iff_right fun h => absurd h (by decide))
  have hdiffers : subnetDiffers current name isMulticast = true ↔
      LifecycleKind.subnet.Changed current r.attributes "name" ∨
        LifecycleKind.subnet.Changed current r.attributes "is_multicast" := by
    rw [subnetDiffers_iff, hnamed, hflagged]
  have hm : ("route_table_id", AttributeType.text) ∈ LifecycleKind.subnet.mutable :=
    List.mem_cons_of_mem _ (List.mem_cons_of_mem _ List.mem_cons_self)
  have htable : ∀ table, newTable? current r = some table ↔
      r.attributes.get? "route_table_id" = some (.text table) ∧
        LifecycleKind.subnet.Changed current r.attributes "route_table_id" := by
    intro table
    refine newTable?_eq_some.trans (and_congr_right fun hv => ?_)
    rw [changed_iff_of_get? hr hm hv]
    simp [Value.isEmpty, LifecycleKind.filledIn]
  refine ⟨_, makes_updateSubnet (Resource.required_of_text? htext), ?_⟩
  rw [hboolOr]
  obtain ⟨hcname, hcflag⟩ := Network.carries_subnetChange s name isMulticast
  refine .of_caused ?_ ?_
  · intro c hc
    rcases List.mem_append.mp hc with hc | hc
    · split_ifs at hc with hd
      · rw [List.mem_singleton.mp hc]
        refine ⟨List.mem_cons_self, ?_⟩
        rcases hdiffers.mp hd with h | h
        · exact ⟨_, List.mem_cons_self, h⟩
        · exact ⟨_, List.mem_cons_of_mem _ List.mem_cons_self, h⟩
      · exact absurd hc List.not_mem_nil
    · obtain ⟨table, hnew, rfl⟩ := List.mem_map.mp hc
      exact ⟨List.mem_cons_of_mem _ List.mem_cons_self, _, List.mem_cons_self,
        ((htable table).mp (Option.mem_toList.mp hnew)).2⟩
  · intro key h
    obtain ⟨type, v, hm, hv, -, -⟩ := (changed_iff hr).mp h
    have hcheck := conforms_of_mutable hr hm hv
    simp only [LifecycleKind.mutable, List.mem_cons, Prod.mk.injEq, List.not_mem_nil,
      or_false] at hm
    obtain ⟨rfl, rfl⟩ | ⟨rfl, rfl⟩ | ⟨rfl, rfl⟩ := hm
    · refine ⟨_, List.mem_append_left _ ?_, _, hname, hcname⟩
      rw [if_pos (hdiffers.mpr (.inl h))]
      exact List.mem_singleton.mpr rfl
    · refine ⟨_, List.mem_append_left _ ?_, _, hflag, hcflag⟩
      rw [if_pos (hdiffers.mpr (.inr h))]
      exact List.mem_singleton.mpr rfl
    · obtain ⟨table, rfl⟩ := AttributeType.check_text.mp hcheck
      refine ⟨_, List.mem_append_right _ ?_, _, hv, Network.carries_associationChange s table⟩
      exact List.mem_map.mpr ⟨table, Option.mem_toList.mpr ((htable table).mpr ⟨hv, h⟩), rfl⟩

theorem faithful_updateRouteTable
    (hr : Provider.prepare LifecycleKind.routeTable.schema desired = .ok r) :
    ∃ calls, Makes (updateRouteTable s r) calls ∧
      LifecycleKind.routeTable.Faithful current r.attributes calls := by
  have hm : ("name", Catalog.nameType) ∈ LifecycleKind.routeTable.mutable := List.mem_cons_self
  obtain ⟨name, hname, htext⟩ := exists_text hr hm (by decide) (by decide)
  refine ⟨_, makes_updateRouteTable (Resource.required_of_text? htext), ?_⟩
  have hdemand : Action.modifyRouteTableAttribute ∉ Action.onDemand := by decide
  refine .of_single rfl hdemand fun key h => ?_
  obtain ⟨type, v, hm, -⟩ := (changed_iff hr).mp h
  simp only [LifecycleKind.mutable, List.mem_singleton, Prod.mk.injEq] at hm
  obtain ⟨rfl, rfl⟩ := hm
  exact ⟨_, hname, Network.carries_routeTableChange s name⟩

theorem faithful_updateRouteEntry
    (hr : Provider.prepare LifecycleKind.routeEntry.schema desired = .ok r) :
    LifecycleKind.routeEntry.Faithful current r.attributes [] := by
  refine .of_caused (fun c hc => absurd hc List.not_mem_nil) fun key h => ?_
  obtain ⟨type, v, hm, -⟩ := (changed_iff hr).mp h
  exact absurd hm List.not_mem_nil

theorem faithful_updateAccount
    (hr : Provider.prepare LifecycleKind.account.schema desired = .ok r) {mysqlId user : String}
    (hid : CompositeId.two s Mysql.Account.idShape = .ok (mysqlId, user)) :
    ∃ calls, Makes (updateAccount settings s current r) calls ∧
      LifecycleKind.account.Faithful current r.attributes calls := by
  have hm : ("password", AttributeType.textBetween 8 64) ∈ LifecycleKind.account.mutable :=
    List.mem_cons_self
  obtain ⟨password, hpassword, htext⟩ := exists_text hr hm (by decide) (by decide)
  have hchangedPassword : LifecycleKind.account.Changed current r.attributes "password" ↔
      (current.get? "password").bind Value.text? ≠ some password := by
    rw [changed_iff_of_get? hr hm hpassword, ne_eq, ne_eq, Value.bind_text?]
    exact and_iff_right fun h => absurd h (by decide)
  have hm : ("description", AttributeType.textBetween 1 200) ∈ LifecycleKind.account.mutable :=
    List.mem_cons_of_mem _ List.mem_cons_self
  obtain ⟨description, hdescription, hdescribed⟩ := exists_text hr hm (by decide) (by decide)
  have hchangedDescription : LifecycleKind.account.Changed current r.attributes "description" ↔
      (current.get? "description").bind Value.text? ≠ some description := by
    rw [changed_iff_of_get? hr hm hdescription, ne_eq, ne_eq, Value.bind_text?]
    exact and_iff_right fun h => absurd h (by decide)
  refine ⟨_, makes_updateAccount hid (Resource.required_of_text? htext), ?_⟩
  have haccount : accountDescription r = description := by
    rw [accountDescription, hdescribed, Option.getD_some]
  rw [haccount]
  refine .of_caused ?_ ?_
  · intro c hc
    rcases List.mem_append.mp hc with hc | hc
    · split_ifs at hc with hd
      · rw [List.mem_singleton.mp hc]
        exact ⟨List.mem_cons_self, _, List.mem_cons_self, hchangedPassword.mpr hd⟩
      · exact absurd hc List.not_mem_nil
    · split_ifs at hc with hd
      · rw [List.mem_singleton.mp hc]
        exact ⟨List.mem_cons_of_mem _ List.mem_cons_self, _, List.mem_cons_self,
          hchangedDescription.mpr hd⟩
      · exact absurd hc List.not_mem_nil
  · intro key h
    obtain ⟨type, v, hm, -⟩ := (changed_iff hr).mp h
    simp only [LifecycleKind.mutable, List.mem_cons, Prod.mk.injEq, List.not_mem_nil,
      or_false] at hm
    obtain ⟨rfl, rfl⟩ | ⟨rfl, rfl⟩ := hm
    · refine ⟨_, List.mem_append_left _ ?_, _, hpassword,
        Mysql.carries_passwordChange mysqlId user password⟩
      rw [if_pos (hchangedPassword.mp h)]
      exact List.mem_singleton.mpr rfl
    · refine ⟨_, List.mem_append_right _ ?_, _, hdescription,
        Mysql.carries_descriptionChange mysqlId user description⟩
      rw [if_pos (hchangedDescription.mp h)]
      exact List.mem_singleton.mpr rfl

theorem faithful_updatePrivilege
    (hr : Provider.prepare LifecycleKind.privilege.schema desired = .ok r)
    {mysqlId user database : String}
    (hid : CompositeId.three s Mysql.Grant.idShape = .ok (mysqlId, user, database)) :
    ∃ calls, Makes (updatePrivilege settings s r) calls ∧
      LifecycleKind.privilege.Faithful current r.attributes calls := by
  have hm : ("privileges", AttributeType.format .privileges) ∈ LifecycleKind.privilege.mutable :=
    List.mem_cons_self
  obtain ⟨v, hv, hcheck⟩ := exists_of_mutable hr hm (by decide)
  obtain ⟨items, rfl⟩ := AttributeType.check_privileges hcheck
  refine ⟨_, makes_updatePrivilege hid, ?_⟩
  have hprivileges : privileges r = items := by
    rw [privileges, Resource.texts?_of_get? hv, Option.getD_some]
  have hdemand : Action.modifyAccountPrivileges ∉ Action.onDemand := by decide
  rw [hprivileges]
  refine .of_single rfl hdemand fun key h => ?_
  obtain ⟨type, v, hm, -⟩ := (changed_iff hr).mp h
  simp only [LifecycleKind.mutable, List.mem_singleton, Prod.mk.injEq] at hm
  obtain ⟨rfl, rfl⟩ := hm
  exact ⟨_, hv, Mysql.carries_grantChange mysqlId user database items⟩

theorem faithful_updateBackupPolicy
    (hr : Provider.prepare LifecycleKind.backupPolicy.schema desired = .ok r) :
    ∃ calls, Makes (applyBackupPolicy s r) calls ∧
      LifecycleKind.backupPolicy.Faithful current r.attributes calls := by
  have hm : ("retention_period", AttributeType.intBetween 7 732) ∈
      LifecycleKind.backupPolicy.mutable := List.mem_cons_self
  obtain ⟨days, hdays, hint⟩ := exists_int hr hm (by decide)
  have hm : ("backup_model", AttributeType.oneOf Catalog.backupMethods) ∈
      LifecycleKind.backupPolicy.mutable := List.mem_cons_of_mem _ List.mem_cons_self
  obtain ⟨method, hmethod, hmodel⟩ := exists_variant hr hm (by decide) (by decide)
  have hm : ("backup_time", AttributeType.oneOf Catalog.backupWindows) ∈
      LifecycleKind.backupPolicy.mutable :=
    List.mem_cons_of_mem _ (List.mem_cons_of_mem _ List.mem_cons_self)
  obtain ⟨window, hwindow, htime⟩ := exists_variant hr hm (by decide) (by decide)
  refine ⟨_, makes_applyBackupPolicy, ?_⟩
  rw [hint, hmodel, htime, Option.getD_some, Option.getD_some, Option.getD_some]
  obtain ⟨hcdays, hcmethod, hcwindow⟩ := Mysql.carries_backupPolicyChange s days method window
  have hdemand : Action.modifyBackupConfig ∉ Action.onDemand := by decide
  refine .of_single rfl hdemand fun key h => ?_
  obtain ⟨type, v, hm, -⟩ := (changed_iff hr).mp h
  simp only [LifecycleKind.mutable, List.mem_cons, Prod.mk.injEq, List.not_mem_nil,
    or_false] at hm
  obtain ⟨rfl, rfl⟩ | ⟨rfl, rfl⟩ | ⟨rfl, rfl⟩ := hm
  · exact ⟨_, hdays, hcdays⟩
  · exact ⟨_, hmethod, hcmethod⟩
  · exact ⟨_, hwindow, hcwindow⟩

/-- **Every update brings about what is to change.** -/
theorem faithful_update {kind : LifecycleKind} {ex : List (Call × Reply)}
    (hr : Provider.prepare kind.schema desired = .ok r)
    (h : Yields ((kind.lifecycle settings).update s current r) ex (.ok ())) :
    kind.Faithful current r.attributes (changes ex) := by
  cases kind with
  | vpc =>
    obtain ⟨calls, hmakes, hfaithful⟩ := faithful_updateVpc hr
    exact hmakes ex () h ▸ hfaithful
  | subnet =>
    obtain ⟨calls, hmakes, hfaithful⟩ := faithful_updateSubnet hr
    exact hmakes ex () h ▸ hfaithful
  | routeTable =>
    obtain ⟨calls, hmakes, hfaithful⟩ := faithful_updateRouteTable hr
    exact hmakes ex () h ▸ hfaithful
  | routeEntry =>
    rw [(yields_pure.mp h).1]
    exact faithful_updateRouteEntry hr
  | account =>
    obtain ⟨id, hid, -⟩ := yields_lift_bind_ok.mp h
    obtain ⟨calls, hmakes, hfaithful⟩ := faithful_updateAccount hr hid
    exact hmakes ex () h ▸ hfaithful
  | privilege =>
    obtain ⟨id, hid, -⟩ := yields_lift_bind_ok.mp h
    obtain ⟨calls, hmakes, hfaithful⟩ := faithful_updatePrivilege hr hid
    exact hmakes ex () h ▸ hfaithful
  | backupPolicy =>
    obtain ⟨calls, hmakes, hfaithful⟩ := faithful_updateBackupPolicy hr
    exact hmakes ex () h ▸ hfaithful

end Lifecycle

/-! ## Updates of resources -/

namespace Provider

theorem prepare_of_prepareFor {schema : Schema} {lifecycle : Lifecycle} {desired r : Resource}
    (h : prepareFor schema lifecycle desired = .ok r) : prepare schema desired = .ok r := by
  obtain ⟨prepared, hprepared, h⟩ := except_bind_eq_ok.mp h
  obtain ⟨_, -, h⟩ := except_bind_eq_ok.mp h
  obtain rfl := Except.ok.inj h
  exact hprepared

/-- **An update that goes well loses nothing and sends nothing without a cause**, for all answers:
its changes carry the desired value of every attribute that is to change, and those that are only
made when needed are made just when an attribute that they carry is to change. -/
theorem update_faithful (settings : Settings) (kind : LifecycleKind) (id : ResourceId)
    (hid : id.type = kind.name) (identifier : String) (current : State) (desired : Resource)
    {σ : Type} (remote : Dialogue.Remote σ Call Reply) (start : σ) :
    let run := (update settings id identifier current desired).against remote start
    run.result.isOk = true →
      kind.Faithful current (kind.schema.withDefaults desired.attributes)
        (changes run.exchanges) := by
  intro run hok
  obtain ⟨x, hx, hresult⟩ := yields_onResource.mp (yields_against remote start
    (update settings id identifier current desired))
  have hy := (yields_ok_bind (lifecycleKind_of_type hid)).mp hx
  cases x with
  | error e =>
    have hresult : run.result = .error (e.forResource id) := hresult
    rw [hresult] at hok
    cases hok
  | ok st =>
    obtain ⟨r, hr, hy⟩ := yields_lift_bind_ok.mp hy
    have hprepared := prepare_of_prepareFor hr
    obtain rfl := (prepare_eq_ok.mp hprepared).2
    obtain ⟨_, -, hy⟩ := yields_lift_bind_ok.mp hy
    rcases yields_bind.mp (yields_log_bind.mp hy) with ⟨e, -, h⟩ | ⟨ex₁, _, ex₂, hex, h₁, h₂⟩
    · cases h
    · -- What is read back changes nothing.
      have hback := (looks_readBack settings kind _ identifier).makes _ _ h₂
      have hchanges : changes run.exchanges = changes ex₁ := by
        rw [show run.exchanges = ex₁ ++ ex₂ from hex, changes_append, hback, List.append_nil]
      rw [hchanges]
      exact Lifecycle.faithful_update hprepared (yields_logFailure.mp h₁)

/-- A subnet that only gets another name. -/
theorem renamed_subnet_faithful :
    let desired : Resource := ⟨⟨"subnet", "web"⟩, webSubnet.attributes.insert "name" (.text "shop"),
      false⟩
    let run := (update ⟨"ap-guangzhou", 20, ⟨3, 1⟩⟩ desired.id "subnet-1" webSubnet
      desired).against (Dialogue.scripted fun _ => .ok .null)
      [.ok (.obj []), .ok (Json.object [("TotalCount", .int 1),
        ("SubnetSet", .arr [Json.object [("SubnetId", .str "subnet-1")]])])]
    desired.id.type = LifecycleKind.subnet.name ∧ run.result.isOk = true ∧
      LifecycleKind.subnet.Faithful webSubnet
        (LifecycleKind.subnet.schema.withDefaults desired.attributes) (changes run.exchanges) ∧
      (changes run.exchanges).map (fun c => c.action) = [.modifySubnetAttribute] := by
  refine ⟨by decide +kernel, by decide +kernel, ?_, by decide +kernel⟩
  exact update_faithful _ .subnet _ (by decide +kernel) _ _ _ _ _ (by decide +kernel)

end Provider

end CloudProvider
