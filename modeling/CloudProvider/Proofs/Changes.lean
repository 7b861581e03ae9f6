import CloudProvider.Proofs.Awaiting
import CloudProvider.Proofs.Update

/-!
# The changes of an update

An update that goes well has made a list of changes that the desired attributes and the current
state determine, whatever the answers.

* `Api.changes`: the changes among some exchanges.
* `Api.Makes`: whether an operation that goes well makes just some changes.
* `Network.vpcChange`, `Mysql.passwordChange`, …: the changes that updates make.
* **`Lifecycle.makes_updateSubnet`**, `Lifecycle.makes_updateAccount`, …: the updates by kind.
-/

namespace CloudProvider

open Operation Api

namespace Api

variable {α β : Type} {cs ds : List Call}

/-- The changes among some exchanges, in order. -/
def changes (ex : List (Call × Reply)) : List Call :=
  (ex.map Prod.fst).filter fun c => !c.action.isDescribing

theorem changes_append (ex₁ ex₂ : List (Call × Reply)) :
    changes (ex₁ ++ ex₂) = changes ex₁ ++ changes ex₂ := by
  rw [changes, List.map_append, List.filter_append]
  rfl

theorem changes_eq_nil {ex : List (Call × Reply)}
    (h : ∀ x ∈ ex, x.1.action.isDescribing = true) : changes ex = [] := by
  rw [changes, List.filter_eq_nil_iff]
  intro c hc
  obtain ⟨x, hx, rfl⟩ := List.mem_map.mp hc
  simp [h x hx]

theorem changes_cons {c : Call} (hc : c.action.isDescribing = false) (reply : Reply)
    (ex : List (Call × Reply)) : changes ((c, reply) :: ex) = c :: changes ex := by
  rw [changes, List.map_cons, List.filter_cons_of_pos (by simp [hc])]
  rfl

theorem exists_of_mem_changes {ex : List (Call × Reply)} {c : Call} (h : c ∈ changes ex) :
    ∃ x ∈ ex, x.1.action.isDescribing = false := by
  obtain ⟨hc, hchange⟩ := List.mem_filter.mp h
  obtain ⟨x, hx, rfl⟩ := List.mem_map.mp hc
  exact ⟨x, hx, by simpa using hchange⟩

/-- **Whether an operation that goes well makes just some changes**, whatever is answered. -/
def Makes (op : Api α) (cs : List Call) : Prop :=
  ∀ ex a, Yields op ex (.ok a) → changes ex = cs

theorem Looks.makes {op : Api α} (h : Looks op) : Makes op [] :=
  fun ex _ hy => changes_eq_nil (h ex _ hy)

theorem makes_command {action : Action} {request : Json} (h : action.isDescribing = false) :
    Makes (command action request) [⟨action, request⟩] := by
  intro ex _ hy
  obtain ⟨reply, rfl, -⟩ := yields_call.mp hy
  exact changes_cons h reply []

theorem Makes.bind {op : Api α} {f : α → Api β} (h : Makes op cs) (hf : ∀ a, Makes (f a) ds) :
    Makes (op >>= f) (cs ++ ds) := by
  intro ex b hy
  rcases yields_bind.mp hy with ⟨_, -, hb⟩ | ⟨ex₁, a, ex₂, rfl, h₁, h₂⟩
  · cases hb
  · rw [changes_append, h _ _ h₁, hf a _ _ h₂]

theorem makes_lift_bind {c : Except Error α} {f : α → Api β}
    (hf : ∀ a, c = .ok a → Makes (f a) cs) : Makes ((liftM c : Api α) >>= f) cs := by
  intro ex b hy
  obtain ⟨a, hc, hy⟩ := yields_lift_bind_ok.mp hy
  exact hf a hc ex b hy

theorem Looks.bind_makes {op : Api α} {f : α → Api β} (h : Looks op) (hf : ∀ a, Makes (f a) cs) :
    Makes (op >>= f) cs := h.makes.bind hf

theorem Makes.bind_looks {op : Api α} {f : α → Api β} (h : Makes op cs)
    (hf : ∀ a, Looks (f a)) : Makes (op >>= f) cs :=
  List.append_nil cs ▸ h.bind fun a => (hf a).makes

end Api

/-! ## Changes -/

namespace Network

def vpcChange (id name : String) (isMulticast : Bool) (dnsServers : List String) : Call :=
  ⟨.modifyVpcAttribute, Json.object <|
    [("VpcId", .str id), ("VpcName", .str name), ("EnableMulticast", flag isMulticast)]
      ++ unlessEmpty "DnsServers" (dnsServers.map .str)⟩

def subnetChange (id name : String) (isMulticast : Bool) : Call :=
  ⟨.modifySubnetAttribute, Json.object
    [("SubnetId", .str id), ("SubnetName", .str name), ("EnableBroadcast", flag isMulticast)]⟩

/-- The change of the route table that a subnet uses. -/
def associationChange (subnetId routeTableId : String) : Call :=
  ⟨.replaceRouteTableAssociation, Json.object
    [("SubnetId", .str subnetId), ("RouteTableId", .str routeTableId)]⟩

def routeTableChange (id name : String) : Call :=
  ⟨.modifyRouteTableAttribute, Json.object
    [("RouteTableId", .str id), ("RouteTableName", .str name)]⟩

end Network

namespace Mysql

def passwordChange (mysqlId name password : String) : Call :=
  ⟨.modifyAccountPassword, Json.object
    [("InstanceId", .str mysqlId), ("Accounts", accountsOf name), ("NewPassword", .str password)]⟩

def descriptionChange (mysqlId name description : String) : Call :=
  ⟨.modifyAccountDescription, Json.object
    [("InstanceId", .str mysqlId), ("Accounts", accountsOf name),
     ("Description", .str description)]⟩

def grantChange (mysqlId name : String) (g : Grant) : Call :=
  ⟨.modifyAccountPrivileges, Json.object
    [("InstanceId", .str mysqlId), ("Accounts", accountsOf name),
     ("DatabasePrivileges", .arr [g.json])]⟩

def backupPolicyChange (mysqlId : String) (retentionDays : Int64) (method window : String) :
    Call :=
  ⟨.modifyBackupConfig, Json.object
    [("InstanceId", .str mysqlId), ("ExpireDays", .int retentionDays.toInt),
     ("StartTime", .str window), ("BackupMethod", .str method)]⟩

end Mysql

/-! ## Updates by kind -/

namespace Lifecycle

variable {settings : Settings} {pageSize : UInt64} {s : String} {current : State} {r : Resource}

theorem makes_updateVpc {name : String} (hname : r.required "name" = .ok name) :
    Makes (updateVpc s current r) [Network.vpcChange s name (r.boolOr "is_multicast" true)
      (dnsServers current r)] := by
  refine makes_lift_bind fun name' hname' => ?_
  obtain rfl := Except.ok.inj (hname.symm.trans hname')
  exact makes_command rfl

/-- **A subnet is changed where it differs.** -/
theorem makes_updateSubnet {name : String} (hname : r.required "name" = .ok name) :
    Makes (updateSubnet pageSize s current r)
      ((if subnetDiffers current name (r.boolOr "is_multicast" true) then
          [Network.subnetChange s name (r.boolOr "is_multicast" true)]
        else []) ++ (newTable? current r).toList.map (Network.associationChange s)) := by
  refine makes_lift_bind fun name' hname' => ?_
  obtain rfl := Except.ok.inj (hname.symm.trans hname')
  dsimp only
  cases newTable? current r with
  | none =>
    split_ifs
    · exact (makes_command rfl).bind fun _ => Looks.makes asksOnly_pure
    · exact Looks.makes asksOnly_pure
  | some table =>
    have htable : Makes (do
        let vpcId ← (r.required "vpc_id" : Except Error String)
        ensureInVpc pageSize table vpcId
        Network.associateRouteTable s table : Api Unit) [Network.associationChange s table] :=
      makes_lift_bind fun vpcId _ => looks_ensureInVpc.bind_makes fun _ => makes_command rfl
    split_ifs
    · exact (makes_command rfl).bind fun _ => htable
    · exact htable

theorem makes_updateRouteTable {name : String} (hname : r.required "name" = .ok name) :
    Makes (updateRouteTable s r) [Network.routeTableChange s name] := by
  refine makes_lift_bind fun name' hname' => ?_
  obtain rfl := Except.ok.inj (hname.symm.trans hname')
  exact makes_command rfl

theorem makes_finish {action : Action} {request : Json} (h : action.isDescribing = false) :
    Makes (finish settings (Mysql.requested action request)) [⟨action, request⟩] := by
  intro ex a hy
  have hconcluded := yields_finish.mp hy
  generalize hr : (Except.ok a : Except Error Unit) = r at hconcluded
  cases hconcluded with
  | refused _ => cases hr
  | taken _ hp =>
    have hpolls := changes_eq_nil fun x hx => Mysql.isDescribing_of_mem_polls hp hx
    rw [changes_cons h, hpolls]

/-- **An account is changed where it differs.** -/
theorem makes_updateAccount {mysqlId name password : String}
    (hid : CompositeId.two s Mysql.Account.idShape = .ok (mysqlId, name))
    (hpassword : r.required "password" = .ok password) :
    Makes (updateAccount settings s current r)
      ((if (current.get? "password").bind Value.text? ≠ some password then
          [Mysql.passwordChange mysqlId name password]
        else []) ++
        if (current.get? "description").bind Value.text? ≠ some (accountDescription r) then
          [Mysql.descriptionChange mysqlId name (accountDescription r)]
        else []) := by
  refine makes_lift_bind fun id hid' => ?_
  obtain rfl := Except.ok.inj (hid.symm.trans hid')
  refine makes_lift_bind fun password' hpassword' => ?_
  obtain rfl := Except.ok.inj (hpassword.symm.trans hpassword')
  dsimp only
  split_ifs
  · exact (makes_finish rfl).bind fun _ => makes_finish rfl
  · exact (makes_finish rfl).bind fun _ => Looks.makes asksOnly_pure
  · exact makes_finish rfl
  · exact Looks.makes asksOnly_pure

theorem makes_updatePrivilege {mysqlId name database : String}
    (hid : CompositeId.three s Mysql.Grant.idShape = .ok (mysqlId, name, database)) :
    Makes (updatePrivilege settings s r)
      [Mysql.grantChange mysqlId name ⟨database, privileges r⟩] := by
  refine makes_lift_bind fun id hid' => ?_
  obtain rfl := Except.ok.inj (hid.symm.trans hid')
  exact makes_finish rfl

theorem makes_applyBackupPolicy :
    Makes (applyBackupPolicy s r) [Mysql.backupPolicyChange s
      ((r.int? "retention_period").getD Catalog.defaultRetention)
      ((r.text? "backup_model").getD Catalog.defaultBackupMethod)
      ((r.text? "backup_time").getD Catalog.defaultBackupWindow)] :=
  makes_command rfl

end Lifecycle

end CloudProvider
