import CloudProvider.Catalog.Kind
import CloudProvider.Lifecycle.Mysql
import CloudProvider.Lifecycle.Network
import CloudProvider.Proofs.Answer

/-!
# What a read finds

The answers to a read of an identifier show which entities match it. There may be none, and several
are too many.

* `Finding`, `Finding.settle`: the entities that match, and what is made of them.
* **`Finds`**: what the answers to a read show, for every kind.
* `LifecycleKind.IsAddress`: the identifiers by which the entities of a kind are addressed.
-/

namespace CloudProvider

open Listing Api

/-! ## Findings -/

/-- What the answers to a read show. -/
structure Finding where
  /-- What is looked up, and the key that should match one of them. -/
  entity : String
  key : String
  /-- The entities that match. Each one has the attributes in question, or lacks them. -/
  candidates : List (Option Attributes)

namespace Finding

/-- **What is made of a finding**: the only candidate; several are an error. -/
def settle (f : Finding) : Except Error (Option Attributes) :=
  (Lookup.choice f.entity f.key f.candidates).map Option.join

theorem settle_map {α : Type} {g : Option α → Option Attributes} (hg : g none = none)
    (entity key : String) (items : List α) :
    settle ⟨entity, key, items.map fun a => g (some a)⟩ =
      (Lookup.choice entity key items).map g := by
  match items with
  | [] => exact congrArg Except.ok hg.symm
  | [a] => rfl
  | a :: b :: rest => simp [settle, Lookup.choice, Except.map]

theorem ifNotFound_choice {α : Type} {g : Option α → Option Attributes} (hg : g none = none)
    (service : Service) (entity key : String) (items : List α) :
    ifNotFound service none ((Lookup.choice entity key items).map g) =
      settle ⟨entity, key, items.map fun a => g (some a)⟩ := by
  rw [settle_map hg]
  match items with
  | [] => rfl
  | [a] => rfl
  | a :: b :: rest => rfl

theorem settle_of_two_le {f : Finding} (h : 2 ≤ f.candidates.length) :
    f.settle = .error ⟨.ambiguous f.entity f.key f.candidates.length, none⟩ := by
  obtain ⟨entity, key, candidates⟩ := f
  match candidates with
  | [] => simp at h
  | [a] => simp at h
  | a :: b :: rest => rfl

theorem settle_eq_error {f : Finding} {e : Error} (h : f.settle = .error e) :
    e = ⟨.ambiguous f.entity f.key f.candidates.length, none⟩ := by
  obtain ⟨entity, key, candidates⟩ := f
  match candidates with
  | [] => cases h
  | [a] => cases h
  | a :: b :: rest => exact (Except.error.inj h).symm

theorem settle_eq_some {f : Finding} {a : Attributes} :
    f.settle = .ok (some a) ↔ f.candidates = [some a] := by
  obtain ⟨entity, key, candidates⟩ := f
  match candidates with
  | [] => simp [settle, Lookup.choice, Except.map]
  | [none] => simp [settle, Lookup.choice, Except.map]
  | [some b] => simp [settle, Lookup.choice, Except.map]
  | b :: c :: rest => simp [settle, Lookup.choice, Except.map]

theorem settle_eq_none {f : Finding} :
    f.settle = .ok none ↔ f.candidates = [] ∨ f.candidates = [none] := by
  obtain ⟨entity, key, candidates⟩ := f
  match candidates with
  | [] => simp [settle, Lookup.choice, Except.map]
  | [none] => simp [settle, Lookup.choice, Except.map]
  | [some a] => simp [settle, Lookup.choice, Except.map]
  | a :: b :: rest => simp [settle, Lookup.choice, Except.map]

end Finding

/-! ## Identifiers -/

/-- The service that manages the entities of a kind. -/
def LifecycleKind.service : LifecycleKind → Service
  | .vpc | .subnet | .routeTable | .routeEntry => .vpc
  | .account | .privilege | .backupPolicy => .cdb

/-- Whether an identifier is of the shape by which the entities of a kind are addressed. -/
def LifecycleKind.IsAddress : LifecycleKind → String → Prop
  | .routeEntry, s => ∃ entry table n, Text.pieces '.' s = [entry, table] ∧ table ≠ "" ∧
      Text.decimal? entry.toList = some n ∧ n < UInt64.size
  | .account, s => ∃ mysqlId name, Text.pieces '#' s = [mysqlId, name] ∧ mysqlId ≠ "" ∧ name ≠ ""
  | .privilege, s => ∃ mysqlId name database, Text.pieces '#' s = [mysqlId, name, database] ∧
      mysqlId ≠ "" ∧ name ≠ "" ∧ database ≠ ""
  | .vpc, _ | .subnet, _ | .routeTable, _ | .backupPolicy, _ => True

theorem RouteEntryId.ofText_eq_ok {s : String} {id : RouteEntryId} (h : ofText s = .ok id) :
    LifecycleKind.routeEntry.IsAddress s := by
  have hp : parse s = .ok id := by
    cases hs : parse s with
    | error fault => simp [ofText, hs, Except.mapError] at h
    | ok id' =>
      rw [ofText, hs] at h
      exact congrArg Except.ok (Except.ok.inj h)
  unfold parse at hp
  split at hp
  · next entry table hpieces =>
    split_ifs at hp with ht
    split at hp
    · next n hn =>
      obtain ⟨hn, hlt⟩ := Option.filter_eq_some_iff.mp hn
      exact ⟨entry, table, n, hpieces, ht, hn, by simpa using hlt⟩
    · cases hp
  · cases hp

theorem RouteEntryId.ofText_eq_error {s : String} {e : Error} (h : ofText s = .error e) :
    ¬ LifecycleKind.routeEntry.IsAddress s ∧ ∃ m, e = .invalid m := by
  have hp : ∃ fault, parse s = .error fault ∧ e = .invalid (fault.message s) := by
    cases hs : parse s with
    | error fault =>
      rw [ofText, hs] at h
      exact ⟨fault, rfl, (Except.error.inj h).symm⟩
    | ok id => simp [ofText, hs, Except.mapError] at h
  obtain ⟨fault, hp, rfl⟩ := hp
  refine ⟨?_, _, rfl⟩
  rintro ⟨entry, table, n, hpieces, ht, hn, hlt⟩
  have hf : (Text.decimal? entry.toList).filter (· < UInt64.size) = some n := by
    rw [hn, Option.filter_some, if_pos (decide_eq_true hlt)]
  simp only [parse, hpieces, if_neg ht, hf] at hp
  cases hp

theorem CompositeId.parts?_eq_some {count : Nat} {s : String} {parts : List String} :
    parts? count s = some parts ↔
      Text.pieces '#' s = parts ∧ parts.length = count ∧ "" ∉ parts := by
  simp only [parts?, Option.ite_none_right_eq_some, Option.some.injEq]
  constructor
  · rintro ⟨h, rfl⟩
    exact ⟨rfl, h⟩
  · rintro ⟨rfl, h⟩
    exact ⟨h, rfl⟩

theorem CompositeId.two_eq_ok {s shape a b : String} (h : two s shape = .ok (a, b)) :
    LifecycleKind.account.IsAddress s := by
  unfold two at h
  split at h
  · next a' b' hp =>
    obtain ⟨hp, -, hne⟩ := parts?_eq_some.mp hp
    exact ⟨a', b', hp, by rintro rfl; simp at hne, by rintro rfl; simp at hne⟩
  · cases h

theorem CompositeId.two_eq_error {s shape : String} {e : Error} (h : two s shape = .error e) :
    ¬ LifecycleKind.account.IsAddress s ∧ ∃ m, e = .invalid m := by
  unfold two at h
  split at h
  · cases h
  · next hp =>
    refine ⟨?_, _, (Except.error.inj h).symm⟩
    rintro ⟨a, b, hab, ha, hb⟩
    exact hp a b (parts?_eq_some.mpr ⟨hab, rfl, by simp [ha.symm, hb.symm]⟩)

theorem CompositeId.three_eq_ok {s shape a b c : String} (h : three s shape = .ok (a, b, c)) :
    LifecycleKind.privilege.IsAddress s := by
  unfold three at h
  split at h
  · next a' b' c' hp =>
    obtain ⟨hp, -, hne⟩ := parts?_eq_some.mp hp
    exact ⟨a', b', c', hp, by rintro rfl; simp at hne, by rintro rfl; simp at hne,
      by rintro rfl; simp at hne⟩
  · cases h

theorem CompositeId.three_eq_error {s shape : String} {e : Error} (h : three s shape = .error e) :
    ¬ LifecycleKind.privilege.IsAddress s ∧ ∃ m, e = .invalid m := by
  unfold three at h
  split at h
  · cases h
  · next hp =>
    refine ⟨?_, _, (Except.error.inj h).symm⟩
    rintro ⟨a, b, c, habc, ha, hb, hc⟩
    exact hp a b c (parts?_eq_some.mpr ⟨habc, rfl, by simp [ha.symm, hb.symm, hc.symm]⟩)

/-! ## What is found -/

/-- The privileges that some grants give on a database: those of the first grant for it, unless it
gives none. -/
def Mysql.held? (grants : List Mysql.Grant) (database : String) : Option (List String) :=
  ((grants.find? fun g => g.database = database).map fun g => g.privileges).filter
    fun privileges => !privileges.isEmpty

theorem Mysql.held?_eq (grants : List Mysql.Grant) (database : String) :
    held? grants database =
      if (((grants.find? fun g => g.database = database).map fun g => g.privileges).getD []).isEmpty
      then none
      else
        some (((grants.find? fun g => g.database = database).map fun g => g.privileges).getD [])
    := by
  rw [held?]
  cases grants.find? fun g => g.database = database with
  | none => rfl
  | some g =>
    obtain ⟨database, privileges⟩ := g
    cases privileges <;> rfl

/-- **What the answers to a read show** of the entity of a kind with an identifier, once all pages
of a listing are there. -/
inductive Finds (pageSize : UInt64) :
    LifecycleKind → String → List (Call × Reply) → Finding → Prop
  | vpc {id : String} {ex : List (Call × Reply)} {vpcs : List Network.Vpc}
      (h : Paged pageSize none
        (fun c => ⟨.describeVpcs, Network.listRequest "VpcIds" (some id) [("vpc-name", none)] c⟩)
        (answer .describeVpcs) 0 ex (.ok vpcs)) :
      Finds pageSize .vpc id ex ⟨"vpc", id, vpcs.map fun v => some v.attributes⟩
  | subnet {id : String} {ex : List (Call × Reply)} {subnets : List Network.Subnet}
      (h : Paged pageSize none
        (fun c => ⟨.describeSubnets, Network.listRequest "SubnetIds" (some id)
          [("vpc-id", none), ("subnet-name", none), ("zone", none)] c⟩)
        (answer .describeSubnets) 0 ex (.ok subnets)) :
      Finds pageSize .subnet id ex ⟨"subnet", id, subnets.map fun s => some s.attributes⟩
  | routeTable {id : String} {ex : List (Call × Reply)} {tables : List Network.RouteTable}
      (h : Paged pageSize none
        (fun c => ⟨.describeRouteTables, Network.listRequest "RouteTableIds" (some id)
          [("vpc-id", none), ("route-table-name", none)] c⟩)
        (answer .describeRouteTables) 0 ex (.ok tables)) :
      Finds pageSize .routeTable id ex
        ⟨"route table", id, tables.map fun t => some t.attributes⟩
  /-- A table that matches need not have an entry with the number. -/
  | routeEntry {s : String} {id : RouteEntryId} {ex : List (Call × Reply)}
      {tables : List Network.RouteTable} (hid : RouteEntryId.ofText s = .ok id)
      (h : Paged pageSize none
        (fun c => ⟨.describeRouteTables, Network.listRequest "RouteTableIds" (some id.routeTable)
          [("vpc-id", none), ("route-table-name", none)] c⟩)
        (answer .describeRouteTables) 0 ex (.ok tables)) :
      Finds pageSize .routeEntry s ex
        ⟨"route table", id.routeTable, tables.map fun t =>
          (t.entry? id.entry).map (Network.Route.attributes id.routeTable t.vpcId)⟩
  | account {s mysqlId name : String} {ex : List (Call × Reply)} {accounts : List Mysql.Account}
      (hid : CompositeId.two s Mysql.Account.idShape = .ok (mysqlId, name))
      (h : Paged pageSize none (fun c => ⟨.describeAccounts, Mysql.pageRequest mysqlId c⟩)
        (answer .describeAccounts) 0 ex (.ok accounts)) :
      Finds pageSize .account s ex
        ⟨"mysql account", Mysql.Account.idText mysqlId name,
          (accounts.filter (Mysql.Account.isOf name)).map fun a =>
            some (Mysql.Account.attributes mysqlId a)⟩
  /-- Privileges are only asked for when there is exactly one account that may hold them. -/
  | noHolder {s mysqlId name database : String} {ex : List (Call × Reply)}
      {accounts : List Mysql.Account}
      (hid : CompositeId.three s Mysql.Grant.idShape = .ok (mysqlId, name, database))
      (h : Paged pageSize none (fun c => ⟨.describeAccounts, Mysql.pageRequest mysqlId c⟩)
        (answer .describeAccounts) 0 ex (.ok accounts))
      (hone : (accounts.filter (Mysql.Account.isOf name)).length ≠ 1) :
      Finds pageSize .privilege s ex
        ⟨"mysql account", Mysql.Account.idText mysqlId name,
          (accounts.filter (Mysql.Account.isOf name)).map fun _ => none⟩
  | privilege {s mysqlId name database : String} {ex : List (Call × Reply)}
      {accounts : List Mysql.Account} {account : Mysql.Account} {reply : Reply}
      {grants : List Mysql.Grant}
      (hid : CompositeId.three s Mysql.Grant.idShape = .ok (mysqlId, name, database))
      (h : Paged pageSize none (fun c => ⟨.describeAccounts, Mysql.pageRequest mysqlId c⟩)
        (answer .describeAccounts) 0 ex (.ok accounts))
      (hone : accounts.filter (Mysql.Account.isOf name) = [account])
      (hgrants : answer .describeAccountPrivileges reply = .ok grants) :
      Finds pageSize .privilege s
        (ex ++ [(⟨.describeAccountPrivileges, Json.object [("InstanceId", .str mysqlId),
          ("User", .str name), ("Host", .str Mysql.anyHost)]⟩, reply)])
        ⟨"mysql account", Mysql.Account.idText mysqlId name,
          [(Mysql.held? grants database).map fun ps =>
            Mysql.Grant.attributes mysqlId name ⟨database, ps⟩]⟩
  | backupPolicy {mysqlId : String} {reply : Reply} {policy : Mysql.BackupPolicy}
      (h : answer .describeBackupConfig reply = .ok policy) :
      Finds pageSize .backupPolicy mysqlId
        [(⟨.describeBackupConfig, Json.object [("InstanceId", .str mysqlId)]⟩, reply)]
        ⟨"backup policy", mysqlId, [some (Mysql.BackupPolicy.attributes mysqlId policy)]⟩

end CloudProvider
