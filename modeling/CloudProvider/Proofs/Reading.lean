import CloudProvider.Proofs.Finding
import CloudProvider.Proofs.Looking

/-!
# How a read ends

A read fails at the first call that fails, unless the failure says that the entity does not exist.
Otherwise its result is settled by what the answers show.

* `Concludes`, **`Lifecycle.concludes_read`**: the three ways in which the read of a kind ends.
* **`Provider.read_outcome`**: the state that a read gives, for all answers.
-/

namespace CloudProvider

open Listing Api Operation

/-! ## Endings -/

/-- **How a read of a kind ends**, by its exchanges. -/
inductive Concludes (pageSize : UInt64) (kind : LifecycleKind) (s : String) :
    List (Call × Reply) → Except Error (Option Attributes) → Prop
  | noAddress {m : String} (hs : ¬ kind.IsAddress s) :
      Concludes pageSize kind s [] (.error (.invalid m))
  | failed {ex : List (Call × Reply)} {e : Error} (hs : kind.IsAddress s) (h : BreaksOff ex e) :
      Concludes pageSize kind s ex (ifNotFound kind.service none (.error e))
  | found {ex : List (Call × Reply)} {f : Finding} (hs : kind.IsAddress s) (hex : Sound ex)
      (h : Finds pageSize kind s ex f) : Concludes pageSize kind s ex f.settle

variable {pageSize : UInt64} {kind : LifecycleKind} {s : String}

/-- **A look-up in a listing** concludes a read. -/
theorem concludes_lookup {α : Type} {action : Action} {request : Cursor → Json}
    {read : Reply → Except Error (Page α)} {ex : List (Call × Reply)} {x : Except Error (List α)}
    {entity key : String} {g : Option α → Option Attributes} (hs : kind.IsAddress s)
    (h : Paged pageSize none (fun c => ⟨action, request c⟩) read 0 ex x)
    (hread : Reads action read) (hg : g none = none)
    (hfinds : ∀ items, x = .ok items →
      Finds pageSize kind s ex ⟨entity, key, items.map fun a => g (some a)⟩) :
    Concludes pageSize kind s ex
      ((ifNotFound kind.service [] x >>= Lookup.choice entity key).map g) := by
  cases x with
  | error e =>
    have habsent : (ifNotFound kind.service [] (.error e) >>= Lookup.choice entity key).map g =
        ifNotFound kind.service none (.error e) := by
      simp only [ifNotFound]
      split_ifs
      · exact congrArg Except.ok hg
      · rfl
    rw [habsent]
    exact .failed hs (h.breaksOff hread rfl)
  | ok items =>
    have hsettle : (ifNotFound kind.service [] (.ok items) >>= Lookup.choice entity key).map g =
        Finding.settle ⟨entity, key, items.map fun a => g (some a)⟩ :=
      (Finding.settle_map hg entity key items).symm
    rw [hsettle]
    exact .found hs (h.sound hread rfl) (hfinds items rfl)

/-! ## Courses of look-ups -/

theorem yields_lookup {α : Type} {service : Service} {entity key : String} {op : Api (List α)}
    {ex : List (Call × Reply)} {r : Except Error (Option α)} :
    Yields (orIfNotFound service op [] >>= Lookup.unique entity key) ex r ↔
      ∃ x, Yields op ex x ∧ r = ifNotFound service [] x >>= Lookup.choice entity key := by
  rw [yields_bind_silent fun _ _ _ => Lookup.yields_unique]
  constructor
  · rintro ⟨y, hy, rfl⟩
    obtain ⟨x, hx, rfl⟩ := yields_orIfNotFound.mp hy
    exact ⟨x, hx, rfl⟩
  · rintro ⟨x, hx, rfl⟩
    exact ⟨_, yields_orIfNotFound.mpr ⟨x, hx, rfl⟩, rfl⟩

namespace Network

variable {ex : List (Call × Reply)}

theorem yields_findVpc (hp : pageSize ≠ 0) {id : String} {r : Except Error (Option Vpc)} :
    Yields (findVpc pageSize id) ex r ↔
      ∃ x, Paged pageSize none
          (fun c => ⟨.describeVpcs, listRequest "VpcIds" (some id) [("vpc-name", none)] c⟩)
          (answer .describeVpcs) 0 ex x ∧
        r = ifNotFound .vpc [] x >>= Lookup.choice "vpc" id :=
  yields_lookup.trans <| exists_congr fun _ => and_congr_left fun _ =>
    yields_all (fun _ _ _ => yields_call) hp

theorem yields_findSubnet (hp : pageSize ≠ 0) {id : String} {r : Except Error (Option Subnet)} :
    Yields (findSubnet pageSize id) ex r ↔
      ∃ x, Paged pageSize none
          (fun c => ⟨.describeSubnets, listRequest "SubnetIds" (some id)
            [("vpc-id", none), ("subnet-name", none), ("zone", none)] c⟩)
          (answer .describeSubnets) 0 ex x ∧
        r = ifNotFound .vpc [] x >>= Lookup.choice "subnet" id :=
  yields_lookup.trans <| exists_congr fun _ => and_congr_left fun _ =>
    yields_all (fun _ _ _ => yields_call) hp

theorem yields_uniqueRouteTable (hp : pageSize ≠ 0) {id : String} {vpcId : Option String}
    {r : Except Error (Option RouteTable)} :
    Yields (uniqueRouteTable pageSize id vpcId) ex r ↔
      ∃ x, Paged pageSize none
          (fun c => ⟨.describeRouteTables, listRequest "RouteTableIds" (some id)
            [("vpc-id", vpcId), ("route-table-name", none)] c⟩)
          (answer .describeRouteTables) 0 ex x ∧
        r = ifNotFound .vpc [] x >>= Lookup.choice "route table" id :=
  yields_lookup.trans <| exists_congr fun _ => and_congr_left fun _ =>
    yields_all (fun _ _ _ => yields_call) hp

end Network

theorem Mysql.yields_findAccount (hp : pageSize ≠ 0) {mysqlId name : String}
    {ex : List (Call × Reply)} {r : Except Error (Option Account)} :
    Yields (findAccount pageSize mysqlId name) ex r ↔
      ∃ x, Paged pageSize none (fun c => ⟨.describeAccounts, pageRequest mysqlId c⟩)
          (answer .describeAccounts) 0 ex x ∧
        r = x >>= fun accounts => Lookup.choice "mysql account" (Account.idText mysqlId name)
          (accounts.filter (Account.isOf name)) :=
  (yields_bind_silent fun _ _ _ => Lookup.yields_unique).trans <| exists_congr fun _ =>
    and_congr_left fun _ => yields_all (fun _ _ _ => yields_call) hp

/-! ## Reads by kind -/

namespace Lifecycle

variable {settings : Settings} {ex : List (Call × Reply)} {r : Except Error (Option Attributes)}

theorem concludes_readVpc (hp : pageSize ≠ 0) (h : Yields ((vpc pageSize).read s) ex r) :
    Concludes pageSize .vpc s ex r := by
  obtain ⟨y, hy, rfl⟩ := yields_bind_pure.mp h
  obtain ⟨x, hx, rfl⟩ := (Network.yields_findVpc hp).mp hy
  exact concludes_lookup trivial hx (reads_answer _) rfl fun _ hi => .vpc (hi ▸ hx)

theorem concludes_readSubnet (hp : pageSize ≠ 0) (h : Yields ((subnet pageSize).read s) ex r) :
    Concludes pageSize .subnet s ex r := by
  obtain ⟨y, hy, rfl⟩ := yields_bind_pure.mp h
  obtain ⟨x, hx, rfl⟩ := (Network.yields_findSubnet hp).mp hy
  exact concludes_lookup trivial hx (reads_answer _) rfl
    fun _ hi => .subnet (hi ▸ hx)

theorem concludes_readRouteTable (hp : pageSize ≠ 0)
    (h : Yields ((routeTable pageSize).read s) ex r) : Concludes pageSize .routeTable s ex r := by
  obtain ⟨y, hy, rfl⟩ := yields_bind_pure.mp h
  obtain ⟨x, hx, rfl⟩ := (Network.yields_uniqueRouteTable hp).mp hy
  exact concludes_lookup trivial hx (reads_answer _) rfl
    fun _ hi => .routeTable (hi ▸ hx)

/-- The attributes of an entry, from the table that should have it. -/
def entryAttributes? (id : RouteEntryId) (table : Option Network.RouteTable) : Option Attributes :=
  table.bind fun t => (t.entry? id.entry).map (Network.Route.attributes id.routeTable t.vpcId)

theorem yields_readRouteEntry {id : RouteEntryId} (hid : RouteEntryId.ofText s = .ok id) :
    Yields (readRouteEntry pageSize s) ex r ↔
      ∃ x, Yields (Network.findRouteTable pageSize id.routeTable) ex x ∧
        r = x.map (entryAttributes? id) := by
  refine (yields_ok_bind hid).trans
    (yields_bind_silent (g := fun table => .ok (entryAttributes? id table)) ?_)
  intro table ex r
  cases table with
  | none => exact yields_pure
  | some t => exact yields_pure

theorem concludes_readRouteEntry (hp : pageSize ≠ 0)
    (h : Yields ((routeEntry pageSize).read s) ex r) : Concludes pageSize .routeEntry s ex r := by
  cases hid : RouteEntryId.ofText s with
  | error e =>
    obtain ⟨rfl, rfl⟩ := (yields_error_bind hid).mp h
    obtain ⟨hs, m, rfl⟩ := RouteEntryId.ofText_eq_error hid
    exact .noAddress hs
  | ok id =>
    obtain ⟨y, hy, rfl⟩ := (yields_readRouteEntry hid).mp h
    obtain ⟨x, hx, rfl⟩ := (Network.yields_uniqueRouteTable hp).mp hy
    exact concludes_lookup (g := entryAttributes? id) (RouteEntryId.ofText_eq_ok hid) hx
      (reads_answer _) rfl fun _ hi => .routeEntry hid (hi ▸ hx)

theorem concludes_readAccount (hp : settings.pageSize ≠ 0)
    (h : Yields ((account settings).read s) ex r) :
    Concludes settings.pageSize .account s ex r := by
  cases hid : CompositeId.two s Mysql.Account.idShape with
  | error e =>
    obtain ⟨rfl, rfl⟩ := (yields_error_bind hid).mp h
    obtain ⟨hs, m, rfl⟩ := CompositeId.two_eq_error hid
    exact .noAddress hs
  | ok id =>
    obtain ⟨mysqlId, name⟩ := id
    have hs := CompositeId.two_eq_ok hid
    have h := (yields_ok_bind hid).mp h
    obtain ⟨z, hz, rfl⟩ := yields_orIfNotFound.mp h
    obtain ⟨y, hy, rfl⟩ := yields_bind_pure.mp hz
    obtain ⟨x, hx, rfl⟩ := (Mysql.yields_findAccount hp).mp hy
    cases x with
    | error e => exact .failed hs (hx.breaksOff (reads_answer _) rfl)
    | ok accounts =>
      have hfound := Finding.ifNotFound_choice (g := Option.map (Mysql.Account.attributes mysqlId))
        rfl .cdb "mysql account" (Mysql.Account.idText mysqlId name)
        (accounts.filter (Mysql.Account.isOf name))
      exact hfound ▸ .found hs (hx.sound (reads_answer _) rfl) (.account hid hx)

theorem concludes_noHolder {service : Service} {mysqlId name database : String}
    {accounts : List Mysql.Account} {x : Except Error (Option Mysql.Account)}
    (hid : CompositeId.three s Mysql.Grant.idShape = .ok (mysqlId, name, database))
    (hpages : Paged pageSize none (fun c => ⟨.describeAccounts, Mysql.pageRequest mysqlId c⟩)
      (answer .describeAccounts) 0 ex (.ok accounts))
    (hx : x = Lookup.choice "mysql account" (Mysql.Account.idText mysqlId name)
      (accounts.filter (Mysql.Account.isOf name)))
    (hne : ∀ a, x ≠ .ok (some a)) :
    Concludes pageSize .privilege s ex (ifNotFound service none (x.map fun _ => none)) := by
  have hfound := Finding.ifNotFound_choice (g := fun _ => none) rfl service "mysql account"
    (Mysql.Account.idText mysqlId name) (accounts.filter (Mysql.Account.isOf name))
  have hone : (accounts.filter (Mysql.Account.isOf name)).length ≠ 1 := by
    intro h
    obtain ⟨a, ha⟩ := List.length_eq_one_iff.mp h
    exact hne a (hx.trans (Lookup.choice_eq_some.mpr ha))
  rw [hx, hfound]
  exact .found (CompositeId.three_eq_ok hid) (hpages.sound (reads_answer _) rfl)
    (.noHolder hid hpages hone)

theorem concludes_readPrivilege (hp : settings.pageSize ≠ 0)
    (h : Yields ((privilege settings).read s) ex r) :
    Concludes settings.pageSize .privilege s ex r := by
  cases hid : CompositeId.three s Mysql.Grant.idShape with
  | error e =>
    obtain ⟨rfl, rfl⟩ := (yields_error_bind hid).mp h
    obtain ⟨hs, m, rfl⟩ := CompositeId.three_eq_error hid
    exact .noAddress hs
  | ok id =>
    obtain ⟨mysqlId, name, database⟩ := id
    have hs := CompositeId.three_eq_ok hid
    have h := (yields_ok_bind hid).mp h
    obtain ⟨z, hz, rfl⟩ := yields_orIfNotFound.mp h
    obtain ⟨y, hy, rfl⟩ := yields_bind_pure.mp hz
    rcases yields_bind.mp hy with ⟨e, he, rfl⟩ | ⟨ex₁, account, ex₂, rfl, h₁, h₂⟩
    · obtain ⟨x, hx, hxe⟩ := (Mysql.yields_findAccount hp).mp he
      cases x with
      | error e' =>
        cases hxe
        exact .failed hs (hx.breaksOff (reads_answer _) rfl)
      | ok accounts => exact concludes_noHolder hid hx hxe fun _ => nofun
    · obtain ⟨x, hx, hxe⟩ := (Mysql.yields_findAccount hp).mp h₁
      cases x with
      | error e' => cases hxe
      | ok accounts =>
        cases account with
        | none =>
          obtain ⟨rfl, rfl⟩ := yields_pure.mp h₂
          rw [List.append_nil]
          exact concludes_noHolder hid hx hxe fun _ => nofun
        | some account =>
          obtain ⟨w, hw, rfl⟩ := yields_bind_pure.mp h₂
          obtain ⟨v, hv, rfl⟩ := yields_bind_pure.mp hw
          obtain ⟨reply, rfl, hreply⟩ := yields_call.mp hv
          have hreply : v = answer .describeAccountPrivileges reply := hreply
          have hpages := hx.sound (reads_answer _) rfl
          cases hv : answer .describeAccountPrivileges reply with
          | error e =>
            rw [hreply, hv]
            refine .failed hs (hpages.breaksOff (breaksOff_singleton ?_))
            exact (reads_answer _).failure?_eq_some hv
          | ok grants =>
            have hfinds := Finds.privilege hid hx (Lookup.choice_eq_some.mp hxe.symm) hv
            have hfound := Concludes.found hs (sound_append.mpr
              ⟨hpages, sound_cons.mpr ⟨(reads_answer _).failure?_eq_none hv, sound_nil⟩⟩) hfinds
            rw [hreply, hv]
            rw [Mysql.held?_eq grants database] at hfound
            exact hfound

theorem concludes_readBackupPolicy (h : Yields (backupPolicy.read s) ex r) :
    Concludes pageSize .backupPolicy s ex r := by
  obtain ⟨z, hz, rfl⟩ := yields_orIfNotFound.mp h
  obtain ⟨y, hy, rfl⟩ := yields_bind_pure.mp hz
  obtain ⟨reply, rfl, hreply⟩ := yields_call.mp hy
  have hreply : y = answer .describeBackupConfig reply := hreply
  have hs : LifecycleKind.backupPolicy.IsAddress s := trivial
  cases hv : answer .describeBackupConfig reply with
  | error e =>
    rw [hreply, hv]
    exact .failed hs (breaksOff_singleton ((reads_answer _).failure?_eq_some hv))
  | ok policy =>
    rw [hreply, hv]
    exact .found hs (sound_cons.mpr ⟨(reads_answer _).failure?_eq_none hv, sound_nil⟩)
      (.backupPolicy hv)

/-- **Every read ends in one of the three ways.** -/
theorem concludes_read (hp : settings.pageSize ≠ 0) (kind : LifecycleKind)
    (h : Yields ((kind.lifecycle settings).read s) ex r) :
    Concludes settings.pageSize kind s ex r := by
  cases kind with
  | vpc => exact concludes_readVpc hp h
  | subnet => exact concludes_readSubnet hp h
  | routeTable => exact concludes_readRouteTable hp h
  | routeEntry => exact concludes_readRouteEntry hp h
  | account => exact concludes_readAccount hp h
  | privilege => exact concludes_readPrivilege hp h
  | backupPolicy => exact concludes_readBackupPolicy h

end Lifecycle

/-! ## What the endings depend on -/

namespace Concludes

variable {ex : List (Call × Reply)} {r : Except Error (Option Attributes)}

theorem of_not_isAddress (h : Concludes pageSize kind s ex r) (hs : ¬ kind.IsAddress s) :
    ex = [] ∧ ∃ m, r = .error (.invalid m) := by
  cases h with
  | noAddress _ => exact ⟨rfl, _, rfl⟩
  | failed hs' _ | found hs' _ _ => exact absurd hs' hs

theorem of_failure (h : Concludes pageSize kind s ex r) {x : Call × Reply} (hx : x ∈ ex) {e : Error}
    (he : failure? x = some e) : r = ifNotFound kind.service none (.error e) := by
  cases h with
  | noAddress _ => exact absurd hx List.not_mem_nil
  | failed _ hb => rw [hb.eq_of_mem hx he]
  | found _ hex _ => simp [hex x hx] at he

/-- **Why a read gives nothing**: the entity is refused or not matched. -/
theorem of_eq_none (h : Concludes pageSize kind s ex r) (hr : r = .ok none) :
    (∃ q e, (q, .error e) ∈ ex ∧ e.code ∈ kind.service.notFoundCodes) ∨
      Sound ex ∧ ∃ f, Finds pageSize kind s ex f ∧ (f.candidates = [] ∨ f.candidates = [none]) := by
  cases h with
  | noAddress _ => cases hr
  | failed _ hb =>
    obtain ⟨before, ⟨q, reply⟩, rfl, -, hx⟩ := hb
    simp only [ifNotFound] at hr
    split_ifs at hr with he
    obtain ⟨e, rfl, hcode⟩ := exists_error_of_isNotFound hx he
    exact .inl ⟨q, e, List.mem_append_right _ (List.mem_singleton.mpr rfl), hcode⟩
  | found _ hex hf => exact .inr ⟨hex, _, hf, Finding.settle_eq_none.mp hr⟩

end Concludes

/-! ## The state that a read gives -/

theorem LifecycleKind.ofName?_name (k : LifecycleKind) : ofName? k.name = some k := by
  cases k <;> rfl

namespace Provider

variable {settings : Settings} {ex : List (Call × Reply)} {id : ResourceId}

theorem lifecycleKind_of_type {kind : LifecycleKind} (hid : id.type = kind.name) :
    lifecycleKind id = .ok kind := by
  rw [lifecycleKind, hid, kind.ofName?_name]

/-- The state of a resource with an identifier, by the attributes that are read. -/
def shown (kind : LifecycleKind) (id : ResourceId) (s : String) : Option Attributes → State
  | none => .absent id
  | some a => .existing id (some s) (kind.schema.complete a)

theorem yields_read (hk : LifecycleKind.ofName? id.type = some kind) {r : Except Error State} :
    Yields (read settings id (some s)) ex r ↔
      ∃ x, Yields ((kind.lifecycle settings).read s) ex x ∧
        r = (x.map (shown kind id s)).mapError fun e => e.forResource id := by
  have hkind : lifecycleKind id = .ok kind := by rw [lifecycleKind, hk]
  rw [read, yields_onResource]
  simp only [yields_ok_bind hkind]
  refine (exists_congr fun y => and_congr_left fun _ =>
    yields_bind_silent (g := fun found => .ok (shown kind id s found)) ?_).trans ?_
  · intro found ex r
    cases found with
    | none => exact yields_log_bind.trans yields_pure
    | some a => exact yields_log_bind.trans yields_pure
  · constructor
    · rintro ⟨_, ⟨x, hx, rfl⟩, rfl⟩
      exact ⟨x, hx, rfl⟩
    · rintro ⟨x, hx, rfl⟩
      exact ⟨_, ⟨x, hx, rfl⟩, rfl⟩

end Provider

end CloudProvider
