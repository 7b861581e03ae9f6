import CloudProvider.Proofs.Listing.Pages
import CloudProvider.Provider

/-!
# Operations that only look

An operation that puts no question but those that describe leaves the remote as it is.

* `Operation.AsksOnly`: whether all questions of an operation are of some kind.
* `Api.Looks`: whether all calls of an operation describe.
* **`Lifecycle.looks_read`**, `Provider.looks_readBack`: to read an entity is to look.
-/

namespace CloudProvider

namespace Operation

variable {Q A α β : Type} {P : Q → Prop}

/-- Whether every question that an operation can put is of some kind. -/
def AsksOnly (P : Q → Prop) (op : Operation Q A α) : Prop :=
  ∀ ex r, Yields op ex r → ∀ x ∈ ex, P x.1

theorem asksOnly_pure {a : α} : AsksOnly P (pure a : Operation Q A α) := by
  intro ex r h x hx
  rw [(yields_pure.mp h).1] at hx
  exact absurd hx List.not_mem_nil

theorem asksOnly_throw {e : Error} : AsksOnly P (throw e : Operation Q A α) := by
  intro ex r h x hx
  rw [(yields_throw.mp h).1] at hx
  exact absurd hx List.not_mem_nil

theorem asksOnly_lift {c : Except Error α} : AsksOnly P (liftM c : Operation Q A α) := by
  intro ex r h x hx
  rw [(yields_lift.mp h).1] at hx
  exact absurd hx List.not_mem_nil

theorem asksOnly_log {e : Event} : AsksOnly P (log e : Operation Q A Unit) := by
  intro ex r h x hx
  rw [(yields_log.mp h).1] at hx
  exact absurd hx List.not_mem_nil

theorem AsksOnly.bind {op : Operation Q A α} {f : α → Operation Q A β} (h : AsksOnly P op)
    (hf : ∀ a, AsksOnly P (f a)) : AsksOnly P (op >>= f) := by
  intro ex r hy x hx
  rcases yields_bind.mp hy with ⟨e, he, -⟩ | ⟨ex₁, a, ex₂, rfl, h₁, h₂⟩
  · exact h _ _ he x hx
  · rcases List.mem_append.mp hx with hx | hx
    · exact h _ _ h₁ x hx
    · exact hf a _ _ h₂ x hx

theorem AsksOnly.onResource {op : Operation Q A α} (h : AsksOnly P op) (id : ResourceId) :
    AsksOnly P (op.onResource id) := by
  intro ex r hy
  obtain ⟨x, hx, -⟩ := yields_onResource.mp hy
  exact h _ _ hx

end Operation

open Operation

namespace Api

variable {α : Type} {P : Call → Prop}

/-! ## Calls -/

/-- Whether every call of an operation describes. -/
def Looks (op : Api α) : Prop := AsksOnly (fun c : Call => c.action.isDescribing = true) op

theorem asksOnly_call {action : Action} {request : Json} (hP : P ⟨action, request⟩)
    {decode : Json → Except Issue α} : AsksOnly P (call action request decode) := by
  intro ex r h x hx
  obtain ⟨reply, rfl, -⟩ := yields_call.mp h
  rw [List.mem_singleton.mp hx]
  exact hP

theorem looks_call {action : Action} (ha : action.isDescribing = true) {request : Json}
    {decode : Json → Except Issue α} : Looks (call action request decode) :=
  asksOnly_call ha

theorem asksOnly_orIfNotFound {service : Service} {op : Api α} {absent : α} (h : AsksOnly P op) :
    AsksOnly P (orIfNotFound service op absent) := by
  intro ex r hy
  obtain ⟨x, hx, -⟩ := yields_orIfNotFound.mp hy
  exact h _ _ hx

end Api

open Api

variable {P : Call → Prop}

theorem Lookup.asksOnly_unique {α : Type} {entity key : String} {candidates : List α} :
    AsksOnly P (unique entity key candidates : Api (Option α)) := by
  intro ex r h x hx
  rw [(yields_unique.mp h).1] at hx
  exact absurd hx List.not_mem_nil

theorem Listing.asksOnly_upTo {α : Type} {pageSize : UInt64} {bound : Option Nat}
    {fetch : Cursor → Api (Page α)} (h : ∀ c, AsksOnly P (fetch c)) :
    AsksOnly P (upTo pageSize bound fetch) :=
  upTo_induction asksOnly_throw (fun _ => asksOnly_pure) fun c _ hrest => (h c).bind hrest

/-! ## Look-ups -/

namespace Network

variable {pageSize : UInt64}

theorem looks_listVpcs {id name : Option String} : Looks (listVpcs pageSize id name) :=
  Listing.asksOnly_upTo fun _ => looks_call rfl

theorem looks_listSubnets {q : SubnetQuery} : Looks (listSubnets pageSize q) :=
  Listing.asksOnly_upTo fun _ => looks_call rfl

theorem looks_listRouteTables {q : RouteTableQuery} : Looks (listRouteTables pageSize q) :=
  Listing.asksOnly_upTo fun _ => looks_call rfl

theorem looks_findVpc {id : String} : Looks (findVpc pageSize id) :=
  AsksOnly.bind (asksOnly_orIfNotFound looks_listVpcs) fun _ => Lookup.asksOnly_unique

theorem looks_findSubnet {id : String} : Looks (findSubnet pageSize id) :=
  AsksOnly.bind (asksOnly_orIfNotFound looks_listSubnets) fun _ => Lookup.asksOnly_unique

theorem looks_uniqueRouteTable {id : String} {vpcId : Option String} :
    Looks (uniqueRouteTable pageSize id vpcId) :=
  AsksOnly.bind (asksOnly_orIfNotFound looks_listRouteTables) fun _ => Lookup.asksOnly_unique

end Network

namespace Mysql

theorem asksOnly_findAccount {pageSize : UInt64} {mysqlId name : String}
    (hP : ∀ request, P ⟨.describeAccounts, request⟩) :
    AsksOnly P (findAccount pageSize mysqlId name) :=
  AsksOnly.bind (Listing.asksOnly_upTo fun _ => asksOnly_call (hP _)) fun _ =>
    Lookup.asksOnly_unique

theorem asksOnly_readPrivileges {mysqlId name database : String}
    (hP : ∀ request, P ⟨.describeAccountPrivileges, request⟩) :
    AsksOnly P (readPrivileges mysqlId name database) :=
  AsksOnly.bind (asksOnly_call (hP _)) fun _ => asksOnly_pure

end Mysql

/-! ## Reads -/

namespace Lifecycle

variable (settings : Settings)

theorem asksOnly_readAccount (hP : ∀ request, P ⟨.describeAccounts, request⟩)
    (identifier : String) : AsksOnly P (readAccount settings identifier) := by
  refine AsksOnly.bind asksOnly_lift fun ⟨mysqlId, name⟩ => ?_
  exact asksOnly_orIfNotFound (AsksOnly.bind (Mysql.asksOnly_findAccount hP) fun _ => asksOnly_pure)

theorem asksOnly_readPrivilege (hP : ∀ request, P ⟨.describeAccounts, request⟩)
    (hP' : ∀ request, P ⟨.describeAccountPrivileges, request⟩) (identifier : String) :
    AsksOnly P (readPrivilege settings identifier) := by
  have hfind : ∀ mysqlId name database,
      AsksOnly P (findPrivileges settings mysqlId name database) := by
    intro mysqlId name database
    refine AsksOnly.bind (Mysql.asksOnly_findAccount hP) fun account => ?_
    cases account with
    | none => exact asksOnly_pure
    | some _ => exact AsksOnly.bind (Mysql.asksOnly_readPrivileges hP') fun _ => asksOnly_pure
  refine AsksOnly.bind asksOnly_lift fun ⟨mysqlId, name, database⟩ => ?_
  exact asksOnly_orIfNotFound (AsksOnly.bind (hfind _ _ _) fun _ => asksOnly_pure)

/-- **To read the entity of an identifier is to look.** -/
theorem looks_read (kind : LifecycleKind) (identifier : String) :
    Looks ((kind.lifecycle settings).read identifier) := by
  cases kind with
  | vpc => exact AsksOnly.bind Network.looks_findVpc fun _ => asksOnly_pure
  | subnet => exact AsksOnly.bind Network.looks_findSubnet fun _ => asksOnly_pure
  | routeTable => exact AsksOnly.bind Network.looks_uniqueRouteTable fun _ => asksOnly_pure
  | routeEntry =>
    refine AsksOnly.bind asksOnly_lift fun id => ?_
    refine AsksOnly.bind Network.looks_uniqueRouteTable fun table => ?_
    cases table with
    | none => exact asksOnly_pure
    | some _ => exact asksOnly_pure
  | account => exact asksOnly_readAccount settings (fun _ => rfl) identifier
  | privilege => exact asksOnly_readPrivilege settings (fun _ => rfl) (fun _ => rfl) identifier
  | backupPolicy =>
    exact asksOnly_orIfNotFound (AsksOnly.bind (looks_call rfl) fun _ => asksOnly_pure)

end Lifecycle

namespace Provider

variable (settings : Settings)

theorem asksOnly_readBack {kind : LifecycleKind} {desired : Resource} {identifier : String}
    (h : AsksOnly P ((kind.lifecycle settings).read identifier)) :
    AsksOnly P (readBack kind.schema (kind.lifecycle settings) desired identifier) := by
  refine AsksOnly.bind h fun attributes => ?_
  cases attributes with
  | none => exact asksOnly_throw
  | some _ => exact asksOnly_pure

theorem looks_readBack (kind : LifecycleKind) (desired : Resource) (identifier : String) :
    Looks (readBack kind.schema (kind.lifecycle settings) desired identifier) :=
  asksOnly_readBack settings (Lifecycle.looks_read settings kind identifier)

/-- **To read the state of a resource is to look.** -/
theorem looks_read (id : ResourceId) (identifier : Option String) :
    Looks (read settings id identifier) := by
  refine AsksOnly.onResource ?_ id
  refine AsksOnly.bind asksOnly_lift fun kind => ?_
  cases identifier with
  | none => exact asksOnly_pure
  | some identifier =>
    refine AsksOnly.bind (Lifecycle.looks_read settings kind identifier) fun attributes => ?_
    cases attributes with
    | none => exact AsksOnly.bind asksOnly_log fun _ => asksOnly_pure
    | some _ => exact AsksOnly.bind asksOnly_log fun _ => asksOnly_pure

end Provider

end CloudProvider
