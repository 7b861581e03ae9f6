import CloudProvider.Mysql.Client
import CloudProvider.Network.Client
import CloudProvider.Proofs.Listing.Pages

/-!
# What is expected of an answer

Every action has one type of answer. A call fails if the remote reports a failure, or if what it
answers is not of that type.

* `Action.Answer`, `Action.decode`: what an action answers, and how it is read.
* `Api.failure?`: the failure of a question with its answer, if it is one.
* `Api.Reads`: whether the answers of an action are read in some way.
* `Api.Sound`, `Api.BreaksOff`: exchanges without a failure, and those that end with the first one.
* **`Listing.Paged.breaksOff`**, `Listing.Paged.sound`: a listing breaks off at its first failure.
-/

namespace CloudProvider

/-! ## Answers by action -/

/-- What an action answers. -/
def Action.Answer : Action → Type
  | .describeVpcs => Listing.Page Network.Vpc
  | .describeSubnets => Listing.Page Network.Subnet
  | .describeRouteTables => Listing.Page Network.RouteTable
  | .createVpc => Network.Vpc
  | .createSubnet => Network.Subnet
  | .createRouteTable => Network.RouteTable
  | .describeBackups => Listing.Page Mysql.Backup
  | .describeBackupConfig => Mysql.BackupPolicy
  | .describeZoneConfig => List Mysql.Region
  | .describeDefaultParams | .describeInstanceParams => List Mysql.Parameter
  | .describeAccounts => Listing.Page Mysql.Account
  | .createAccounts | .modifyAccountPassword | .modifyAccountDescription | .deleteAccounts
  | .modifyAccountPrivileges => String
  | .describeAsyncRequestInfo => AsyncRequest.Observation
  | .describeAccountPrivileges => List Mysql.Grant
  | .modifyVpcAttribute | .deleteVpc | .modifySubnetAttribute | .deleteSubnet
  | .replaceRouteTableAssociation | .modifyRouteTableAttribute | .deleteRouteTable
  | .createRoutes | .deleteRoutes | .modifyBackupConfig => Unit

/-- The id of a request that an action has started. -/
def Mysql.requestId : Json → Except Issue String :=
  Row.ofJson "AsyncRequestResponse" (.column "AsyncRequestId" Json.asText "")

/-- How the answer of an action is read. -/
def Action.decode : (a : Action) → Json → Except Issue a.Answer
  | .describeVpcs => (Network.pageRow "VpcSet" Network.Vpc.ofJson).ofJson "DescribeVpcsResponse"
  | .describeSubnets =>
    (Network.pageRow "SubnetSet" Network.Subnet.ofJson).ofJson "DescribeSubnetsResponse"
  | .describeRouteTables =>
    (Network.pageRow "RouteTableSet" Network.RouteTable.ofJson).ofJson
      "DescribeRouteTablesResponse"
  | .createVpc => Row.ofJson "CreateVpcResponse" (.required "Vpc" Network.Vpc.ofJson)
  | .createSubnet => Row.ofJson "CreateSubnetResponse" (.required "Subnet" Network.Subnet.ofJson)
  | .createRouteTable =>
    Row.ofJson "CreateRouteTableResponse" (.required "RouteTable" Network.RouteTable.ofJson)
  | .describeBackups => (Mysql.pageRow Mysql.Backup.ofJson).ofJson "Listing"
  | .describeBackupConfig => Mysql.BackupPolicy.ofJson
  | .describeZoneConfig => Mysql.itemsOf Mysql.Region.ofJson
  | .describeDefaultParams | .describeInstanceParams => Mysql.itemsOf Mysql.Parameter.ofJson
  | .describeAccounts => (Mysql.pageRow Mysql.Account.ofJson).ofJson "Listing"
  | .createAccounts | .modifyAccountPassword | .modifyAccountDescription | .deleteAccounts
  | .modifyAccountPrivileges => Mysql.requestId
  | .describeAsyncRequestInfo =>
    Row.ofJson "AsyncRequestInfoResponse"
      (AsyncRequest.Observation.mk <$> .column "Status" Json.asText ""
        <*> .column "Info" Json.asText "")
  | .describeAccountPrivileges =>
    Row.ofJson "AccountPrivilegesResponse"
      (.column "DatabasePrivileges" (Json.asListOrNull Mysql.Grant.ofJson) [])
  | .modifyVpcAttribute | .deleteVpc | .modifySubnetAttribute | .deleteSubnet
  | .replaceRouteTableAssociation | .modifyRouteTableAttribute | .deleteRouteTable
  | .createRoutes | .deleteRoutes | .modifyBackupConfig => Api.nothing

/-! ## Failures -/

namespace Api

/-- What a call of an action makes of an answer. -/
def answer (action : Action) : Reply → Except Error action.Answer :=
  outcomeOf action action.decode

/-- The error of an outcome, if it is one. -/
def errorOf? {α : Type} : Except Error α → Option Error
  | .ok _ => none
  | .error e => some e

theorem errorOf?_eq_some {α : Type} {x : Except Error α} {e : Error} :
    errorOf? x = some e ↔ x = .error e := by
  cases x <;> simp [errorOf?]

/-- **The failure of a question with its answer**, if it is one. -/
def failure? (x : Call × Reply) : Option Error := errorOf? (answer x.1.action x.2)

theorem failure?_error (c : Call) (e : ApiError) :
    failure? (c, .error e) = some ⟨.remote e, none⟩ :=
  rfl

theorem failure?_ok {c : Call} {j : Json} {issue : Issue} (h : c.action.decode j = .error issue) :
    failure? (c, .ok j) = some (undecodable c.action issue) := by
  simp only [failure?, answer, outcomeOf, h, Except.mapError, errorOf?]

/-- Whether the answers of an action are read by `read`. -/
def Reads {α : Type} (action : Action) (read : Reply → Except Error α) : Prop :=
  ∀ request reply, failure? (⟨action, request⟩, reply) =
    errorOf? (read reply)

theorem reads_answer (action : Action) : Reads action (answer action) := fun _ _ => rfl

/-- Whether nothing fails in some exchanges. -/
def Sound (ex : List (Call × Reply)) : Prop := ∀ x ∈ ex, failure? x = none

instance (ex : List (Call × Reply)) : Decidable (Sound ex) :=
  inferInstanceAs (Decidable (∀ x ∈ ex, failure? x = none))

/-- Whether some exchanges end with the first of them that fails. -/
def BreaksOff (ex : List (Call × Reply)) (e : Error) : Prop :=
  ∃ before x, ex = before ++ [x] ∧ Sound before ∧ failure? x = some e

theorem sound_nil : Sound [] := fun _ h => absurd h List.not_mem_nil

theorem sound_cons {x : Call × Reply} {ex : List (Call × Reply)} :
    Sound (x :: ex) ↔ failure? x = none ∧ Sound ex := List.forall_mem_cons

theorem sound_append {ex₁ ex₂ : List (Call × Reply)} :
    Sound (ex₁ ++ ex₂) ↔ Sound ex₁ ∧ Sound ex₂ := by
  simp only [Sound, List.mem_append, or_imp, forall_and]

theorem breaksOff_singleton {x : Call × Reply} {e : Error} (h : failure? x = some e) :
    BreaksOff [x] e := ⟨[], x, rfl, sound_nil, h⟩

theorem Sound.breaksOff {ex₁ ex₂ : List (Call × Reply)} {e : Error} (h₁ : Sound ex₁)
    (h₂ : BreaksOff ex₂ e) : BreaksOff (ex₁ ++ ex₂) e := by
  obtain ⟨before, x, rfl, hb, hx⟩ := h₂
  exact ⟨ex₁ ++ before, x, by rw [List.append_assoc], sound_append.mpr ⟨h₁, hb⟩, hx⟩

theorem BreaksOff.eq_of_mem {ex : List (Call × Reply)} {e e' : Error} {x : Call × Reply}
    (h : BreaksOff ex e) (hx : x ∈ ex) (he : failure? x = some e') : e' = e := by
  obtain ⟨before, y, rfl, hb, hy⟩ := h
  rcases List.mem_append.mp hx with hx | hx
  · rw [hb x hx] at he
    cases he
  · rw [List.mem_singleton.mp hx, hy] at he
    exact (Option.some.inj he).symm

variable {α : Type} {action : Action} {request : Json} {reply : Reply}
  {read : Reply → Except Error α}

theorem Reads.failure?_eq_none (h : Reads action read) {a : α} (ha : read reply = .ok a) :
    failure? (⟨action, request⟩, reply) = none := by
  rw [h, ha, errorOf?]

theorem Reads.failure?_eq_some (h : Reads action read) {e : Error} (he : read reply = .error e) :
    failure? (⟨action, request⟩, reply) = some e := by
  rw [h, he, errorOf?]

theorem exists_error_of_isNotFound {service : Service} {x : Call × Reply} {e : Error}
    (hx : failure? x = some e) (he : isNotFound service e = true) :
    ∃ reported, x.2 = .error reported ∧ reported.code ∈ service.notFoundCodes := by
  obtain ⟨reported, hreply, rfl⟩ | ⟨j, issue, -, -, rfl⟩ :=
    outcomeOf_eq_error (errorOf?_eq_some.mp hx)
  · exact ⟨reported, hreply, of_decide_eq_true he⟩
  · cases he

end Api

/-! ## Listings -/

namespace Listing

open Api

variable {limit : UInt64} {bound : Option Nat} {α : Type} {action : Action}
  {request : Cursor → Json} {read : Reply → Except Error (Page α)} {offset : Nat}
  {ex : List (Call × Reply)}

/-- **A listing that gives its items has no failure.** -/
theorem Paged.sound {r : Except Error (List α)}
    (h : Paged limit bound (fun c => ⟨action, request c⟩) read offset ex r)
    (hread : Reads action read) {items : List α} (hr : r = .ok items) : Sound ex := by
  induction h generalizing items with
  | failed _ => cases hr
  | last ha _ => exact sound_cons.mpr ⟨hread.failure?_eq_none ha, sound_nil⟩
  | @more _ a page ex r ha _ _ ih =>
    cases r with
    | error e => cases hr
    | ok rest => exact sound_cons.mpr ⟨hread.failure?_eq_none ha, ih rfl⟩

/-- **A listing that fails breaks off at its first failure.** -/
theorem Paged.breaksOff {r : Except Error (List α)}
    (h : Paged limit bound (fun c => ⟨action, request c⟩) read offset ex r)
    (hread : Reads action read) {e : Error} (hr : r = .error e) : BreaksOff ex e := by
  induction h generalizing e with
  | failed ha =>
    cases hr
    exact breaksOff_singleton (hread.failure?_eq_some ha)
  | last _ _ => cases hr
  | @more _ a page ex r ha _ _ ih =>
    cases r with
    | ok rest => cases hr
    | error e' =>
      cases hr
      exact (sound_cons.mpr ⟨hread.failure?_eq_none ha, sound_nil⟩).breaksOff (ih rfl)

end Listing

end CloudProvider
