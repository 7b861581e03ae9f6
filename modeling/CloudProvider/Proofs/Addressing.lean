import CloudProvider.Proofs.Identifier
import CloudProvider.Proofs.Update
import CloudProvider.Proofs.Wording

/-!
# Operations by an identifier

Reads, updates and deletes by an address are never rejected because of it, and everything by an
identifier that is no address is.

* `Api.NeverBlames`: whether no error of an operation is about an identifier.
* `Lifecycle.failsOnly_delete`, `Lifecycle.neverRejects_delete`: what a delete fails with, and that
  one by an address is not rejected at all.
* `Provider.neverBlames_update`: an update is only rejected for what is desired.
* **`Provider.usable_iff`**: the identifiers that can be used are the addresses.
-/

namespace CloudProvider

open Operation Api

/-! ## Operations that are not rejected for an identifier -/

namespace Api

variable {α : Type}

/-- **Whether no error of an operation is about an identifier.** -/
def NeverBlames (op : Api α) : Prop := FailsOnly (fun e => ¬ e.ConcernsIdentifier) op

theorem NeverRejects.neverBlames {op : Api α} (h : NeverRejects op) : NeverBlames op := by
  intro ex e hy hc
  have hinvalid := hc.isInvalid
  rw [h ex e hy] at hinvalid
  cases hinvalid

end Api

/-! ## Deletes -/

namespace Lifecycle

variable {settings : Settings} {kind : LifecycleKind} {s : String}

section Parsed

variable {α : Type} {P : Error → Prop}

theorem failsOnly_two_bind {shape : String} {f : String × String → Api α}
    (hid : ¬ LifecycleKind.account.IsAddress s → ∀ message, P (.invalid message))
    (hf : ∀ id, FailsOnly P (f id)) :
    FailsOnly P ((liftM (CompositeId.two s shape) : Api (String × String)) >>= f) := by
  refine failsOnly_lift_bind (fun e he => ?_) fun id _ => hf id
  obtain ⟨hs, message, rfl⟩ := CompositeId.two_eq_error he
  exact hid hs message

theorem failsOnly_three_bind {shape : String} {f : String × String × String → Api α}
    (hid : ¬ LifecycleKind.privilege.IsAddress s → ∀ message, P (.invalid message))
    (hf : ∀ id, FailsOnly P (f id)) :
    FailsOnly P ((liftM (CompositeId.three s shape) : Api (String × String × String)) >>= f) := by
  refine failsOnly_lift_bind (fun e he => ?_) fun id _ => hf id
  obtain ⟨hs, message, rfl⟩ := CompositeId.three_eq_error he
  exact hid hs message

theorem failsOnly_entryId_bind {f : RouteEntryId → Api α}
    (hid : ¬ LifecycleKind.routeEntry.IsAddress s → ∀ message, P (.invalid message))
    (hf : ∀ id, FailsOnly P (f id)) :
    FailsOnly P ((liftM (RouteEntryId.ofText s) : Api RouteEntryId) >>= f) := by
  refine failsOnly_lift_bind (fun e he => ?_) fun id _ => hf id
  obtain ⟨hs, message, rfl⟩ := RouteEntryId.ofText_eq_error he
  exact hid hs message

end Parsed

/-- **A delete fails** for its identifier, its look or its change. -/
theorem failsOnly_delete {P : Error → Prop} (hP : CoversFailures P)
    (hid : ¬ kind.IsAddress s → ∀ message, P (.invalid message))
    (hread : FailsOnly P ((kind.lifecycle settings).read s)) :
    FailsOnly P ((kind.lifecycle settings).delete s) := by
  have hcommand : ∀ {action : Action} {request : Json},
      FailsOnly P (acceptGone .vpc (command action request)) :=
    failsOnly_acceptGone (failsOnly_call hP)
  cases kind with
  | vpc => exact failsOnly_removal hread.of_bind rfl fun _ => hcommand
  | subnet => exact failsOnly_removal hread.of_bind rfl fun _ => hcommand
  | routeTable => exact failsOnly_removal hread.of_bind rfl fun _ => hcommand
  | routeEntry =>
    exact failsOnly_entryId_bind hid fun _ => failsOnly_removal hread rfl fun _ => hcommand
  | account =>
    refine failsOnly_two_bind hid fun ⟨mysqlId, name⟩ => ?_
    have hchange : FailsOnly P (some <$> Mysql.deleteAccount mysqlId name) := by
      rw [← bind_pure_comp]
      exact FailsOnly.bind (Mysql.failsOnly_requested hP) fun _ => failsOnly_pure
    refine failsOnly_removal hread rfl fun _ => ?_
    exact failsOnly_removal (failsOnly_orIfNotFound hchange) rfl fun _ => Mysql.failsOnly_await hP
  | privilege =>
    refine failsOnly_three_bind hid fun ⟨mysqlId, name, database⟩ => ?_
    exact failsOnly_removal hread rfl fun _ =>
      failsOnly_orIfNotFound (failsOnly_finish hP (Mysql.failsOnly_requested hP))
  | backupPolicy => exact failsOnly_acceptGone (failsOnly_call hP)

/-- **A delete by an address is not rejected.** -/
theorem neverRejects_delete (hp : settings.pageSize ≠ 0) (hs : kind.IsAddress s) :
    NeverRejects ((kind.lifecycle settings).delete s) :=
  failsOnly_delete coversFailures_valid (fun h => absurd hs h) (neverRejects_read hp hs)

end Lifecycle

/-! ## Updates -/

namespace Lifecycle

variable {settings : Settings} {pageSize : UInt64} {kind : LifecycleKind} {s : String}
  {current : State} {desired : Resource}

theorem neverBlames_required_bind {α : Type} {key : String} {f : String → Api α}
    (hkey : (Error.invalid (key ++ " should be a non-empty string")).opening ∉
      Error.identifierOpenings) (hf : ∀ a, NeverBlames (f a)) :
    NeverBlames (liftM (desired.required key) >>= f) :=
  failsOnly_lift_bind (fun _ => Resource.not_concernsIdentifier_of_required hkey) fun a _ => hf a

theorem neverBlames_ensureInVpc (hp : pageSize ≠ 0) {table vpcId : String} :
    NeverBlames (ensureInVpc pageSize table vpcId) := by
  have hfound : NeverRejects (Network.isRouteTableInVpc pageSize table vpcId) :=
    FailsOnly.bind (Network.neverRejects_uniqueRouteTable hp) fun _ => failsOnly_pure
  refine FailsOnly.bind hfound.neverBlames fun found => ?_
  split_ifs
  · exact failsOnly_pure
  · refine failsOnly_throw ?_
    rw [foreignTable, String.append_assoc, String.append_assoc]
    exact Error.not_concernsIdentifier_invalid (by decide)

theorem neverBlames_updateSubnet (hp : pageSize ≠ 0) :
    NeverBlames (updateSubnet pageSize s current desired) := by
  refine neverBlames_required_bind (by decide) fun name => ?_
  dsimp only
  cases newTable? current desired with
  | none =>
    refine NeverRejects.neverBlames ?_
    split_ifs
    · exact FailsOnly.bind neverRejects_call fun _ => failsOnly_pure
    · exact failsOnly_pure
  | some table =>
    have htable : NeverBlames (do
        let vpcId ← (desired.required "vpc_id" : Except Error String)
        ensureInVpc pageSize table vpcId
        Network.associateRouteTable s table : Api Unit) := by
      refine neverBlames_required_bind (by decide) fun vpcId => ?_
      exact FailsOnly.bind (neverBlames_ensureInVpc hp) fun _ => neverRejects_call.neverBlames
    split_ifs
    · exact FailsOnly.bind neverRejects_call.neverBlames fun _ => htable
    · exact htable

/-- **An update by an address** is only rejected for what is desired. -/
theorem neverBlames_update (hp : settings.pageSize ≠ 0) (hs : kind.IsAddress s) :
    NeverBlames ((kind.lifecycle settings).update s current desired) := by
  cases kind with
  | vpc =>
    exact neverBlames_required_bind (by decide) fun _ => neverRejects_call.neverBlames
  | subnet => exact neverBlames_updateSubnet hp
  | routeTable =>
    exact neverBlames_required_bind (by decide) fun _ => neverRejects_call.neverBlames
  | routeEntry => exact failsOnly_pure
  | account =>
    refine failsOnly_two_bind (fun h => absurd hs h) fun ⟨mysqlId, name⟩ => ?_
    refine neverBlames_required_bind (by decide) fun password => ?_
    exact (neverRejects_optional (neverRejects_finish Mysql.neverRejects_requested)
      (neverRejects_finish Mysql.neverRejects_requested)).neverBlames
  | privilege =>
    refine failsOnly_three_bind (fun h => absurd hs h) fun ⟨mysqlId, name, database⟩ => ?_
    exact (neverRejects_finish Mysql.neverRejects_requested).neverBlames
  | backupPolicy => exact neverRejects_call.neverBlames

end Lifecycle

/-! ## Identifiers that can be used -/

namespace Provider

variable {settings : Settings} {kind : LifecycleKind} {s : String} {id : ResourceId}

theorem neverBlames_onKind {α : Type} (hid : id.type = kind.name) {op : LifecycleKind → Api α}
    (h : NeverBlames (op kind)) :
    NeverBlames (Operation.onResource id ((liftM (lifecycleKind id) : Api _) >>= op)) := by
  refine FailsOnly.onResource ?_ fun _ he => he
  rw [lifecycleKind_of_type hid]
  exact h

theorem neverBlames_read (hp : settings.pageSize ≠ 0) (hid : id.type = kind.name)
    (hs : kind.IsAddress s) : NeverBlames (read settings id (some s)) := by
  refine neverBlames_onKind hid ?_
  refine FailsOnly.bind (Lifecycle.neverRejects_read hp hs).neverBlames fun attributes => ?_
  cases attributes with
  | none => exact FailsOnly.bind failsOnly_log fun _ => failsOnly_pure
  | some _ => exact FailsOnly.bind failsOnly_log fun _ => failsOnly_pure

theorem neverBlames_update (hp : settings.pageSize ≠ 0) (hid : id.type = kind.name)
    (hs : kind.IsAddress s) {current : State} {desired : Resource} :
    NeverBlames (update settings id s current desired) := by
  refine neverBlames_onKind hid ?_
  refine failsOnly_lift_bind (fun e => not_concernsIdentifier_of_prepareFor) fun r _ => ?_
  refine failsOnly_lift_bind (fun e => not_concernsIdentifier_of_checkReplacements) fun _ _ => ?_
  refine FailsOnly.bind failsOnly_log fun _ => ?_
  refine FailsOnly.bind (failsOnly_logFailure (Lifecycle.neverBlames_update hp hs)) fun _ => ?_
  exact (neverRejects_readBack hp hs).neverBlames

theorem neverBlames_delete (hp : settings.pageSize ≠ 0) (hid : id.type = kind.name)
    (hs : kind.IsAddress s) : NeverBlames (delete settings id s) := by
  refine neverBlames_onKind hid (FailsOnly.bind failsOnly_log fun _ => ?_)
  exact failsOnly_logFailure (Lifecycle.neverRejects_delete hp hs).neverBlames

theorem exists_yields_read (settings : Settings) (hs : ¬ kind.IsAddress s) :
    ∃ e, e.ConcernsIdentifier ∧ Yields ((kind.lifecycle settings).read s) [] (.error e) := by
  cases kind with
  | routeEntry =>
    cases hid : RouteEntryId.ofText s with
    | ok id => exact absurd (RouteEntryId.ofText_eq_ok hid) hs
    | error e =>
      exact ⟨e, RouteEntryId.concernsIdentifier_of_ofText hid,
        (yields_error_bind hid).mpr ⟨rfl, rfl⟩⟩
  | account =>
    cases hid : CompositeId.two s Mysql.Account.idShape with
    | ok id => exact absurd (CompositeId.two_eq_ok hid) hs
    | error e =>
      exact ⟨e, CompositeId.concernsIdentifier_of_two hid,
        (yields_error_bind hid).mpr ⟨rfl, rfl⟩⟩
  | privilege =>
    cases hid : CompositeId.three s Mysql.Grant.idShape with
    | ok id => exact absurd (CompositeId.three_eq_ok hid) hs
    | error e =>
      exact ⟨e, CompositeId.concernsIdentifier_of_three hid,
        (yields_error_bind hid).mpr ⟨rfl, rfl⟩⟩
  | vpc | subnet | routeTable | backupPolicy => exact absurd trivial hs

/-- **Whether an identifier can be used**: against no remote does a read, an update or a delete fail
with an error about it. -/
def Usable (settings : Settings) (kind : LifecycleKind) (s : String) : Prop :=
  ∀ (id : ResourceId) (σ : Type) (remote : Dialogue.Remote σ Call Reply) (start : σ) (e : Error),
    id.type = kind.name →
    ((read settings id (some s)).against remote start).result = .error e ∨
      (∃ current desired,
        ((update settings id s current desired).against remote start).result = .error e) ∨
      ((delete settings id s).against remote start).result = .error e →
    ¬ e.ConcernsIdentifier

/-- **The identifiers that can be used are the addresses.** -/
theorem usable_iff (hp : settings.pageSize ≠ 0) : Usable settings kind s ↔ kind.IsAddress s := by
  constructor
  · intro h
    by_cases hs : kind.IsAddress s
    · exact hs
    · exfalso
      obtain ⟨e, he, hread⟩ := exists_yields_read settings hs
      let id : ResourceId := ⟨kind.name, ""⟩
      have hy : Yields (read settings id (some s)) [] (.error (e.forResource id)) := by
        refine yields_onResource.mpr ⟨.error e, ?_, rfl⟩
        refine (yields_ok_bind (lifecycleKind_of_type rfl)).mpr ?_
        exact yields_bind.mpr (.inl ⟨e, hread, rfl⟩)
      exact h id _ _ _ _ rfl (.inl (hy.exists_against fun _ => .ok .null).2) he
  · rintro hs id σ remote start e hid (h | ⟨current, desired, h⟩ | h)
    · exact failsOnly_iff.mp (neverBlames_read hp hid hs) σ remote start e h
    · exact failsOnly_iff.mp (neverBlames_update hp hid hs) σ remote start e h
    · exact failsOnly_iff.mp (neverBlames_delete hp hid hs) σ remote start e h

end Provider

end CloudProvider
