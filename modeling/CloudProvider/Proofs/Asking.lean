import CloudProvider.Proofs.Admission
import CloudProvider.Proofs.Creation

/-!
# Operations that ask

Whether an operation gets as far as the remote at all.

* `Operation.Asks`, `Operation.Declines`: an operation always asks something, or it never does and
  fails.
* `Api.AsksIf`: an operation asks if a condition holds, and is rejected without a call if not.
* **`Lifecycle.asksIf_create`**: the creations that get to the remote.
-/

namespace CloudProvider

open Operation

namespace Operation

variable {Q A α β : Type} {op : Operation Q A α} {e : Error}

/-! ## Operations that always ask -/

/-- **Whether an operation asks something**, whatever the answers. -/
def Asks (op : Operation Q A α) : Prop := ∀ ex r, Yields op ex r → ex ≠ []

theorem Asks.bind (h : Asks op) (f : α → Operation Q A β) : Asks (op >>= f) := by
  intro ex r hy
  rcases yields_bind.mp hy with ⟨e, he, -⟩ | ⟨ex₁, a, ex₂, rfl, h₁, -⟩
  · exact h ex _ he
  · exact fun hnil => h ex₁ _ h₁ (List.append_eq_nil_iff.mp hnil).1

theorem asks_ok_bind {x : Except Error α} {a : α} {f : α → Operation Q A β} (hx : x = .ok a)
    (h : Asks (f a)) : Asks ((liftM x : Operation Q A α) >>= f) :=
  fun ex r hy => h ex r ((yields_ok_bind hx).mp hy)

theorem asks_log_bind {e : Event} {f : Unit → Operation Q A α} (h : Asks (f ())) :
    Asks (log e >>= f) :=
  fun ex r hy => h ex r (yields_log_bind.mp hy)

theorem Asks.onResource (h : Asks op) (id : ResourceId) : Asks (op.onResource id) := by
  intro ex r hy
  obtain ⟨x, hx, -⟩ := yields_onResource.mp hy
  exact h ex x hx

theorem Asks.against {σ : Type} (h : Asks op) (remote : Dialogue.Remote σ Q A) (s : σ) :
    (op.against remote s).questions ≠ [] := by
  rw [Dialogue.Run.questions_eq, ne_eq, List.map_eq_nil_iff]
  exact h _ _ (yields_against remote s op)

/-! ## Operations that never ask -/

/-- **Whether an operation asks nothing and fails** with an error. -/
def Declines (op : Operation Q A α) (e : Error) : Prop :=
  ∀ ex r, Yields op ex r ↔ ex = [] ∧ r = .error e

theorem declines_throw : Declines (throw e : Operation Q A α) e := fun _ _ => yields_throw

theorem declines_error_bind {x : Except Error α} {f : α → Operation Q A β} (hx : x = .error e) :
    Declines ((liftM x : Operation Q A α) >>= f) e :=
  fun _ _ => yields_error_bind hx

theorem declines_ok_bind {x : Except Error α} {a : α} {f : α → Operation Q A β} (hx : x = .ok a)
    (h : Declines (f a) e) : Declines ((liftM x : Operation Q A α) >>= f) e :=
  fun ex r => (yields_ok_bind hx).trans (h ex r)

theorem declines_log_bind {event : Event} {f : Unit → Operation Q A α} (h : Declines (f ()) e) :
    Declines (log event >>= f) e :=
  fun ex r => yields_log_bind.trans (h ex r)

theorem Declines.bind (h : Declines op e) (f : α → Operation Q A β) : Declines (op >>= f) e := by
  intro ex r
  rw [yields_bind]
  constructor
  · rintro (⟨e', he, rfl⟩ | ⟨_, a, _, -, ha, -⟩)
    · obtain ⟨hex, he⟩ := (h _ _).mp he
      exact ⟨hex, congrArg Except.error (Except.error.inj he)⟩
    · cases ((h _ _).mp ha).2
  · rintro ⟨rfl, rfl⟩
    exact .inl ⟨e, (h _ _).mpr ⟨rfl, rfl⟩, rfl⟩

theorem Declines.onResource (h : Declines op e) (id : ResourceId) :
    Declines (op.onResource id) (e.forResource id) := by
  intro ex r
  rw [yields_onResource]
  constructor
  · rintro ⟨x, hx, rfl⟩
    obtain ⟨hex, rfl⟩ := (h _ _).mp hx
    exact ⟨hex, rfl⟩
  · rintro ⟨rfl, rfl⟩
    exact ⟨_, (h _ _).mpr ⟨rfl, rfl⟩, rfl⟩

theorem Refuses.declines (h : Refuses op e) : Declines op e := by
  intro ex r
  have hthrow : ExceptT.run op = ExceptT.run (throw e : Operation Q A α) := h
  rw [Yields, hthrow]
  exact yields_throw

theorem Declines.against {σ : Type} (h : Declines op e) (remote : Dialogue.Remote σ Q A) (s : σ) :
    (op.against remote s).questions = [] ∧ (op.against remote s).result = .error e := by
  obtain ⟨hex, hresult⟩ := (h _ _).mp (yields_against remote s op)
  rw [Dialogue.Run.questions_eq, hex]
  exact ⟨rfl, hresult⟩

end Operation

namespace Api

variable {α β : Type} {p q : Prop} {op : Api α}

theorem asks_call {action : Action} {request : Json} {decode : Json → Except Issue α} :
    Asks (call action request decode) := by
  intro ex r hy
  obtain ⟨reply, rfl, -⟩ := yields_call.mp hy
  exact List.cons_ne_nil _ _

theorem asks_orIfNotFound {service : Service} {absent : α} (h : Asks op) :
    Asks (orIfNotFound service op absent) := by
  intro ex r hy
  obtain ⟨x, hx, -⟩ := yields_orIfNotFound.mp hy
  exact h ex x hx

theorem declines_orIfNotFound {service : Service} {absent : α} {e : Error} (h : Declines op e)
    (he : e.isInvalid = true) : Declines (orIfNotFound service op absent) e := by
  have hfound : isNotFound service e = false := by
    cases hnot : isNotFound service e with
    | false => rfl
    | true =>
      obtain ⟨_, _, rfl, -⟩ := isNotFound_iff.mp hnot
      cases he
  intro ex r
  rw [yields_orIfNotFound]
  constructor
  · rintro ⟨x, hx, rfl⟩
    obtain ⟨hex, rfl⟩ := (h _ _).mp hx
    exact ⟨hex, by rw [ifNotFound, hfound]; rfl⟩
  · rintro ⟨rfl, rfl⟩
    exact ⟨_, (h _ _).mpr ⟨rfl, rfl⟩, by rw [ifNotFound, hfound]; rfl⟩

theorem asks_logFailure {message : String} {id : ResourceId} (h : Asks op) :
    Asks (Provider.logFailure message id op) :=
  fun ex r hy => h ex r (Provider.yields_logFailure.mp hy)

theorem declines_logFailure {message : String} {id : ResourceId} {e : Error} (h : Declines op e) :
    Declines (Provider.logFailure message id op) e :=
  fun ex r => Provider.yields_logFailure.trans (h ex r)

/-! ## Operations that ask on a condition -/

/-- **Whether an operation asks just if a condition holds.** If not, then a local check fails before
the first call. -/
structure AsksIf (p : Prop) (op : Api α) : Prop where
  asks : p → Asks op
  rejects : ¬ p → ∃ e, e.isInvalid = true ∧ Declines op e

theorem Asks.asksIf (h : Asks op) (hp : p) : AsksIf p op := ⟨fun _ => h, fun hnot => absurd hp hnot⟩

theorem AsksIf.congr (h : AsksIf p op) (hpq : p ↔ q) : AsksIf q op :=
  propext hpq ▸ h

theorem AsksIf.bind (h : AsksIf p op) (f : α → Api β) : AsksIf p (op >>= f) := by
  refine ⟨fun hp => (h.asks hp).bind f, fun hnot => ?_⟩
  obtain ⟨e, he, hdeclines⟩ := h.rejects hnot
  exact ⟨e, he, hdeclines.bind f⟩

theorem asksIf_orIfNotFound {service : Service} {absent : α}
    (h : AsksIf p op) : AsksIf p (orIfNotFound service op absent) := by
  refine ⟨fun hp => asks_orIfNotFound (h.asks hp), fun hnot => ?_⟩
  obtain ⟨e, he, hdeclines⟩ := h.rejects hnot
  exact ⟨e, he, declines_orIfNotFound hdeclines he⟩

theorem asksIf_lift_bind {α : Type} {x : Except Error α} {f : α → Api β}
    (hx : ∀ e, x = .error e → e.isInvalid = true) (h : ∀ a, x = .ok a → AsksIf p (f a)) :
    AsksIf ((∃ a, x = .ok a) ∧ p) ((liftM x : Api α) >>= f) := by
  cases hchecked : x with
  | error e =>
    refine ⟨fun ⟨⟨_, hok⟩, _⟩ => (nomatch hok), fun _ => ⟨e, hx e hchecked, ?_⟩⟩
    exact declines_error_bind rfl
  | ok a =>
    refine ⟨fun ⟨_, hp⟩ => asks_ok_bind rfl ((h a hchecked).asks hp), fun hnot => ?_⟩
    obtain ⟨e, he, hdeclines⟩ := (h a hchecked).rejects fun hp => hnot ⟨⟨a, rfl⟩, hp⟩
    exact ⟨e, he, declines_ok_bind rfl hdeclines⟩

theorem asksIf_required_bind {r : Resource} {key : String} {f : String → Api β}
    (h : ∀ s, r.text? key = some s → AsksIf p (f s)) :
    AsksIf ((r.text? key).isSome = true ∧ p) ((liftM (r.required key) : Api String) >>= f) := by
  have hsome : (∃ s, r.required key = .ok s) ↔ (r.text? key).isSome = true := by
    rw [Option.isSome_iff_exists]
    exact exists_congr fun s =>
      ⟨fun hs => Resource.text?_of_required hs, fun hs => Resource.required_of_text? hs⟩
  rw [← hsome]
  exact asksIf_lift_bind (fun _ => r.isInvalid_of_required) fun s hs =>
    h s (Resource.text?_of_required hs)

theorem AsksIf.of_yields {ex : List (Call × Reply)} {a : α} (h : AsksIf p op)
    (hy : Yields op ex (.ok a)) : p := by
  by_contra hnot
  obtain ⟨e, -, hdeclines⟩ := h.rejects hnot
  cases ((hdeclines ex _).mp hy).2

end Api

open Api

/-! ## Look-ups -/

namespace Listing

variable {α : Type} {pageSize : UInt64}

theorem asksIf_all {action : Action} {request : Cursor → Json}
    {decode : Json → Except Issue (Page α)} :
    AsksIf (pageSize ≠ 0) (all pageSize fun c => call action (request c) decode) := by
  refine ⟨fun hp ex r hy => ?_, fun hnot => ⟨.invalid "page size must be positive", rfl, ?_⟩⟩
  · have hpaged := (yields_all (fun _ _ _ => yields_call) hp).mp hy
    cases hpaged <;> exact List.cons_ne_nil _ _
  · obtain rfl := not_not.mp hnot
    exact declines_throw

end Listing

theorem Lookup.asksIf_listed {α : Type} {p : Prop} {service : Service} {entity key : String}
    {op : Api (List α)} (h : AsksIf p op) :
    AsksIf p (orIfNotFound service op [] >>= unique entity key) :=
  (asksIf_orIfNotFound h).bind _

/-! ## Creations -/

namespace Lifecycle

variable {settings : Settings} {pageSize : UInt64} {r : Resource}

theorem asksIf_ensureInVpc {table vpcId : String} :
    AsksIf (pageSize ≠ 0) (ensureInVpc pageSize table vpcId) :=
  ((Lookup.asksIf_listed Listing.asksIf_all).bind _).bind _

theorem asks_finish {change : Api String} (h : Asks change) : Asks (finish settings change) :=
  h.bind _

theorem asksIf_createVpc :
    AsksIf ((r.text? "name").isSome ∧ (r.text? "cidr_block").isSome ∧ True) (createVpc r) :=
  asksIf_required_bind fun _ _ => asksIf_required_bind fun _ _ =>
    Asks.asksIf (asks_call.bind _) trivial

theorem asksIf_createSubnet : AsksIf ((r.text? "vpc_id").isSome ∧
    (r.text? "availability_zone").isSome ∧ (r.text? "name").isSome ∧
    (r.text? "cidr_block").isSome ∧ (pageSize = 0 → r.text? "route_table_id" = none))
    (createSubnet pageSize r) := by
  refine asksIf_required_bind fun vpcId _ => asksIf_required_bind fun zone _ =>
    asksIf_required_bind fun name _ => asksIf_required_bind fun cidrBlock _ => ?_
  cases htable : r.text? "route_table_id" with
  | none => exact Asks.asksIf ((asks_call.bind _).bind _) fun _ => rfl
  | some table =>
    refine AsksIf.congr (asksIf_ensureInVpc.bind _) ?_
    simp

theorem asksIf_createRouteTable :
    AsksIf ((r.text? "vpc_id").isSome ∧ (r.text? "name").isSome ∧ True) (createRouteTable r) :=
  asksIf_required_bind fun _ _ => asksIf_required_bind fun _ _ =>
    Asks.asksIf (asks_call.bind _) trivial

theorem asksIf_createRouteEntry : AsksIf ((r.text? "route_table_id").isSome ∧
    (r.text? "destination_cidr_block").isSome ∧ (r.text? "next_type").isSome ∧
    (r.text? "next_hub").isSome ∧ (pageSize = 0 → r.text? "vpc_id" = none))
    (createRouteEntry pageSize r) := by
  refine asksIf_required_bind fun table _ => asksIf_required_bind fun destination _ =>
    asksIf_required_bind fun gatewayType _ => asksIf_required_bind fun gatewayId _ => ?_
  dsimp only
  cases hvpc : r.text? "vpc_id" with
  | none => exact Asks.asksIf ((asks_call.bind _).bind _) fun _ => rfl
  | some vpcId =>
    refine AsksIf.congr (asksIf_ensureInVpc.bind _) ?_
    simp

theorem asksIf_createAccount : AsksIf ((r.text? "mysql_id").isSome ∧ (r.text? "name").isSome ∧
    (r.text? "password").isSome ∧ True) (createAccount settings r) :=
  asksIf_required_bind fun _ _ => asksIf_required_bind fun _ _ => asksIf_required_bind fun _ _ =>
    Asks.asksIf ((asks_finish (asks_call.bind _)).bind _) trivial

theorem asksIf_createPrivilege : AsksIf ((r.text? "mysql_id").isSome ∧
    (r.text? "account_name").isSome ∧ (r.text? "database_name").isSome ∧ True)
    (createPrivilege settings r) :=
  asksIf_required_bind fun _ _ => asksIf_required_bind fun _ _ => asksIf_required_bind fun _ _ =>
    Asks.asksIf ((asks_finish (asks_call.bind _)).bind _) trivial

theorem asksIf_createBackupPolicy :
    AsksIf ((r.text? "mysql_id").isSome ∧ True) (createBackupPolicy r) :=
  asksIf_required_bind fun _ _ => Asks.asksIf (asks_call.bind _) trivial

end Lifecycle

namespace LifecycleKind

/-- The attributes that a creation cannot do without. -/
def needed : LifecycleKind → List String
  | .vpc => ["name", "cidr_block"]
  | .subnet => ["vpc_id", "availability_zone", "name", "cidr_block"]
  | .routeTable => ["vpc_id", "name"]
  | .routeEntry => ["route_table_id", "destination_cidr_block", "next_type", "next_hub"]
  | .account => ["mysql_id", "name", "password"]
  | .privilege => ["mysql_id", "account_name", "database_name"]
  | .backupPolicy => ["mysql_id"]

/-- The attribute for which a creation looks up a route table first. -/
def placing? : LifecycleKind → Option String
  | .subnet => some "route_table_id"
  | .routeEntry => some "vpc_id"
  | _ => none

end LifecycleKind

/-- **A creation asks something** if it has what it cannot do without. -/
theorem Lifecycle.asksIf_create (settings : Settings) (kind : LifecycleKind) (r : Resource) :
    AsksIf ((∀ key ∈ kind.needed, (r.text? key).isSome) ∧
      (settings.pageSize = 0 → ∀ key ∈ kind.placing?, r.text? key = none))
      ((kind.lifecycle settings).create r) := by
  cases kind with
  | vpc => exact asksIf_createVpc.congr (by simp [LifecycleKind.needed, LifecycleKind.placing?])
  | subnet =>
    exact asksIf_createSubnet.congr
      (by simp [LifecycleKind.needed, LifecycleKind.placing?, and_assoc])
  | routeTable =>
    exact asksIf_createRouteTable.congr (by simp [LifecycleKind.needed, LifecycleKind.placing?])
  | routeEntry =>
    exact asksIf_createRouteEntry.congr
      (by simp [LifecycleKind.needed, LifecycleKind.placing?, and_assoc])
  | account =>
    exact asksIf_createAccount.congr (by simp [LifecycleKind.needed, LifecycleKind.placing?])
  | privilege =>
    exact asksIf_createPrivilege.congr (by simp [LifecycleKind.needed, LifecycleKind.placing?])
  | backupPolicy =>
    exact asksIf_createBackupPolicy.congr (by simp [LifecycleKind.needed, LifecycleKind.placing?])

end CloudProvider
