import CloudProvider.Proofs.Asking

/-!
# Desired states that are applied again

What a creation has brought about can be desired once more. The update then has nothing to do, and
it should not be rejected.

* `Lifecycle.asksIf_read`: the reads that get to the remote.
* `Operation.FailsLate`, `Lifecycle.failsLate_update`: an update of what was created does not fail
  before the first call.
* `Provider.exists_of_create`: what a creation that goes well leaves behind.
* `LifecycleKind.FillsIn`: whether the remote has filled in what was desired to be empty.
* **`Provider.reapplied_iff`**: when the same resource is accepted again.
-/

namespace CloudProvider

open Operation Api

/-! ## Reads that ask -/

theorem except_exists_eq_ok {ε α : Type} {x : Except ε α} {p : Prop} (hok : ∀ a, x = .ok a → p)
    (herror : ∀ e, x = .error e → ¬ p) : (∃ a, x = .ok a) ↔ p := by
  refine ⟨fun ⟨a, ha⟩ => hok a ha, fun hp => ?_⟩
  cases h : x with
  | ok a => exact ⟨a, rfl⟩
  | error e => exact absurd hp (herror e h)

theorem RouteEntryId.exists_ofText_eq_ok {s : String} :
    (∃ id, ofText s = .ok id) ↔ LifecycleKind.routeEntry.IsAddress s :=
  except_exists_eq_ok (fun _ => ofText_eq_ok) fun _ h => (ofText_eq_error h).1

theorem CompositeId.exists_two_eq_ok {s : String} :
    (∃ id, two s Mysql.Account.idShape = .ok id) ↔ LifecycleKind.account.IsAddress s :=
  except_exists_eq_ok (fun _ => two_eq_ok) fun _ h => (two_eq_error h).1

theorem CompositeId.exists_three_eq_ok {s : String} :
    (∃ id, three s Mysql.Grant.idShape = .ok id) ↔ LifecycleKind.privilege.IsAddress s :=
  except_exists_eq_ok (fun _ => three_eq_ok) fun _ h => (three_eq_error h).1

/-- **Whether the entities of a kind can be read** by an identifier: it is an address, and the pages
of a listing hold something. -/
structure LifecycleKind.CanRead (settings : Settings) (kind : LifecycleKind) (s : String) :
    Prop where
  isAddress : kind.IsAddress s
  pageSize : kind ≠ .backupPolicy → settings.pageSize ≠ 0

namespace Lifecycle

variable {settings : Settings} {pageSize : UInt64} {kind : LifecycleKind} {s : String}

theorem asksIf_findAccount {mysqlId name : String} :
    AsksIf (pageSize ≠ 0) (Mysql.findAccount pageSize mysqlId name) :=
  Listing.asksIf_all.bind _

theorem asksIf_listed (hkind : kind ≠ .backupPolicy) (hs : kind.IsAddress s)
    {op : Api (Option Attributes)} (h : AsksIf (settings.pageSize ≠ 0) op) :
    AsksIf (kind.CanRead settings s) op :=
  h.congr ⟨fun hp => ⟨hs, fun _ => hp⟩, fun hread => hread.pageSize hkind⟩

theorem asksIf_parsed {α : Type} {x : Except Error α} {f : α → Api (Option Attributes)}
    (hkind : kind ≠ .backupPolicy) (hs : (∃ a, x = .ok a) ↔ kind.IsAddress s)
    (hx : ∀ e, x = .error e → ∃ m, e = .invalid m) (h : ∀ a, AsksIf (settings.pageSize ≠ 0) (f a)) :
    AsksIf (kind.CanRead settings s) ((liftM x : Api α) >>= f) := by
  have hinvalid : ∀ e, x = .error e → e.isInvalid = true := by
    intro e he
    obtain ⟨m, rfl⟩ := hx e he
    rfl
  refine (asksIf_lift_bind hinvalid fun a _ => h a).congr ?_
  exact ⟨fun ⟨hok, hp⟩ => ⟨hs.mp hok, fun _ => hp⟩,
    fun hread => ⟨hs.mpr hread.isAddress, hread.pageSize hkind⟩⟩

/-- **A read asks something** if the entity can be read. -/
theorem asksIf_read (settings : Settings) (kind : LifecycleKind) (s : String) :
    AsksIf (kind.CanRead settings s) ((kind.lifecycle settings).read s) := by
  cases kind with
  | vpc | subnet | routeTable =>
    exact asksIf_listed (by decide) (by trivial) ((Lookup.asksIf_listed Listing.asksIf_all).bind _)
  | routeEntry =>
    exact asksIf_parsed (by decide) RouteEntryId.exists_ofText_eq_ok
      (fun _ he => (RouteEntryId.ofText_eq_error he).2)
      fun _ => (Lookup.asksIf_listed Listing.asksIf_all).bind _
  | account =>
    exact asksIf_parsed (by decide) CompositeId.exists_two_eq_ok
      (fun _ he => (CompositeId.two_eq_error he).2)
      fun _ => asksIf_orIfNotFound (asksIf_findAccount.bind _)
  | privilege =>
    exact asksIf_parsed (by decide) CompositeId.exists_three_eq_ok
      (fun _ he => (CompositeId.three_eq_error he).2)
      fun _ => asksIf_orIfNotFound ((asksIf_findAccount.bind _).bind _)
  | backupPolicy =>
    exact Asks.asksIf (asks_orIfNotFound (asks_call.bind _)) ⟨trivial, fun h => absurd rfl h⟩

end Lifecycle

/-! ## Updates of what was created -/

namespace Operation

variable {Q A α β : Type} {op : Operation Q A α}

/-- **Whether an operation does not fail before its first question.** -/
def FailsLate (op : Operation Q A α) : Prop := ∀ e, ¬ Yields op [] (.error e)

theorem Asks.failsLate (h : Asks op) : FailsLate op := fun _ hy => h [] _ hy rfl

theorem failsLate_pure {a : α} : FailsLate (pure a : Operation Q A α) :=
  fun _ hy => nomatch (yields_pure.mp hy).2

theorem failsLate_ok_bind {x : Except Error α} {a : α} {f : α → Operation Q A β} (hx : x = .ok a)
    (h : FailsLate (f a)) : FailsLate ((liftM x : Operation Q A α) >>= f) :=
  fun e hy => h e ((yields_ok_bind hx).mp hy)

theorem FailsLate.bind_asks {f : α → Operation Q A β} (h : FailsLate op) (hf : ∀ a, Asks (f a)) :
    Asks (op >>= f) := by
  rintro ex r hy rfl
  rcases yields_bind.mp hy with ⟨e, he, -⟩ | ⟨ex₁, a, ex₂, hex, -, h₂⟩
  · exact h e he
  · exact hf a ex₂ r h₂ (List.append_eq_nil_iff.mp hex.symm).2

end Operation

namespace Lifecycle

variable {settings : Settings} {pageSize : UInt64} {s : String} {current : State} {r : Resource}

theorem exists_required {key : String} (h : (r.text? key).isSome = true) :
    ∃ t, r.required key = .ok t := by
  obtain ⟨t, ht⟩ := Option.isSome_iff_exists.mp h
  exact ⟨t, Resource.required_of_text? ht⟩

theorem failsLate_updateSubnet (hp : pageSize ≠ 0) (hname : (r.text? "name").isSome = true)
    (hvpc : (r.text? "vpc_id").isSome = true) :
    FailsLate (updateSubnet pageSize s current r) := by
  obtain ⟨name, hname⟩ := exists_required hname
  obtain ⟨vpcId, hvpc⟩ := exists_required hvpc
  refine failsLate_ok_bind hname ?_
  dsimp only
  split_ifs
  · exact (asks_call.bind _).failsLate
  · cases newTable? current r with
    | none => exact failsLate_pure
    | some table =>
      exact failsLate_ok_bind hvpc ((asksIf_ensureInVpc.asks hp).bind _).failsLate

theorem failsLate_updateAccount (hs : LifecycleKind.account.IsAddress s)
    (hpassword : (r.text? "password").isSome = true) :
    FailsLate (updateAccount settings s current r) := by
  obtain ⟨⟨mysqlId, name⟩, hid⟩ := CompositeId.exists_two_eq_ok.mpr hs
  obtain ⟨password, hpassword⟩ := exists_required hpassword
  refine failsLate_ok_bind hid (failsLate_ok_bind hpassword ?_)
  have hfinish {action : Action} {request : Json} :
      Asks (finish settings (Mysql.requested action request)) := asks_finish (asks_call.bind _)
  dsimp only
  split_ifs
  · exact (hfinish.bind _).failsLate
  · exact (hfinish.bind _).failsLate
  · exact hfinish.failsLate
  · exact failsLate_pure

/-- **An update of what was created** does not fail before it asks. -/
theorem failsLate_update {kind : LifecycleKind}
    (hneeded : ∀ key ∈ kind.needed, (r.text? key).isSome = true)
    (hread : kind.CanRead settings s) :
    FailsLate ((kind.lifecycle settings).update s current r) := by
  cases kind with
  | vpc =>
    obtain ⟨name, hname⟩ := exists_required (hneeded "name" (by decide))
    exact failsLate_ok_bind hname asks_call.failsLate
  | subnet =>
    exact failsLate_updateSubnet (hread.pageSize (by decide)) (hneeded "name" (by decide))
      (hneeded "vpc_id" (by decide))
  | routeTable =>
    obtain ⟨name, hname⟩ := exists_required (hneeded "name" (by decide))
    exact failsLate_ok_bind hname asks_call.failsLate
  | routeEntry => exact failsLate_pure
  | account =>
    exact failsLate_updateAccount hread.isAddress (hneeded "password" (by decide))
  | privilege =>
    obtain ⟨⟨mysqlId, name, database⟩, hid⟩ := CompositeId.exists_three_eq_ok.mpr hread.isAddress
    exact failsLate_ok_bind hid (asks_finish (asks_call.bind _)).failsLate
  | backupPolicy => exact asks_call.failsLate

end Lifecycle

/-! ## What was created -/

/-- **Whether a state carries what was desired**: every value of an attribute that cannot be changed
in place is there, unless it is an empty text. -/
def LifecycleKind.Carries (kind : LifecycleKind) (r : Resource) (state : State) : Prop :=
  ∀ d ∈ kind.schema.attributes, d.2.forceNew = true →
    ∀ v ∈ r.attributes.get? d.1, v ≠ .text "" → state.get? d.1 = some v

instance (kind : LifecycleKind) (r : Resource) (state : State) : Decidable (kind.Carries r state) :=
  inferInstanceAs (Decidable (∀ d ∈ kind.schema.attributes, d.2.forceNew = true →
    ∀ v ∈ r.attributes.get? d.1, v ≠ .text "" → state.get? d.1 = some v))

/-- **Whether the remote has filled in what was desired to be empty**, of the attributes that a
route entry need not have. -/
structure LifecycleKind.FillsIn (kind : LifecycleKind) (r : Resource) (state : State)
    (key : String) : Prop where
  kind_eq : kind = .routeEntry
  optional : key = "description" ∨ key = "vpc_id"
  desired : r.attributes.get? key = some (.text "")
  filled : state.get? key ≠ some (.text "")

theorem Schema.mem_replacements {schema : Schema} {current desired : Attributes} {key : String} :
    key ∈ schema.replacements current desired ↔
      ∃ a v, (key, a) ∈ schema.attributes ∧ a.forceNew = true ∧ desired.get? key = some v ∧
        current.get? key ≠ some v := by
  rw [replacements, List.mem_filterMap]
  constructor
  · rintro ⟨⟨name, a⟩, ha, hname⟩
    dsimp only at hname
    split at hname
    · cases hname
    · rename_i v hv
      obtain ⟨⟨hforce, hne⟩, hname⟩ := Option.ite_none_right_eq_some.mp hname
      obtain rfl := Option.some.inj hname
      exact ⟨a, v, ha, hforce, hv, hne⟩
  · rintro ⟨a, v, ha, hforce, hv, hne⟩
    refine ⟨(key, a), ha, ?_⟩
    dsimp only
    rw [hv]
    exact if_pos ⟨hforce, hne⟩

namespace LifecycleKind

/-- What cannot be changed in place has no default. -/
theorem needed_of_forceNew (kind : LifecycleKind) : ∀ d ∈ kind.schema.attributes,
    d.2.forceNew = true → d.2.default.isNone = true ∧
      (d.1 ∈ kind.needed ∨ kind = .routeEntry ∧ (d.1 = "description" ∨ d.1 = "vpc_id")) := by
  cases kind <;> decide +kernel

theorem forceNew_of_optional : ∀ key, key = "description" ∨ key = "vpc_id" →
    ∃ d ∈ LifecycleKind.routeEntry.schema.attributes, d.1 = key ∧ d.2.forceNew = true := by
  have hall : ∀ key ∈ ["description", "vpc_id"],
      ∃ d ∈ LifecycleKind.routeEntry.schema.attributes, d.1 = key ∧ d.2.forceNew = true := by
    decide +kernel
  exact fun key hkey => hall key (by simpa using hkey)

/-- **What an update would have to replace** is what the remote filled in. -/
theorem mem_replacements_iff {kind : LifecycleKind} {r prepared : Resource} {state : State}
    {key : String} (hprepared : prepared.attributes = kind.schema.withDefaults r.attributes)
    (hneeded : ∀ key ∈ kind.needed, (prepared.text? key).isSome = true)
    (hcarries : kind.Carries r state) :
    key ∈ kind.schema.replacements state.attributes prepared.attributes ↔
      kind.FillsIn r state key := by
  rw [Schema.mem_replacements, hprepared]
  constructor
  · rintro ⟨a, v, ha, hforce, hv, hne⟩
    obtain ⟨hdefault, hkey⟩ := kind.needed_of_forceNew (key, a) ha hforce
    have hdesired : r.attributes.get? key = some v := by rwa [get?_withDefaults ha hdefault] at hv
    -- The state carries every other value, so this one is empty, and then it is not needed.
    have hempty : v = .text "" := by
      by_contra hnonempty
      exact hne (hcarries (key, a) ha hforce v hdesired hnonempty)
    subst hempty
    rcases hkey with hkey | ⟨hkind, hoptional⟩
    · have hsome := hneeded key hkey
      simp [Resource.text?, hprepared, hv, Value.text?] at hsome
    · exact ⟨hkind, hoptional, hdesired, hne⟩
  · rintro ⟨rfl, hoptional, hdesired, hfilled⟩
    obtain ⟨⟨_, a⟩, ha, rfl, hforce⟩ := forceNew_of_optional key hoptional
    have hdefault := (LifecycleKind.needed_of_forceNew _ _ ha hforce).1
    refine ⟨a, _, ha, hforce, ?_, hfilled⟩
    rw [get?_withDefaults ha hdefault]
    exact hdesired

end LifecycleKind

namespace Provider

variable {settings : Settings} {kind : LifecycleKind} {r : Resource} {state : State}

/-- **What a creation leaves behind** is allowed, complete and can be read. -/
theorem exists_of_create (hid : r.id.type = kind.name) {ex : List (Call × Reply)}
    (hy : Yields (create settings r) ex (.ok state)) :
    ∃ prepared identifier, prepareFor kind.schema (kind.lifecycle settings) r = .ok prepared ∧
      state.identifier? = some identifier ∧
      (∀ key ∈ kind.needed, (prepared.text? key).isSome = true) ∧
      kind.CanRead settings identifier := by
  obtain ⟨x, hx, hstate⟩ := yields_onResource.mp hy
  cases x with
  | error e => cases hstate
  | ok created =>
    obtain rfl := Except.ok.inj hstate
    have hx := (yields_ok_bind (lifecycleKind_of_type hid)).mp hx
    obtain ⟨prepared, hprepared, hx⟩ := yields_lift_bind_ok.mp hx
    rcases yields_bind.mp (yields_log_bind.mp hx) with ⟨_, -, he⟩ | ⟨_, identifier, _, -, h₁, h₂⟩
    · cases he
    · rcases yields_bind.mp (yields_log_bind.mp h₂) with ⟨_, -, he⟩ | ⟨_, read, _, -, h₃, h₄⟩
      · cases he
      · cases read with
        | none => cases (yields_throw.mp h₄).2
        | some attributes =>
          obtain ⟨-, hstate⟩ := yields_pure.mp h₄
          obtain rfl := Except.ok.inj hstate
          have hcreate := Lifecycle.asksIf_create settings kind prepared
          refine ⟨prepared, identifier, hprepared, rfl, ?_, ?_⟩
          · exact (hcreate.of_yields (yields_logFailure.mp h₁)).1
          · exact (Lifecycle.asksIf_read settings kind identifier).of_yields h₃

theorem asks_update (hid : r.id.type = kind.name) {prepared : Resource} {identifier : String}
    (hprepared : prepareFor kind.schema (kind.lifecycle settings) r = .ok prepared)
    (hneeded : ∀ key ∈ kind.needed, (prepared.text? key).isSome = true)
    (hread : kind.CanRead settings identifier)
    (hnone : kind.schema.replacements state.attributes prepared.attributes = []) :
    Asks (update settings r.id identifier state r) := by
  refine Asks.onResource ?_ r.id
  refine asks_ok_bind (lifecycleKind_of_type hid) (asks_ok_bind hprepared ?_)
  refine asks_ok_bind (checkReplacements_eq_ok.mpr hnone) (asks_log_bind ?_)
  have hlate : FailsLate (logFailure "update failed" r.id
      ((kind.lifecycle settings).update identifier state prepared)) :=
    fun e hy => Lifecycle.failsLate_update hneeded hread e (yields_logFailure.mp hy)
  exact hlate.bind_asks fun _ =>
    ((Lifecycle.asksIf_read settings kind identifier).asks hread).bind _

/-- **When a resource that was created is accepted again.** If the creation gives a state that
carries what was desired, then an update from that state to the same resource asks the remote,
unless the remote has filled in what was desired to be empty. Otherwise the update is over at once,
and its error names what was filled in. -/
theorem reapplied_iff (hid : r.id.type = kind.name) {σ : Type}
    {remote : Dialogue.Remote σ Call Reply} {start : σ}
    (hcreate : ((create settings r).against remote start).result = .ok state)
    (hcarries : kind.Carries r state) :
    ∃ identifier, state.identifier? = some identifier ∧
      ∀ (τ : Type) (remote : Dialogue.Remote τ Call Reply) (start : τ),
        let again := (update settings r.id identifier state r).against remote start
        (again.questions ≠ [] ↔ ∀ key, ¬ kind.FillsIn r state key) ∧
        (again.questions = [] → ∃ names, (∀ key, key ∈ names ↔ kind.FillsIn r state key) ∧
          let changed := ", ".intercalate names
          again = ⟨.error ⟨.invalid
            s!"cannot change {changed} in place, the resource must be replaced", some r.id⟩,
            [], start⟩) := by
  have hy : Yields (create settings r) _ (.ok state) := hcreate ▸ yields_against remote start _
  obtain ⟨prepared, identifier, hprepared, hidentifier, hneeded, hread⟩ := exists_of_create hid hy
  have hmem (key : String) : key ∈ kind.schema.replacements state.attributes prepared.attributes ↔
      kind.FillsIn r state key :=
    LifecycleKind.mem_replacements_iff
      (congrArg Resource.attributes (prepareFor_eq_ok.mp hprepared).2) hneeded hcarries
  refine ⟨identifier, hidentifier, fun τ remote start => ?_⟩
  intro again
  cases hnames : kind.schema.replacements state.attributes prepared.attributes with
  | nil =>
    have hasks := (asks_update hid hprepared hneeded hread hnames).against remote start
    refine ⟨iff_of_true hasks fun key hkey => ?_, fun hnone => absurd hnone hasks⟩
    exact absurd ((hmem key).mpr hkey) (hnames ▸ List.not_mem_nil)
  | cons name rest =>
    have hcheck : checkReplacements kind.schema state prepared = .error (.invalid
        (let changed := ", ".intercalate (name :: rest)
         s!"cannot change {changed} in place, the resource must be replaced")) := by
      rw [checkReplacements, hnames]
    have hrefuses : Refuses (update settings r.id identifier state r) _ :=
      refuses_update hid (.inr ⟨prepared, hprepared, hcheck⟩)
    have hrun := hrefuses.against remote start
    have hnone : again.questions = [] := congrArg Dialogue.Run.questions hrun
    refine ⟨iff_of_false (not_not.mpr hnone) fun hall => ?_, fun _ => ⟨name :: rest, ?_, hrun⟩⟩
    · exact hall name ((hmem name).mp (hnames ▸ List.mem_cons_self))
    · exact fun key => hnames ▸ hmem key

/-- A route to a gateway, in a network or not. -/
def gatewayEntry (vpcId : String) : Resource where
  id := ⟨"route_table_entry", "office"⟩
  attributes := .ofList
    [("route_table_id", .text "rtb-1"), ("destination_cidr_block", .text "10.8.0.0/16"),
     ("next_type", .text "NAT"), ("next_hub", .text "nat-1"), ("vpc_id", .text vpcId)]

/-- The route table with the route, as the remote lists it. -/
def gatewayTable : Reply :=
  .ok (Json.object [("TotalCount", .int 1), ("RouteTableSet", .arr [Json.object
    [("RouteTableId", .str "rtb-1"), ("VpcId", .str "vpc-1"), ("RouteSet", .arr [Json.object
      [("RouteId", .int 42), ("DestinationCidrBlock", .str "10.8.0.0/16"),
       ("GatewayType", .str "NAT"), ("GatewayId", .str "nat-1")]])]])])

/-- The route as it is read back. -/
def gatewayState : State :=
  .existing ⟨"route_table_entry", "office"⟩ (some "42.rtb-1") <| .ofList
    [("route_table_id", .text "rtb-1"), ("destination_cidr_block", .text "10.8.0.0/16"),
     ("next_type", .text "NAT"), ("next_hub", .text "nat-1"), ("vpc_id", .text "vpc-1"),
     ("description", .text "")]

/-- The route in its network is accepted again. -/
theorem gatewayEntry_reapplied :
    let settings : Settings := ⟨"ap-guangzhou", 20, ⟨3, 1⟩⟩
    let r := gatewayEntry "vpc-1"
    let run := (create settings r).against (Dialogue.scripted fun _ => .ok .null)
      [gatewayTable, .ok (.obj []), gatewayTable, gatewayTable]
    let again := (update settings r.id "42.rtb-1" gatewayState r).against
      (Dialogue.scripted fun _ => .ok .null) [gatewayTable]
    r.id.type = LifecycleKind.routeEntry.name ∧ run.result = .ok gatewayState ∧
      LifecycleKind.routeEntry.Carries r gatewayState ∧ again.questions ≠ [] := by
  intro settings r run again
  have hid : r.id.type = LifecycleKind.routeEntry.name := by decide +kernel
  have hcreate : run.result = .ok gatewayState := by decide +kernel
  have hcarries : LifecycleKind.routeEntry.Carries r gatewayState := by decide +kernel
  obtain ⟨identifier, hidentifier, hagain⟩ := reapplied_iff hid hcreate hcarries
  obtain rfl : identifier = "42.rtb-1" := (Option.some.inj hidentifier).symm
  refine ⟨hid, hcreate, hcarries, (hagain _ _ _).1.mpr fun key hkey => ?_⟩
  have hgiven : ∀ key ∈ ["description", "vpc_id"], r.attributes.get? key ≠ some (.text "") := by
    decide +kernel
  exact hgiven key (by simpa using hkey.optional) hkey.desired

/-- **The route with an empty network is created, and then rejected.** -/
theorem emptyNetwork_rejected :
    let settings : Settings := ⟨"ap-guangzhou", 20, ⟨3, 1⟩⟩
    let r := gatewayEntry ""
    let run := (create settings r).against (Dialogue.scripted fun _ => .ok .null)
      [.ok (.obj []), gatewayTable, gatewayTable]
    let again := (update settings r.id "42.rtb-1" gatewayState r).against
      (Dialogue.scripted fun _ => .ok .null) [gatewayTable]
    r.id.type = LifecycleKind.routeEntry.name ∧ run.result = .ok gatewayState ∧
      LifecycleKind.routeEntry.Carries r gatewayState ∧
      again.questions.map (fun q => q.action) = [] ∧ again.result = .error
        ⟨.invalid "cannot change vpc_id in place, the resource must be replaced", some r.id⟩ := by
  decide +kernel

end Provider

end CloudProvider
