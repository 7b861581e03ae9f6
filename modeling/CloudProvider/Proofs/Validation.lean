import CloudProvider.Cli.Run
import CloudProvider.Proofs.Asking

/-!
# Files that are valid and creations that are accepted

A resource file is valid if the schema allows its attributes and the defaults. A creation checks
more than that: that the attributes go together, and that what it needs is not empty.

* `Cli.Surroundings.ReportsValid`: whether the program reports a file as valid.
* `Dialogue.Run.RejectedLocally`: whether a run is rejected before the first call.
* `LifecycleKind.Overlooks`: what the check of a file does not look at.
* **`Provider.validity_agrees_iff`**: for which files the two agree.
-/

namespace CloudProvider

open Operation Api

/-! ## The check of a file -/

/-- **Whether the program reports a file as valid**, for a resource that the file declares. -/
def Cli.Surroundings.ReportsValid (s : Cli.Surroundings) (config : Option String) (path : String)
    (r : Resource) : Prop :=
  Cli.run s ⟨config, .validate path⟩ =
    .done ⟨Cli.Report.lines [s.palette.paint .success s!"✓ {r.id.text} is valid."], "", 0⟩

namespace Cli

theorem kindOf_of_type {type : String} {kind : LifecycleKind} (h : type = kind.name) :
    kindOf type = .ok (.lifecycle kind) := by
  subst h
  cases kind <;> decide +kernel

theorem run_checks {α β : Type} (x : Except Fault α) (f : α → Except Fault β) (g : β → String) :
    ExceptT.run (do
      let a ← (liftM x : Session α)
      let b ← (liftM (f a) : Session β)
      return g b) = .done ((x >>= f).map g) := by
  cases x with
  | error e => rfl
  | ok a =>
    change ExceptT.run ((liftM (f a) : Session β) >>= fun b => pure (g b)) = .done ((f a).map g)
    cases f a <;> rfl

theorem run_validate (s : Surroundings) (config : Option String) (path : String) :
    run s ⟨config, .validate path⟩ = .done (Outcome.ofResult s.palette
      ((resourceText path (s.file path) >>= validate).map fun r =>
        Report.lines [s.palette.paint .success s!"✓ {r.id.text} is valid."])) :=
  congrArg (fun d : Dialogue _ _ _ => d.bind fun x => .done (Outcome.ofResult s.palette x))
    (run_checks _ _ _)

theorem reportsValid_iff {s : Surroundings} {config : Option String} {path content : String}
    {r : Resource} {kind : LifecycleKind}
    (hcontent : resourceText path (s.file path) = .ok content)
    (hread : ResourceFile.read content = .ok r) (hkind : r.id.type = kind.name) :
    s.ReportsValid config path r ↔
      kind.schema.Admits (kind.schema.withDefaults r.attributes) := by
  rw [← Schema.violations_eq_nil_iff_admits kind.schema_nodup, Surroundings.ReportsValid,
    run_validate, hcontent]
  generalize hes : kind.schema.violations (kind.schema.withDefaults r.attributes) = es
  have hvalidate : validate content =
      if es.isEmpty then .ok r else .error (.violations r.id es) := by
    rw [validate, hread]
    simp only [Except.mapError, bind, Except.bind, kindOf_of_type hkind, Kind.schema, hes]
    cases es <;> rfl
  simp only [bind, Except.bind, hvalidate]
  cases es with
  | nil => exact iff_of_true rfl rfl
  | cons e rest =>
    refine iff_of_false (fun h => ?_) (List.cons_ne_nil e rest)
    simp [Outcome.ofResult, Except.map] at h

end Cli

/-! ## Rejected creations -/

/-- **Whether a run is rejected before the first call.** -/
def Dialogue.Run.RejectedLocally {σ α : Type}
    (run : Dialogue.Run σ Call Reply (Except Error α)) : Prop :=
  run.questions = [] ∧ ∃ e, run.result = .error e ∧ e.isInvalid = true

theorem Api.AsksIf.rejectedLocally_iff {σ α : Type} {p : Prop} {op : Api α} (h : AsksIf p op)
    (remote : Dialogue.Remote σ Call Reply) (start : σ) :
    (op.against remote start).RejectedLocally ↔ ¬ p := by
  constructor
  · rintro ⟨hnone, -⟩ hp
    exact (h.asks hp).against remote start hnone
  · intro hnot
    obtain ⟨e, he, hdeclines⟩ := h.rejects hnot
    obtain ⟨hnone, hresult⟩ := hdeclines.against remote start
    exact ⟨hnone, e, hresult, he⟩

/-- **What the check of a file does not look at**: whether the attributes go together, whether a
required one is empty, and whether a route table can be looked up. -/
inductive LifecycleKind.Overlooks (pageSize : UInt64) (kind : LifecycleKind)
    (attributes : Attributes) : Prop
  | gateway : kind = .routeEntry → attributes.get? "next_type" = some (.text "EIP") →
      attributes.get? "next_hub" ≠ some (.text "0") → Overlooks pageSize kind attributes
  | empty {key : String} {a : Attribute} : (key, a) ∈ kind.schema.attributes →
      a.required = true → attributes.get? key = some (.text "") →
        Overlooks pageSize kind attributes
  | pages {key s : String} : pageSize = 0 → kind.placing? = some key →
      attributes.get? key = some (.text s) → s ≠ "" → Overlooks pageSize kind attributes

/-- The types of which all values are texts. -/
def AttributeType.isText : AttributeType → Bool
  | .text | .oneOf _ | .textBetween _ _ | .format .cidr => true
  | _ => false

theorem AttributeType.Conforms.exists_text {t : AttributeType} {v : Value} (h : t.Conforms v)
    (ht : t.isText = true) : ∃ s, v = .text s := by
  cases h with
  | text s => exact ⟨s, rfl⟩
  | oneOf _ => exact ⟨_, rfl⟩
  | textBetween _ _ => exact ⟨_, rfl⟩
  | cidr _ => exact ⟨_, rfl⟩
  | _ => cases ht

namespace LifecycleKind

variable {kind : LifecycleKind} {attributes : Attributes}

theorem exists_of_mem_needed (kind : LifecycleKind) : ∀ key ∈ kind.needed,
    ∃ d ∈ kind.schema.attributes, d.1 = key ∧ d.2.required = true ∧ d.2.default.isNone = true ∧
      d.2.type.isText = true := by
  cases kind <;> decide +kernel

theorem needed_of_required (kind : LifecycleKind) : ∀ d ∈ kind.schema.attributes,
    d.2.required = true → d.1 ∈ kind.needed ∨ d.2.type = .format .privileges := by
  cases kind <;> decide +kernel

/-- **A creation has what it needs** if nothing required is empty. -/
theorem needed_isSome_iff {r : Resource} (h : kind.schema.Admits r.attributes) :
    (∀ key ∈ kind.needed, (r.text? key).isSome) ↔
      ∀ key a, (key, a) ∈ kind.schema.attributes → a.required = true →
        r.attributes.get? key ≠ some (.text "") := by
  constructor
  · intro hsome key a ha hrequired hempty
    rcases kind.needed_of_required (key, a) ha hrequired with hkey | htype
    · have hnone : r.text? key = none := by simp [Resource.text?, hempty, Value.text?]
      exact absurd (hsome key hkey) (by simp [hnone])
    · have hconforms := h.conforming key a _ ha (Fields.mem_of_get? hempty)
      dsimp only at htype
      rw [htype, ← AttributeType.check_eq_ok] at hconforms
      cases hconforms
  · intro hne key hkey
    obtain ⟨⟨_, a⟩, ha, rfl, hrequired, hdefault, htext⟩ := kind.exists_of_mem_needed key hkey
    have hgiven := h.given _ a ha hrequired (Option.isNone_iff_eq_none.mp hdefault)
    obtain ⟨v, hv⟩ :=
      Option.ne_none_iff_exists'.mp (mt Fields.get?_eq_none_iff.mp (not_not.mpr hgiven))
    obtain ⟨s, rfl⟩ := (h.conforming _ a v ha (Fields.mem_of_get? hv)).exists_text htext
    have hs : s ≠ "" := fun hs => hne _ a ha hrequired (hs ▸ hv)
    rw [Resource.text?_of_get? hv hs]
    rfl

theorem not_overlooks_iff {pageSize : UInt64} {r : Resource}
    (h : kind.schema.Admits r.attributes) :
    ¬ kind.Overlooks pageSize r.attributes ↔ kind.Admits r.attributes ∧
      (∀ key ∈ kind.needed, (r.text? key).isSome) ∧
      (pageSize = 0 → ∀ key ∈ kind.placing?, r.text? key = none) := by
  rw [needed_isSome_iff h]
  constructor
  · intro hnot
    refine ⟨⟨h, fun hkind htype => ?_⟩, fun key a ha hrequired hempty => ?_, fun hp key hkey => ?_⟩
    · by_contra hhub
      exact hnot (.gateway hkind htype hhub)
    · exact hnot (.empty ha hrequired hempty)
    · cases hs : r.text? key with
      | none => rfl
      | some s =>
        have hne : s ≠ "" := of_decide_eq_true (Option.filter_eq_some_iff.mp hs).2
        exact absurd (.pages hp hkey ((Resource.text?_eq_some hne).mp hs) hne) hnot
  · rintro ⟨hadmits, hnone, hpages⟩ (⟨hkind, htype, hhub⟩ | ⟨ha, hrequired, hempty⟩ |
      ⟨hp, hkey, hs, hne⟩)
    · exact hhub (hadmits.together hkind htype)
    · exact hnone _ _ ha hrequired hempty
    · cases (hpages hp _ hkey).symm.trans ((Resource.text?_eq_some hne).mpr hs)

end LifecycleKind

namespace Provider

variable {settings : Settings} {r : Resource} {kind : LifecycleKind}

theorem asksIf_create (hid : r.id.type = kind.name) :
    let prepared : Resource := { r with attributes := kind.schema.withDefaults r.attributes }
    AsksIf (kind.Admits prepared.attributes ∧ (∀ key ∈ kind.needed, (prepared.text? key).isSome) ∧
      (settings.pageSize = 0 → ∀ key ∈ kind.placing?, prepared.text? key = none))
      (create settings r) := by
  intro prepared
  have hcreate := Lifecycle.asksIf_create settings kind prepared
  cases hp : prepareFor kind.schema (kind.lifecycle settings) r with
  | error e =>
    obtain ⟨text, rfl, -⟩ := exists_of_prepareFor_error hp
    refine ⟨fun h => ?_, fun _ => ⟨_, rfl, (refuses_create hid hp).declines⟩⟩
    cases (prepareFor_eq_ok.mpr ⟨h.1, rfl⟩).symm.trans hp
  | ok r' =>
    obtain ⟨hadmits, rfl⟩ := prepareFor_eq_ok.mp hp
    refine ⟨fun h => ?_, fun hnot => ?_⟩
    · refine Asks.onResource ?_ r.id
      refine asks_ok_bind (lifecycleKind_of_type hid) (asks_ok_bind hp (asks_log_bind ?_))
      exact (asks_logFailure (hcreate.asks h.2)).bind _
    · obtain ⟨e, he, hdeclines⟩ := hcreate.rejects fun h => hnot ⟨hadmits, h⟩
      refine ⟨e.forResource r.id, he, Declines.onResource ?_ r.id⟩
      refine declines_ok_bind (lifecycleKind_of_type hid) (declines_ok_bind hp ?_)
      exact declines_log_bind ((declines_logFailure hdeclines).bind _)

/-- **The files for which the program and a creation agree.** A file of a resource is reported as
valid just if its creation is not rejected before the first call, unless the schema allows the
attributes and the check of the file overlooks something. -/
theorem validity_agrees_iff {s : Cli.Surroundings} {path content : String} {r : Resource}
    {kind : LifecycleKind} (hcontent : Cli.resourceText path (s.file path) = .ok content)
    (hread : Cli.ResourceFile.read content = .ok r) (hkind : r.id.type = kind.name)
    (config : Option String) (settings : Settings) {σ : Type}
    (remote : Dialogue.Remote σ Call Reply) (start : σ) :
    let attributes := kind.schema.withDefaults r.attributes
    (s.ReportsValid config path r ↔
        ¬ ((create settings r).against remote start).RejectedLocally) ↔
      ¬ (kind.schema.Admits attributes ∧ kind.Overlooks settings.pageSize attributes) := by
  intro attributes
  rw [Cli.reportsValid_iff hcontent hread hkind,
    (asksIf_create hkind).rejectedLocally_iff remote start, not_not]
  by_cases hadmits : kind.schema.Admits attributes
  · have hoverlooks : ¬ kind.Overlooks settings.pageSize attributes ↔ _ :=
      LifecycleKind.not_overlooks_iff (r := { r with attributes }) hadmits
    rw [iff_true_intro hadmits, true_iff, true_and]
    exact hoverlooks.symm
  · have hcreate : ¬ kind.Admits attributes := fun h => hadmits h.schema
    exact iff_of_true (iff_of_false hadmits fun h => hcreate h.1) fun h => hadmits h.1

/-- A route that leads straight out and yet names a gateway. -/
def gatewayRoute : Resource where
  id := ⟨"route_table_entry", "out"⟩
  attributes := .ofList
    [("route_table_id", .text "rtb-1"), ("destination_cidr_block", .text "0.0.0.0/0"),
     ("next_type", .text "EIP"), ("next_hub", .text "nat-1")]

/-- A file that declares the route. -/
def gatewayRouteText : String :=
  (Json.object [("type", .str "route_table_entry"), ("name", .str "out"),
    ("attributes", Json.object [("route_table_id", .str "rtb-1"),
      ("destination_cidr_block", .str "0.0.0.0/0"), ("next_type", .str "EIP"),
      ("next_hub", .str "nat-1")])]).compact

/-- Surroundings in which every file is the one that declares the route. -/
def gatewayRouteFiles : Cli.Surroundings where
  environment _ := none
  file _ := .ok gatewayRouteText.toUTF8.toList
  line := .ok ""
  now := 0

theorem gatewayRoute_content : Cli.resourceText "route.json"
    (gatewayRouteFiles.file "route.json") = .ok gatewayRouteText := by
  decide +kernel

theorem gatewayRoute_read : Cli.ResourceFile.read gatewayRouteText = .ok gatewayRoute := by
  decide +kernel

theorem gatewayRoute_admits : LifecycleKind.routeEntry.schema.Admits
    (LifecycleKind.routeEntry.schema.withDefaults gatewayRoute.attributes) :=
  (Schema.violations_eq_nil_iff_admits (LifecycleKind.schema_nodup _)).mp (by decide +kernel)

/-- **The file is reported as valid, and its creation is rejected.** -/
theorem gatewayRoute_valid_and_rejected :
    let run := (create ⟨"ap-guangzhou", 20, ⟨3, 1⟩⟩ gatewayRoute).against
      (Dialogue.scripted fun _ => .ok .null) []
    Cli.ResourceFile.read gatewayRouteText = .ok gatewayRoute ∧
      gatewayRouteFiles.ReportsValid none "route.json" gatewayRoute ∧ run.RejectedLocally ∧
      run.result = .error
        ⟨.invalid "next_hub must be \"0\" when next_type is EIP", some gatewayRoute.id⟩ := by
  intro run
  have hnone : run.questions.map (fun q => q.action) = [] := by decide +kernel
  have hresult : run.result = .error
      ⟨.invalid "next_hub must be \"0\" when next_type is EIP", some gatewayRoute.id⟩ := by
    decide +kernel
  refine ⟨gatewayRoute_read, ?_, ⟨List.map_eq_nil_iff.mp hnone, _, hresult, rfl⟩, hresult⟩
  have hkind : gatewayRoute.id.type = LifecycleKind.routeEntry.name := by decide +kernel
  exact (Cli.reportsValid_iff gatewayRoute_content gatewayRoute_read hkind).mpr gatewayRoute_admits

/-- The check overlooks the gateway of the route. -/
theorem validity_of_gatewayRoute :
    let attributes := LifecycleKind.routeEntry.schema.withDefaults gatewayRoute.attributes
    let run := (create ⟨"ap-guangzhou", 20, ⟨3, 1⟩⟩ gatewayRoute).against
      (Dialogue.scripted fun _ => .ok .null) []
    Cli.resourceText "route.json" (gatewayRouteFiles.file "route.json") = .ok gatewayRouteText ∧
      Cli.ResourceFile.read gatewayRouteText = .ok gatewayRoute ∧
      gatewayRoute.id.type = LifecycleKind.routeEntry.name ∧
      LifecycleKind.routeEntry.schema.Admits attributes ∧
      LifecycleKind.routeEntry.Overlooks 20 attributes ∧
      ¬ (gatewayRouteFiles.ReportsValid none "route.json" gatewayRoute ↔
        ¬ run.RejectedLocally) := by
  intro attributes run
  have hkind : gatewayRoute.id.type = LifecycleKind.routeEntry.name := by decide +kernel
  have hoverlooks : LifecycleKind.routeEntry.Overlooks 20 attributes :=
    .gateway rfl (by decide +kernel) (by decide +kernel)
  refine ⟨gatewayRoute_content, gatewayRoute_read, hkind, gatewayRoute_admits, hoverlooks,
    fun hagree => ?_⟩
  exact (validity_agrees_iff gatewayRoute_content gatewayRoute_read hkind none
    ⟨"ap-guangzhou", 20, ⟨3, 1⟩⟩ _ _).mp hagree ⟨gatewayRoute_admits, hoverlooks⟩

end Provider

end CloudProvider
