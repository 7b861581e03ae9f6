import CloudProvider.Proofs.Network.Records

/-!
# Operations on networks against their records

* `Network.exec_read`, `Network.exec_create`, `Network.exec_update`, `Network.exec_delete`: the
  outcome of an operation on a network, and what it does to the records.
* `Network.exec_create_refused`, `Network.exec_update_refused`, `Network.exec_update_replaced`,
  `Network.exec_update_gone`: the operations that fail, with the records as they were.
-/

namespace CloudProvider

open Operation

namespace Provider

variable {σ : Type} {remote : Dialogue.Remote σ Call Reply} {s s' : σ}

theorem exec_readBack {schema : Schema} {lifecycle : Lifecycle} {identifier : String}
    {attributes : Attributes} (hschema : ∀ d ∈ schema.attributes, d.2.writeOnly = false)
    (h : exec remote s (lifecycle.read identifier) = (.ok (some attributes), s')) (r : Resource) :
    exec remote s (readBack schema lifecycle r identifier) =
      (.ok (.existing r.id (some identifier) (schema.complete attributes)), s') := by
  rw [readBack, exec_bind_ok h]
  dsimp only
  rw [carryOver_eq_self hschema, exec_pure]

end Provider

namespace Network

open Catalog Provider

section Operations

variable {σ : Type} {remote : Dialogue.Remote σ Call Reply} {vpcs : σ → List Vpc}
  {passes : Json → Vpc → Bool} {settings : Settings}

theorem lifecycleKind_vpc {id : ResourceId} (hid : id.type = "vpc") :
    lifecycleKind id = .ok .vpc := by
  have hkind : LifecycleKind.ofName? "vpc" = some .vpc := by decide +kernel
  rw [lifecycleKind_eq_ok, hid, hkind]

theorem prepareFor_vpc (r : Resource) :
    prepareFor LifecycleKind.vpc.schema (LifecycleKind.vpc.lifecycle settings) r =
      prepare vpcSchema r :=
  prepareFor_eq fun _ => rfl

/-! ## Reads -/

theorem exec_lifecycle_read (h : KeepsVpcs remote vpcs passes) (hp : settings.pageSize ≠ 0) (s : σ)
    (identifier : String) :
    ∃ s', exec remote s ((LifecycleKind.vpc.lifecycle settings).read identifier) =
        (.ok (((vpcs s).find? fun v => v.id = identifier).map Vpc.attributes), s') ∧
      vpcs s' = vpcs s := by
  obtain ⟨s', hfind, hvpcs⟩ := exec_findVpc h hp s identifier
  exact ⟨s', exec_bind_ok hfind, hvpcs⟩

/-- **A read gives the entry**, or says that there is none. -/
theorem exec_read (h : KeepsVpcs remote vpcs passes) (hp : settings.pageSize ≠ 0) (s : σ)
    {id : ResourceId} (hid : id.type = "vpc") (identifier : String) :
    ∃ st s', exec remote s (read settings id (some identifier)) = (.ok st, s') ∧
      ReadsAs id identifier st (ledger (vpcs s) identifier) ∧ vpcs s' = vpcs s := by
  obtain ⟨s', hread, hvpcs⟩ := exec_lifecycle_read h hp s identifier
  rw [Provider.read, exec_onResource, exec_ok_bind (lifecycleKind_vpc hid)]
  dsimp only
  rw [exec_bind_ok hread, ledger]
  cases (vpcs s).find? fun v => v.id = identifier with
  | none => exact ⟨_, s', rfl, rfl, hvpcs⟩
  | some v => exact ⟨_, s', rfl, ⟨_, rfl, Entry.shown_complete v⟩, hvpcs⟩

theorem exec_readBack_of_mem (h : KeepsVpcs remote vpcs passes) (hp : settings.pageSize ≠ 0) {s : σ}
    {v : Vpc} (hv : v ∈ vpcs s) (r : Resource) :
    ∃ st s', exec remote s
        (readBack LifecycleKind.vpc.schema (LifecycleKind.vpc.lifecycle settings) r v.id) =
        (.ok st, s') ∧ v.entry.ShownBy r.id v.id st ∧ vpcs s' = vpcs s := by
  obtain ⟨s', hread, hvpcs⟩ := exec_lifecycle_read h hp s v.id
  rw [find?_of_mem (h.nodup s) hv] at hread
  exact ⟨_, s', exec_readBack vpcSchema_readBack hread r,
    ⟨_, rfl, Entry.shown_complete v⟩, hvpcs⟩

/-! ## Creations -/

theorem exec_create_refused (settings : Settings) (remote : Dialogue.Remote σ Call Reply) (s : σ)
    {r : Resource} (hr : r.id.type = "vpc") {e : Error}
    (hprepare : prepare vpcSchema r = .error e) :
    exec remote s (create settings r) = (.error (e.forResource r.id), s) := by
  rw [create, exec_onResource, exec_ok_bind (lifecycleKind_vpc hr)]
  dsimp only
  rw [exec_error_bind ((prepareFor_vpc r).trans hprepare)]
  rfl

theorem exec_lifecycle_create (h : KeepsVpcs remote vpcs passes) (s : σ) {r prepared : Resource}
    (hprepare : prepare vpcSchema r = .ok prepared) :
    ∃ v s', exec remote s ((LifecycleKind.vpc.lifecycle settings).create prepared) =
        (.ok v.id, s') ∧
      v.entry = Entry.written r [] ∧ vpcs s' = vpcs s ++ [v] := by
  obtain ⟨v, s', hcreate, hentry, hvpcs⟩ := exec_createVpc (s := s) h (Entry.written r []).name
    (Entry.written r []).cidrBlock (Entry.written r []).isMulticast (Entry.written r []).dnsServers
  refine ⟨v, s', ?_, hentry, hvpcs⟩
  change exec remote s (Lifecycle.createVpc prepared) = _
  rw [Lifecycle.createVpc, exec_ok_bind (Entry.required_name hprepare),
    exec_ok_bind (Entry.required_cidrBlock hprepare), Entry.boolOr_isMulticast hprepare,
    Entry.texts?_dnsServers hprepare, hcreate]

/-- **A conforming network is created**, under a new identifier. -/
theorem exec_create (h : KeepsVpcs remote vpcs passes) (hp : settings.pageSize ≠ 0) (s : σ)
    {r prepared : Resource} (hr : r.id.type = "vpc")
    (hprepare : prepare vpcSchema r = .ok prepared) :
    ∃ identifier st s', exec remote s (create settings r) = (.ok st, s') ∧
      (Entry.written r []).ShownBy r.id identifier st ∧ ledger (vpcs s) identifier = none ∧
      ledger (vpcs s') =
        Function.update (ledger (vpcs s)) identifier (some (Entry.written r [])) := by
  obtain ⟨v, s₁, hcreate, hentry, hvpcs₁⟩ := exec_lifecycle_create h s hprepare
  have hv : v ∈ vpcs s₁ := by simp [hvpcs₁]
  obtain ⟨st, s₂, hread, hshown, hvpcs₂⟩ := exec_readBack_of_mem h hp hv prepared
  have hid : prepared.id = r.id := by rw [(prepare_eq_ok.mp hprepare).2]
  obtain ⟨hnew, hledger⟩ := ledger_append (hvpcs₁ ▸ h.nodup s₁)
  rw [hentry] at hshown hledger
  refine ⟨v.id, st, s₂, ?_, hid ▸ hshown, hnew, by rw [hvpcs₂, hvpcs₁, hledger]⟩
  rw [create, exec_onResource, exec_ok_bind (lifecycleKind_vpc hr)]
  dsimp only
  rw [exec_ok_bind ((prepareFor_vpc r).trans hprepare), exec_bind_ok exec_event,
    exec_bind_ok (exec_logFailure.trans hcreate), exec_bind_ok exec_event, hread]
  rfl

/-! ## Updates -/

theorem exec_update_refused (settings : Settings) (remote : Dialogue.Remote σ Call Reply) (s : σ)
    {id : ResourceId} (hid : id.type = "vpc") {desired : Resource} {e : Error}
    (hprepare : prepare vpcSchema desired = .error e) (identifier : String) (current : State) :
    exec remote s (update settings id identifier current desired) =
      (.error (e.forResource id), s) := by
  rw [update, exec_onResource, exec_ok_bind (lifecycleKind_vpc hid)]
  dsimp only
  rw [exec_error_bind ((prepareFor_vpc desired).trans hprepare)]
  rfl

theorem exec_update_replaced (settings : Settings) (remote : Dialogue.Remote σ Call Reply) (s : σ)
    {id : ResourceId} (hid : id.type = "vpc") {desired prepared : Resource} {current : State}
    (hprepare : prepare vpcSchema desired = .ok prepared)
    (hreplace : vpcSchema.replacements current.attributes prepared.attributes ≠ [])
    (identifier : String) :
    ∃ e, exec remote s (update settings id identifier current desired) = (.error e, s) := by
  obtain ⟨e, he⟩ : ∃ e, checkReplacements LifecycleKind.vpc.schema current prepared = .error e := by
    cases h : checkReplacements LifecycleKind.vpc.schema current prepared with
    | error e => exact ⟨e, rfl⟩
    | ok _ => exact absurd (checkReplacements_eq_ok.mp h) hreplace
  refine ⟨e.forResource id, ?_⟩
  rw [update, exec_onResource, exec_ok_bind (lifecycleKind_vpc hid)]
  dsimp only
  rw [exec_ok_bind ((prepareFor_vpc desired).trans hprepare), exec_error_bind he]
  rfl

theorem exec_update_eq (settings : Settings) (remote : Dialogue.Remote σ Call Reply) (s : σ)
    {id : ResourceId} (hid : id.type = "vpc") {desired prepared : Resource} {current : State}
    (hprepare : prepare vpcSchema desired = .ok prepared)
    (hreplace : vpcSchema.replacements current.attributes prepared.attributes = [])
    (identifier : String) :
    exec remote s (update settings id identifier current desired) =
      exec remote s (Operation.onResource id do
        Network.modifyVpc identifier (Entry.written desired []).name
          (Entry.written desired []).isMulticast (Lifecycle.dnsServers current prepared)
        readBack LifecycleKind.vpc.schema (LifecycleKind.vpc.lifecycle settings) prepared
          identifier) := by
  have hcheck : checkReplacements LifecycleKind.vpc.schema current prepared = .ok () :=
    checkReplacements_eq_ok.mpr hreplace
  have hchange : exec remote s
      ((LifecycleKind.vpc.lifecycle settings).update identifier current prepared) =
      exec remote s (Network.modifyVpc identifier (Entry.written desired []).name
        (Entry.written desired []).isMulticast (Lifecycle.dnsServers current prepared)) := by
    change exec remote s (Lifecycle.updateVpc identifier current prepared) = _
    rw [Lifecycle.updateVpc, exec_ok_bind (Entry.required_name hprepare),
      Entry.boolOr_isMulticast hprepare]
  rw [update, exec_onResource, exec_onResource, exec_ok_bind (lifecycleKind_vpc hid)]
  dsimp only
  rw [exec_ok_bind ((prepareFor_vpc desired).trans hprepare), exec_ok_bind hcheck,
    exec_bind_ok exec_event, exec_bind, exec_logFailure, hchange, exec_bind]

theorem exec_update_gone (h : KeepsVpcs remote vpcs passes) (s : σ) {id : ResourceId}
    (hid : id.type = "vpc") {desired prepared : Resource} {current : State} {identifier : String}
    (hprepare : prepare vpcSchema desired = .ok prepared)
    (hreplace : vpcSchema.replacements current.attributes prepared.attributes = [])
    (hgone : ledger (vpcs s) identifier = none) :
    ∃ e s', exec remote s (update settings id identifier current desired) = (.error e, s') ∧
      vpcs s' = vpcs s := by
  obtain ⟨e, s', hmodify, hvpcs⟩ := exec_modifyVpc_gone h (ledger_eq_none.mp hgone)
    (Entry.written desired []).name (Entry.written desired []).isMulticast
    (Lifecycle.dnsServers current prepared)
  refine ⟨e.forResource id, s', ?_, hvpcs⟩
  rw [exec_update_eq settings remote s hid hprepare hreplace, exec_onResource,
    exec_bind_error hmodify]
  rfl

theorem getD_dnsServers {desired prepared : Resource} {current : State} {e : Entry}
    (hprepare : prepare vpcSchema desired = .ok prepared) (hshown : e.Shown current.attributes) :
    (sent (Lifecycle.dnsServers current prepared)).getD e.dnsServers =
      (Entry.written desired e.dnsServers).dnsServers := by
  have hcurrent : (current.get? "dns_servers").bind Value.texts? = some e.dnsServers := by
    rw [State.get?, hshown.dnsServers]
    exact Value.texts?_texts e.dnsServers
  rw [← Entry.texts?_dnsServers hprepare, Lifecycle.dnsServers, hcurrent]
  cases hgiven : prepared.texts? "dns_servers" with
  | none => exact getD_sent fun hnil => hnil
  | some given => exact getD_sent fun hnil => absurd hnil (Entry.ne_nil_of_texts? hprepare hgiven)

/-- **A known network is changed**, and its state given. -/
theorem exec_update (h : KeepsVpcs remote vpcs passes) (hp : settings.pageSize ≠ 0) (s : σ)
    {id : ResourceId} (hid : id.type = "vpc") {desired prepared : Resource} {current : State}
    {identifier : String} {e : Entry} (hprepare : prepare vpcSchema desired = .ok prepared)
    (hknown : ledger (vpcs s) identifier = some e) (hshown : e.Shown current.attributes)
    (hblock : (Entry.written desired e.dnsServers).cidrBlock = e.cidrBlock) :
    ∃ st s', exec remote s (update settings id identifier current desired) = (.ok st, s') ∧
      (Entry.written desired e.dnsServers).ShownBy desired.id identifier st ∧
      ledger (vpcs s') = Function.update (ledger (vpcs s)) identifier
        (some (Entry.written desired e.dnsServers)) := by
  obtain ⟨v, hv, rfl, rfl⟩ := exists_of_ledger_eq_some hknown
  have hreplace := (Entry.replacements_eq_nil hprepare hshown).mpr hblock
  let w := v.rewrite (Entry.written desired []).name (Entry.written desired []).isMulticast
    (sent (Lifecycle.dnsServers current prepared))
  have hentry : w.entry = Entry.written desired v.entry.dnsServers :=
    Entry.ext rfl hblock.symm rfl (getD_dnsServers hprepare hshown)
  obtain ⟨s₁, hmodify, hvpcs₁⟩ := exec_modifyVpc h (List.mem_map_of_mem hv)
    (Entry.written desired []).name (Entry.written desired []).isMulticast
    (Lifecycle.dnsServers current prepared)
  have hw : w ∈ vpcs s₁ := hvpcs₁ ▸ List.mem_map.mpr ⟨v, hv, if_pos rfl⟩
  obtain ⟨st, s₂, hread, hst, hvpcs₂⟩ := exec_readBack_of_mem h hp hw prepared
  have hledger : ledger (vpcs s₁) = Function.update (ledger (vpcs s)) v.id (some w.entry) := by
    rw [hvpcs₁]
    exact ledger_map (h.nodup s) hv fun _ => rfl
  have hdesired : prepared.id = desired.id := by rw [(prepare_eq_ok.mp hprepare).2]
  rw [hentry] at hst hledger
  refine ⟨st, s₂, ?_, hdesired ▸ hst, by rw [hvpcs₂, hledger]⟩
  change exec remote s₁ (readBack _ _ _ v.id) = _ at hread
  rw [exec_update_eq settings remote s hid hprepare hreplace, exec_onResource,
    exec_bind_ok hmodify, hread]
  rfl

/-! ## Removals -/

/-- **A network is removed**, if there is one. -/
theorem exec_delete (h : KeepsVpcs remote vpcs passes) (hp : settings.pageSize ≠ 0) (s : σ)
    {id : ResourceId} (hid : id.type = "vpc") (identifier : String) :
    ∃ s', exec remote s (delete settings id identifier) = (.ok (), s') ∧
      ledger (vpcs s') = Function.update (ledger (vpcs s)) identifier none := by
  obtain ⟨s₁, hfind, hvpcs₁⟩ := exec_findVpc h hp s identifier
  have hdelete : ∃ s', exec remote s
      ((LifecycleKind.vpc.lifecycle settings).delete identifier) = (.ok (), s') ∧
      ledger (vpcs s') = Function.update (ledger (vpcs s)) identifier none := by
    change ∃ s', exec remote s (Lifecycle.deleteVpc _ identifier) = _ ∧ _
    rw [Lifecycle.deleteVpc, exec_bind_ok hfind]
    cases hfound : (vpcs s).find? fun v => v.id = identifier with
    | none =>
      have hnone : ledger (vpcs s) identifier = none := by rw [ledger, hfound]; rfl
      exact ⟨s₁, rfl, by rw [hvpcs₁, ← hnone, Function.update_eq_self]⟩
    | some v =>
      have hv : v.id = identifier := by simpa using List.find?_some hfound
      have hmem : identifier ∈ (vpcs s₁).map Vpc.id :=
        hvpcs₁ ▸ hv ▸ List.mem_map_of_mem (List.mem_of_find?_eq_some hfound)
      obtain ⟨s₂, hgone, hvpcs₂⟩ := exec_deleteVpc h hmem
      refine ⟨s₂, ?_, by rw [hvpcs₂, hvpcs₁, ledger_filter]⟩
      dsimp only
      rw [Api.exec_acceptGone, hgone]
      rfl
  obtain ⟨s', hexec, hledger⟩ := hdelete
  refine ⟨s', ?_, hledger⟩
  rw [delete, exec_onResource, exec_ok_bind (lifecycleKind_vpc hid), exec_bind_ok exec_event,
    exec_logFailure, hexec]
  rfl

end Operations

end Network

end CloudProvider
