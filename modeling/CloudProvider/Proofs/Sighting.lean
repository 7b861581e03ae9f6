import CloudProvider.Proofs.Deletion

/-!
# Entities that are seen and then missed

The pages of a listing are one answer: if one of them fails, those before it do not count, and a
failure that says that there is no such entity counts even when an earlier page shows it.

* `Sighting`: the pages that show the entity with an identifier.
* `LifecycleKind.deletion`: the call that deletes it.
* `Lifecycle.read_none_iff_of_sighting`: when a read misses an entity that a page shows.
* `Lifecycle.Deletes`: the ways in which a delete goes.
* **`Provider.missed_iff_of_sighting`**: when an entity that was seen counts as absent.
-/

namespace CloudProvider

open Listing Operation Api

/-! ## Sightings -/

/-- The items of a page, if there is one. -/
def Listing.shownItems {α : Type} : Except Error (Page α) → List α
  | .ok page => page.items
  | .error _ => []

/-- **Whether an exchange is a page that shows the entity of a kind with an identifier**, for the
kinds whose entities are listed. -/
def Sighting (s : String) : LifecycleKind → Call × Reply → Prop
  | .vpc, x => x.1.action = .describeVpcs ∧
    ∃ v ∈ shownItems (answer .describeVpcs x.2), v.id = s
  | .subnet, x => x.1.action = .describeSubnets ∧
    ∃ n ∈ shownItems (answer .describeSubnets x.2), n.id = s
  | .routeTable, x => x.1.action = .describeRouteTables ∧
    ∃ t ∈ shownItems (answer .describeRouteTables x.2), t.id = s
  | .account, x => x.1.action = .describeAccounts ∧
    ∃ a ∈ shownItems (answer .describeAccounts x.2),
      (CompositeId.two s Mysql.Account.idShape).map Prod.snd = .ok a.user ∧ a.host = "%"
  | .routeEntry, _ | .privilege, _ | .backupPolicy, _ => False

instance (s : String) : (kind : LifecycleKind) → (x : Call × Reply) → Decidable (Sighting s kind x)
  | .vpc, _ | .subnet, _ | .routeTable, _ | .account, _ => inferInstanceAs (Decidable (_ ∧ _))
  | .routeEntry, _ | .privilege, _ | .backupPolicy, _ => inferInstanceAs (Decidable False)

theorem Listing.Paged.shownItems_subset {Q A α : Type} {limit : UInt64} {bound : Option Nat}
    {question : Cursor → Q} {read : A → Except Error (Page α)} {offset : Nat} {ex : List (Q × A)}
    {r : Except Error (List α)} (h : Paged limit bound question read offset ex r)
    {items : List α} (hr : r = .ok items) {x : Q × A} (hx : x ∈ ex) :
    shownItems (read x.2) ⊆ items := by
  induction h generalizing items with
  | failed _ => cases hr
  | last ha _ =>
    obtain rfl := Except.ok.inj hr
    rw [List.mem_singleton.mp hx, ha]
    exact List.Subset.refl _
  | @more _ a first ex r ha _ _ ih =>
    cases r with
    | error e => cases hr
    | ok rest =>
      obtain rfl := Except.ok.inj hr
      rcases List.mem_cons.mp hx with rfl | hx
      · rw [ha]
        exact List.subset_append_left _ _
      · exact List.subset_append_of_subset_right _ (ih rfl hx)

variable {pageSize : UInt64} {settings : Settings} {kind : LifecycleKind} {s : String}
  {ex : List (Call × Reply)} {x : Call × Reply}

theorem Finds.exists_candidate {f : Finding} (h : Finds pageSize kind s ex f) (hx : x ∈ ex)
    (hs : Sighting s kind x) : ∃ a, some a ∈ f.candidates := by
  cases h with
  | vpc hpages =>
    obtain ⟨-, v, hv, -⟩ := hs
    exact ⟨_, List.mem_map_of_mem (hpages.shownItems_subset rfl hx hv)⟩
  | subnet hpages =>
    obtain ⟨-, n, hn, -⟩ := hs
    exact ⟨_, List.mem_map_of_mem (hpages.shownItems_subset rfl hx hn)⟩
  | routeTable hpages =>
    obtain ⟨-, t, ht, -⟩ := hs
    exact ⟨_, List.mem_map_of_mem (hpages.shownItems_subset rfl hx ht)⟩
  | account hid hpages =>
    obtain ⟨-, a, ha, huser, hhost⟩ := hs
    rw [hid] at huser
    obtain rfl := Except.ok.inj huser
    have hof : Mysql.Account.isOf a.user a = true := by
      simp [Mysql.Account.isOf, Mysql.anyHost, hhost]
    have hlisted := hpages.shownItems_subset rfl hx ha
    exact ⟨_, List.mem_map_of_mem (List.mem_filter.mpr ⟨hlisted, hof⟩)⟩
  | routeEntry | noHolder | privilege | backupPolicy => exact hs.elim

namespace Lifecycle

/-! ## Reads -/

theorem asksOnly_listed {α β : Type} {P : Call → Prop} {service : Service} {entity key : String}
    {fetch : Cursor → Api (Page α)} {g : α → β} (h : ∀ c, AsksOnly P (fetch c)) :
    AsksOnly P (orIfNotFound service (Listing.all pageSize fetch) [] >>=
      Lookup.unique entity key >>= fun found => pure (found.map g) : Api (Option β)) :=
  AsksOnly.bind (AsksOnly.bind (asksOnly_orIfNotFound (asksOnly_upTo h)) fun _ =>
    Lookup.asksOnly_unique) fun _ => asksOnly_pure

theorem asksOnly_of_sighting (settings : Settings) (hs : Sighting s kind x) :
    AsksOnly (fun c : Call => c.action = x.1.action) ((kind.lifecycle settings).read s) := by
  cases kind with
  | vpc | subnet | routeTable =>
    rw [hs.1]
    exact asksOnly_listed fun _ => asksOnly_call (by rfl)
  | account =>
    rw [hs.1]
    exact asksOnly_readAccount settings (fun _ => rfl) s
  | routeEntry | privilege | backupPolicy => exact hs.elim

/-- Whether a page of a listing is refused because there is no such entity. -/
def Misses (kind : LifecycleKind) (listing : Action) (ex : List (Call × Reply)) : Prop :=
  ∃ q e, (q, .error e) ∈ ex ∧ q.action = listing ∧ e.code ∈ kind.service.notFoundCodes

theorem eq_none_of_misses (hp : settings.pageSize ≠ 0) {r : Except Error (Option Attributes)}
    (h : Yields ((kind.lifecycle settings).read s) ex r) {listing : Action}
    (hm : Misses kind listing ex) : r = .ok none := by
  obtain ⟨q, e, hq, -, he⟩ := hm
  rw [(concludes_read hp kind h).of_failure hq (failure?_error q e)]
  exact if_pos (isNotFound_iff.mpr ⟨e, none, rfl, he⟩)

/-- **A read misses an entity that a page shows** if another page is refused. -/
theorem read_none_iff_of_sighting (hp : settings.pageSize ≠ 0)
    {r : Except Error (Option Attributes)} (h : Yields ((kind.lifecycle settings).read s) ex r)
    (hx : x ∈ ex) (hs : Sighting s kind x) : r = .ok none ↔ Misses kind x.1.action ex := by
  constructor
  · intro hr
    rcases (concludes_read hp kind h).of_eq_none hr with ⟨q, e, hq, he⟩ | ⟨-, f, hf, hnone⟩
    · exact ⟨q, e, hq, asksOnly_of_sighting settings hs _ _ h _ hq, he⟩
    · obtain ⟨a, ha⟩ := hf.exists_candidate hx hs
      rcases hnone with hnone | hnone <;> simp [hnone] at ha
  · exact eq_none_of_misses hp h

end Lifecycle

/-! ## Deletes -/

/-- **The call that deletes the entity of a kind with an identifier.** -/
def LifecycleKind.deletion : LifecycleKind → String → Except Error Call
  | .vpc, id => .ok ⟨.deleteVpc, Json.object [("VpcId", .str id)]⟩
  | .subnet, id => .ok ⟨.deleteSubnet, Json.object [("SubnetId", .str id)]⟩
  | .routeTable, id => .ok ⟨.deleteRouteTable, Json.object [("RouteTableId", .str id)]⟩
  | .routeEntry, s => (RouteEntryId.ofText s).map fun id =>
    ⟨.deleteRoutes, Json.object
      [("RouteTableId", .str id.routeTable),
       ("Routes", .arr [Json.object [("RouteId", .int id.entry.toNat)]])]⟩
  | .account, s => LifecycleKind.account.removal s
  | .privilege, s => LifecycleKind.privilege.removal s
  | .backupPolicy, mysqlId => .ok ⟨.modifyBackupConfig, Json.object
      [("InstanceId", .str mysqlId), ("ExpireDays", .int Catalog.defaultRetention.toInt),
       ("StartTime", .str Catalog.defaultBackupWindow),
       ("BackupMethod", .str Catalog.defaultBackupMethod)]⟩

theorem LifecycleKind.isDescribing_deletion {kind : LifecycleKind} {s : String} {c : Call}
    (h : kind.deletion s = .ok c) : c.action.isDescribing = false := by
  cases kind with
  | vpc | subnet | routeTable | backupPolicy =>
    obtain rfl := Except.ok.inj h
    rfl
  | routeEntry =>
    rw [deletion] at h
    cases hid : RouteEntryId.ofText s with
    | error e =>
      rw [hid] at h
      cases h
    | ok id =>
      rw [hid] at h
      obtain rfl := Except.ok.inj h
      rfl
  | account =>
    have hremoval : LifecycleKind.account.removal s = .ok c := h
    exact isDescribing_removal hremoval
  | privilege =>
    have hremoval : LifecycleKind.privilege.removal s = .ok c := h
    exact isDescribing_removal hremoval

namespace Lifecycle

/-- **How a delete goes**, by what its look gives: the look fails, it gives nothing, or the deletion
follows it, and no page of the listing follows the look. -/
inductive Deletes (settings : Settings) (kind : LifecycleKind) (s : String) (listing : Action) :
    List (Call × Reply) → Except Error Unit → Prop
  | failed {ex : List (Call × Reply)} {e : Error}
      (h : Yields ((kind.lifecycle settings).read s) ex (.error e)) :
      Deletes settings kind s listing ex (.error e)
  | absent {ex : List (Call × Reply)}
      (h : Yields ((kind.lifecycle settings).read s) ex (.ok none)) :
      Deletes settings kind s listing ex (.ok ())
  | deleted {look rest : List (Call × Reply)} {attributes : Attributes} {r : Except Error Unit}
      (h : Yields ((kind.lifecycle settings).read s) look (.ok (some attributes)))
      (hdeletion : ∃ x ∈ rest, kind.deletion s = .ok x.1)
      (hrest : ∀ x ∈ rest, x.1.action ≠ listing) :
      Deletes settings kind s listing (look ++ rest) r

theorem deletes_of_find {α : Type} {find : Api (Option α)} {g : α → Attributes}
    {remove : Option α → Api Unit} {listing : Action} {r : Except Error Unit}
    (hread : ∀ ex x, Yields find ex x →
      Yields ((kind.lifecycle settings).read s) ex (x.map (Option.map g)))
    (hnone : remove none = pure ())
    (hsome : ∀ a ex r, Yields (remove (some a)) ex r →
      (∃ x ∈ ex, kind.deletion s = .ok x.1) ∧ ∀ x ∈ ex, x.1.action ≠ listing)
    (h : Yields (find >>= remove) ex r) : Deletes settings kind s listing ex r := by
  rcases yields_bind.mp h with ⟨e, he, rfl⟩ | ⟨look, found, rest, rfl, hlook, hrest⟩
  · exact .failed (hread _ _ he)
  · cases found with
    | none =>
      rw [hnone] at hrest
      obtain ⟨rfl, rfl⟩ := yields_pure.mp hrest
      rw [List.append_nil]
      exact .absent (hread _ _ hlook)
    | some a =>
      obtain ⟨hdeletion, hother⟩ := hsome a _ _ hrest
      exact .deleted (hread _ _ hlook) hdeletion hother

theorem deletes_at_once {α : Type} {find : Api (Option α)} {g : α → Attributes}
    {remove : Option α → Api Unit} {c : Call} {listing : Action} {r : Except Error Unit}
    (hread : (kind.lifecycle settings).read s = find >>= fun found => pure (found.map g))
    (hnone : remove none = pure ())
    (hsome : ∀ a, remove (some a) = acceptGone .vpc (command c.action c.request))
    (hc : kind.deletion s = .ok c) (hlisting : c.action ≠ listing)
    (h : Yields (find >>= remove) ex r) : Deletes settings kind s listing ex r := by
  have hread : ∀ ex x, Yields find ex x →
      Yields ((kind.lifecycle settings).read s) ex (x.map (Option.map g)) :=
    fun ex x hx => hread ▸ yields_bind_pure.mpr ⟨x, hx, rfl⟩
  refine deletes_of_find hread hnone (fun a ex r hy => ?_) h
  rw [hsome] at hy
  obtain ⟨_, hx, -⟩ := yields_acceptGone.mp hy
  obtain ⟨reply, rfl, -⟩ := yields_call.mp hx
  exact ⟨⟨_, List.mem_singleton.mpr rfl, hc⟩, List.forall_mem_singleton.mpr hlisting⟩

theorem questions_of_deletion {action : Action} {request : Json} {r : Except Error Unit}
    (h : Yields (orIfNotFound .cdb (some <$> Mysql.requested action request) none >>= fun
      | none => pure ()
      | some requestId => Mysql.await settings.polling requestId) ex r) :
    ∃ reply polls, ex = (⟨action, request⟩, reply) :: polls ∧
      ∀ x ∈ polls, x.1.action = .describeAsyncRequestInfo := by
  have hfirst : ∀ ex r, Yields (orIfNotFound .cdb (some <$> Mysql.requested action request) none)
      ex r → ∃ reply, ex = [(⟨action, request⟩, reply)] := by
    intro ex r hy
    rw [← bind_pure_comp] at hy
    obtain ⟨_, hx, -⟩ := yields_orIfNotFound.mp hy
    obtain ⟨_, hz, -⟩ := yields_bind_pure.mp hx
    obtain ⟨reply, rfl, -⟩ := Mysql.yields_requested.mp hz
    exact ⟨reply, rfl⟩
  rcases yields_bind.mp h with ⟨e, he, -⟩ | ⟨_, found, polls, rfl, h₁, h₂⟩
  · obtain ⟨reply, rfl⟩ := hfirst _ _ he
    exact ⟨reply, [], rfl, fun _ hx => absurd hx List.not_mem_nil⟩
  · obtain ⟨reply, rfl⟩ := hfirst _ _ h₁
    refine ⟨reply, polls, rfl, fun x hx => ?_⟩
    cases found with
    | none =>
      rw [(yields_pure.mp h₂).1] at hx
      exact absurd hx List.not_mem_nil
    | some id => rw [Mysql.question_of_mem_polls (Mysql.yields_await.mp h₂) hx, Mysql.poll]

theorem deletes_of_sighting {r : Except Error Unit} (hs : Sighting s kind x)
    (h : Yields ((kind.lifecycle settings).delete s) ex r) :
    Deletes settings kind s x.1.action ex r := by
  cases kind with
  | vpc | subnet | routeTable =>
    rw [hs.1]
    exact deletes_at_once rfl rfl (fun _ => rfl) rfl (by rintro ⟨⟩) h
  | account =>
    obtain ⟨haction, a, -, huser, -⟩ := hs
    rw [haction]
    obtain ⟨mysqlId, hid⟩ : ∃ mysqlId,
        CompositeId.two s Mysql.Account.idShape = .ok (mysqlId, a.user) := by
      cases hid : CompositeId.two s Mysql.Account.idShape with
      | error e =>
        rw [hid] at huser
        cases huser
      | ok id =>
        obtain ⟨mysqlId, name⟩ := id
        rw [hid] at huser
        obtain rfl : name = a.user := Except.ok.inj huser
        exact ⟨mysqlId, rfl⟩
    have hc : LifecycleKind.account.deletion s = .ok (Mysql.accountRemoval mysqlId a.user) := by
      rw [LifecycleKind.deletion, LifecycleKind.removal, hid]
      rfl
    refine deletes_of_find (g := id) ?_ rfl ?_ ((yields_ok_bind hid).mp h)
    · intro ex x hy
      rwa [Option.map_id, Except.map_id]
    · intro _ ex r hy
      obtain ⟨reply, polls, rfl, hpolls⟩ := questions_of_deletion hy
      have hother : Action.deleteAccounts ≠ .describeAccounts := by decide
      refine ⟨⟨_, List.mem_cons_self, hc⟩, List.forall_mem_cons.mpr ⟨hother, ?_⟩⟩
      intro x hx
      rw [hpolls x hx]
      decide
  | routeEntry | privilege | backupPolicy => exact hs.elim

theorem Deletes.missed_iff (hp : settings.pageSize ≠ 0) {r : Except Error Unit}
    (h : Deletes settings kind s x.1.action ex r) (hx : x ∈ ex) (hs : Sighting s kind x) :
    r = .ok () ∧ (∀ y ∈ ex, kind.deletion s ≠ .ok y.1) ↔ Misses kind x.1.action ex := by
  cases h with
  | failed hread =>
    refine iff_of_false (fun h => nomatch h.1) fun hm => ?_
    cases eq_none_of_misses hp hread hm
  | absent hread =>
    refine iff_of_true ⟨rfl, fun y hy hdeletion => ?_⟩
      ((read_none_iff_of_sighting hp hread hx hs).mp rfl)
    have hlooks := looks_read settings kind s _ _ hread y hy
    cases hlooks.symm.trans (LifecycleKind.isDescribing_deletion hdeletion)
  | @deleted look rest attributes r hread hdeletion hrest =>
    -- Neither side holds: no page of the look was refused, since it found the entity.
    obtain ⟨y, hy, hdeletion⟩ := hdeletion
    refine iff_of_false (fun h => h.2 y (List.mem_append_right look hy) hdeletion) ?_
    rintro ⟨q, e, hq, hlisting, he⟩
    rcases List.mem_append.mp hq with hq | hq
    · cases eq_none_of_misses hp hread ⟨q, e, hq, hlisting, he⟩
    · exact hrest _ hq hlisting

end Lifecycle

namespace Provider

theorem yields_delete {id : ResourceId} (hid : id.type = kind.name) {r : Except Error Unit} :
    Yields (delete settings id s) ex r ↔
      ∃ y, Yields ((kind.lifecycle settings).delete s) ex y ∧
        r = y.mapError fun e => e.forResource id := by
  rw [delete, yields_onResource]
  refine exists_congr fun y => and_congr_left fun _ => ?_
  refine (yields_ok_bind (lifecycleKind_of_type hid)).trans ?_
  exact yields_log_bind.trans yields_logFailure

/-- **When an entity that was seen counts as absent**: exactly if another page of the same listing
is refused because there is no such entity. Then a read gives no state, and a delete is reported
done without its deletion. -/
theorem missed_iff_of_sighting (hp : settings.pageSize ≠ 0) (kind : LifecycleKind)
    (id : ResourceId) (hid : id.type = kind.name) (s : String) {σ : Type}
    (remote : Dialogue.Remote σ Call Reply) (start : σ) :
    (let run := (read settings id (some s)).against remote start
     ∀ x ∈ run.exchanges, Sighting s kind x →
      (run.result = .ok (.absent id) ↔ Lifecycle.Misses kind x.1.action run.exchanges)) ∧
    (let run := (delete settings id s).against remote start
     ∀ x ∈ run.exchanges, Sighting s kind x →
      (run.result = .ok () ∧ (∀ q ∈ run.questions, kind.deletion s ≠ .ok q) ↔
        Lifecycle.Misses kind x.1.action run.exchanges)) := by
  constructor
  · intro run x hx hs
    have hk : LifecycleKind.ofName? id.type = some kind := by rw [hid, kind.ofName?_name]
    obtain ⟨y, hy, hr⟩ := (yields_read hk).mp (yields_against remote start _)
    rw [hr, ← Lifecycle.read_none_iff_of_sighting hp hy hx hs]
    match y with
    | .error e => simp [Except.map, Except.mapError]
    | .ok none => simp [Except.map, Except.mapError, shown]
    | .ok (some a) => simp [Except.map, Except.mapError, shown]
  · intro run x hx hs
    obtain ⟨y, hy, hr⟩ := (yields_delete hid).mp (yields_against remote start _)
    have hok : run.result = .ok () ↔ y = .ok () := by
      rw [hr]
      cases y <;> simp [Except.mapError]
    rw [hok, Dialogue.Run.questions_eq, List.forall_mem_map]
    exact (Lifecycle.deletes_of_sighting hs hy).missed_iff hp hx hs

/-- A subnet that the first page shows, and the second page refuses. -/
theorem missed_subnet_of_refused_page :
    let settings : Settings := ⟨"ap-guangzhou", 1, ⟨3, 1⟩⟩
    let id : ResourceId := ⟨"subnet", "web"⟩
    let run := (read settings id (some "subnet-1")).against (Dialogue.scripted fun _ => .ok .null)
      [.ok (Json.object [("TotalCount", .int 2),
        ("SubnetSet", .arr [Json.object [("SubnetId", .str "subnet-1")]])]),
       .error ⟨"DescribeSubnets", "ResourceNotFound", "subnet not found", none⟩]
    settings.pageSize ≠ 0 ∧ id.type = LifecycleKind.subnet.name ∧
      ∃ x ∈ run.exchanges, Sighting "subnet-1" .subnet x ∧
        Lifecycle.Misses .subnet x.1.action run.exchanges := by
  intro settings id run
  have hp : settings.pageSize ≠ 0 := by decide
  have hid : id.type = LifecycleKind.subnet.name := by decide
  obtain ⟨x, hx, hs⟩ : ∃ x ∈ run.exchanges, Sighting "subnet-1" .subnet x := by decide +kernel
  have habsent : run.result = .ok (.absent id) := by decide +kernel
  refine ⟨hp, hid, x, hx, hs, ?_⟩
  exact ((missed_iff_of_sighting hp .subnet id hid "subnet-1" _ _).1 x hx hs).mp habsent

/-- **An account is not deleted although it was seen.** -/
theorem delete_of_seen_account :
    let settings : Settings := ⟨"ap-guangzhou", 1, ⟨3, 1⟩⟩
    let id : ResourceId := ⟨"mysql_account", "app"⟩
    let run := (delete settings id "cdb-1#app").against (Dialogue.scripted fun _ => .ok .null)
      [.ok (Json.object [("TotalCount", .int 2),
        ("Items", .arr [Json.object [("User", .str "app"), ("Host", .str "%")]])]),
       .error ⟨"DescribeAccounts", "InvalidParameter", "instance not found", none⟩]
    1 ≤ settings.pageSize ∧ (∃ x ∈ run.exchanges, Sighting "cdb-1#app" .account x) ∧
      run.result = .ok () ∧ ∀ q ∈ run.questions, q.action ≠ .deleteAccounts := by
  decide +kernel

end Provider

end CloudProvider
