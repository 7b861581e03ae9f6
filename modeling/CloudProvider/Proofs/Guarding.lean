import CloudProvider.Proofs.Sighting
import Mathlib.Data.List.Basic

/-!
# Deletes that look first

A delete of what belongs to a network looks the entity up before it asks for its deletion. It asks
once, and only if the look shows exactly one entity.

* `Lifecycle.Guarded`, **`Lifecycle.yields_delete_iff`**: the ways in which such a delete goes.
* `Finds.yields_read`: a look that has found what it finds is over.
* `Lifecycle.ReportsAbsence`: the looks that report that there is no such entity.
* **`Provider.delete_guarded`**: what such a delete asks for, and what it makes of the answers.
-/

namespace CloudProvider

open Listing Operation Api

variable {settings : Settings} {kind : LifecycleKind} {s : String} {ex : List (Call × Reply)}

/-! ## Answers for what does not exist -/

/-- Whether an exchange is answered with the code for an entity that does not exist. -/
def IsGone (x : Call × Reply) : Prop :=
  ∃ e, x.2 = .error e ∧ e.code = "ResourceNotFound"

theorem isNotFound_iff_isGone {x : Call × Reply} {e : Error} (hx : failure? x = some e) :
    isNotFound .vpc e = true ↔ IsGone x := by
  constructor
  · intro he
    obtain ⟨reported, hreply, hcode⟩ := exists_error_of_isNotFound hx he
    exact ⟨reported, hreply, List.mem_singleton.mp hcode⟩
  · obtain ⟨c, reply⟩ := x
    rintro ⟨reported, rfl, hcode⟩
    obtain rfl := Option.some.inj ((failure?_error c reported).symm.trans hx)
    exact isNotFound_iff.mpr ⟨reported, none, rfl, List.mem_singleton.mpr hcode⟩

theorem IsGone.exists_failure {x : Call × Reply} (h : IsGone x) : ∃ e, failure? x = some e := by
  obtain ⟨c, reply⟩ := x
  obtain ⟨reported, rfl, -⟩ := h
  exact ⟨_, failure?_error c reported⟩

theorem Api.resource_of_failure? {x : Call × Reply} {e : Error} (hx : failure? x = some e) :
    e.resource = none := by
  obtain ⟨reported, -, rfl⟩ | ⟨j, issue, -, -, rfl⟩ := outcomeOf_eq_error (errorOf?_eq_some.mp hx)
  · rfl
  · rfl

/-! ## Looks that are over -/

/-- **A look that has found what it finds is over.** -/
theorem Finds.yields_read (hp : settings.pageSize ≠ 0) (hkind : kind.service = .vpc) {f : Finding}
    (h : Finds settings.pageSize kind s ex f) :
    Yields ((kind.lifecycle settings).read s) ex f.settle := by
  cases h with
  | @vpc _ _ vpcs h =>
    exact yields_bind_pure.mpr ⟨_, (Network.yields_findVpc hp).mpr ⟨_, h, rfl⟩,
      Finding.settle_map (g := Option.map Network.Vpc.attributes) rfl "vpc" s vpcs⟩
  | @subnet _ _ subnets h =>
    exact yields_bind_pure.mpr ⟨_, (Network.yields_findSubnet hp).mpr ⟨_, h, rfl⟩,
      Finding.settle_map (g := Option.map Network.Subnet.attributes) rfl "subnet" s subnets⟩
  | @routeTable _ _ tables h =>
    exact yields_bind_pure.mpr ⟨_, (Network.yields_uniqueRouteTable hp).mpr ⟨_, h, rfl⟩,
      Finding.settle_map (g := Option.map Network.RouteTable.attributes) rfl "route table" s tables⟩
  | @routeEntry _ id _ tables hid h =>
    exact (Lifecycle.yields_readRouteEntry hid).mpr
      ⟨_, (Network.yields_uniqueRouteTable hp).mpr ⟨_, h, rfl⟩,
        Finding.settle_map (g := Lifecycle.entryAttributes? id) rfl "route table" id.routeTable
          tables⟩
  | account | noHolder | privilege | backupPolicy => cases hkind

theorem Lifecycle.exists_finds (hp : settings.pageSize ≠ 0) {a : Attributes}
    (h : Yields ((kind.lifecycle settings).read s) ex (.ok (some a))) :
    Sound ex ∧ ∃ f, Finds settings.pageSize kind s ex f ∧ f.candidates = [some a] := by
  generalize hr : (Except.ok (some a) : Except Error (Option Attributes)) = r at h
  cases concludes_read hp kind h with
  | noAddress _ => cases hr
  | failed _ _ =>
    simp only [ifNotFound] at hr
    split_ifs at hr
    cases hr
  | found _ hex hf => exact ⟨hex, _, hf, Finding.settle_eq_some.mp hr.symm⟩

namespace Lifecycle

/-! ## Courses -/

/-- **How a delete goes that looks first**: the look fails, it gives nothing, or the deletion
follows it. -/
inductive Guarded (settings : Settings) (kind : LifecycleKind) (s : String) :
    List (Call × Reply) → Except Error Unit → Prop
  | failed {ex : List (Call × Reply)} {e : Error}
      (h : Yields ((kind.lifecycle settings).read s) ex (.error e)) :
      Guarded settings kind s ex (.error e)
  | absent {ex : List (Call × Reply)}
      (h : Yields ((kind.lifecycle settings).read s) ex (.ok none)) :
      Guarded settings kind s ex (.ok ())
  | deleted {look : List (Call × Reply)} {attributes : Attributes} {c : Call} {reply : Reply}
      (h : Yields ((kind.lifecycle settings).read s) look (.ok (some attributes)))
      (hc : kind.deletion s = .ok c) :
      Guarded settings kind s (look ++ [(c, reply)])
        (ifNotFound .vpc () (outcomeOf c.action nothing reply))

theorem yields_guarded {α : Type} {find : Api (Option α)} {g : α → Attributes}
    {remove : Option α → Api Unit} {c : Call} {r : Except Error Unit}
    (hread : ∀ ex x, Yields ((kind.lifecycle settings).read s) ex x ↔
      ∃ y, Yields find ex y ∧ x = y.map (Option.map g))
    (hnone : remove none = pure ())
    (hsome : ∀ a, remove (some a) = acceptGone .vpc (command c.action c.request))
    (hc : kind.deletion s = .ok c) :
    Yields (find >>= remove) ex r ↔ Guarded settings kind s ex r := by
  have hremove : ∀ a ex r, Yields (remove (some a)) ex r ↔
      ∃ reply, ex = [(c, reply)] ∧ r = ifNotFound .vpc () (outcomeOf c.action nothing reply) := by
    intro a ex r
    rw [hsome, yields_acceptGone]
    constructor
    · rintro ⟨_, hx, rfl⟩
      obtain ⟨reply, rfl, rfl⟩ := yields_call.mp hx
      exact ⟨reply, rfl, rfl⟩
    · rintro ⟨reply, rfl, rfl⟩
      exact ⟨_, yields_call.mpr ⟨reply, rfl, rfl⟩, rfl⟩
  rw [yields_bind]
  constructor
  · rintro (⟨e, he, rfl⟩ | ⟨look, found, rest, rfl, hlook, hrest⟩)
    · exact .failed ((hread _ _).mpr ⟨_, he, rfl⟩)
    · have hlook := (hread _ _).mpr ⟨_, hlook, rfl⟩
      cases found with
      | none =>
        obtain ⟨rfl, rfl⟩ := yields_pure.mp (hnone ▸ hrest)
        rw [List.append_nil]
        exact .absent hlook
      | some a =>
        obtain ⟨reply, rfl, rfl⟩ := (hremove a _ _).mp hrest
        exact .deleted hlook hc
  · intro h
    cases h with
    | failed h =>
      obtain ⟨_ | _, hy, hx⟩ := (hread _ _).mp h
      · obtain rfl := Except.error.inj hx
        exact .inl ⟨_, hy, rfl⟩
      · cases hx
    | absent h =>
      obtain ⟨_ | _ | _, hy, hx⟩ := (hread _ _).mp h
      · cases hx
      · exact .inr ⟨_, _, [], (List.append_nil _).symm, hy, hnone ▸ yields_pure.mpr ⟨rfl, rfl⟩⟩
      · cases hx
    | @deleted look _ c' reply h hc' =>
      obtain rfl := Except.ok.inj (hc'.symm.trans hc)
      obtain ⟨_ | _ | a, hy, hx⟩ := (hread _ _).mp h
      · cases hx
      · cases hx
      · exact .inr ⟨look, some a, _, rfl, hy, (hremove a _ _).mpr ⟨reply, rfl, rfl⟩⟩

/-- **The courses of guarded deletes.** -/
theorem yields_delete_iff (hkind : kind.service = .vpc) {r : Except Error Unit} :
    Yields ((kind.lifecycle settings).delete s) ex r ↔ Guarded settings kind s ex r := by
  cases kind with
  | vpc | subnet | routeTable =>
    exact yields_guarded (fun _ _ => yields_bind_pure) rfl (fun _ => rfl) rfl
  | routeEntry =>
    cases hid : RouteEntryId.ofText s with
    | error e =>
      have hread : ∀ {ex x}, Yields ((LifecycleKind.routeEntry.lifecycle settings).read s) ex x →
          ex = [] ∧ x = .error e := (yields_error_bind hid).mp
      constructor
      · intro h
        obtain ⟨rfl, rfl⟩ := (yields_error_bind hid).mp h
        exact .failed ((yields_error_bind hid).mpr ⟨rfl, rfl⟩)
      · intro h
        refine (yields_error_bind hid).mpr ?_
        cases h with
        | failed h =>
          obtain ⟨rfl, he⟩ := hread h
          exact ⟨rfl, congrArg Except.error (Except.error.inj he)⟩
        | absent h => cases (hread h).2
        | deleted h _ => cases (hread h).2
    | ok address =>
      have hc : LifecycleKind.routeEntry.deletion s = .ok ⟨.deleteRoutes, Json.object
          [("RouteTableId", .str address.routeTable),
           ("Routes", .arr [Json.object [("RouteId", .int address.entry.toNat)]])]⟩ := by
        rw [LifecycleKind.deletion, hid]
        rfl
      refine (yields_ok_bind hid).trans (yields_guarded (g := id) (fun ex x => ?_) rfl
        (fun _ => rfl) hc)
      simp only [Option.map_id, Except.map_id, id_eq, exists_eq_right']
      rfl
  | account | privilege | backupPolicy => cases hkind

theorem reads_deletion (hkind : kind.service = .vpc) {c : Call} (hc : kind.deletion s = .ok c) :
    Reads c.action (outcomeOf c.action nothing) := by
  cases kind with
  | vpc | subnet | routeTable =>
    obtain rfl := Except.ok.inj hc
    exact reads_answer _
  | routeEntry =>
    cases hid : RouteEntryId.ofText s with
    | error e =>
      rw [LifecycleKind.deletion, hid] at hc
      cases hc
    | ok id =>
      rw [LifecycleKind.deletion, hid] at hc
      obtain rfl := Except.ok.inj hc
      exact reads_answer _
  | account | privilege | backupPolicy => cases hkind

/-! ## Reports -/

/-- **Whether a look reports that there is no such entity**: the remote says so, or no answer shows
it. -/
inductive ReportsAbsence (pageSize : UInt64) (kind : LifecycleKind) (s : String) :
    List (Call × Reply) → Prop
  | unknown {before : List (Call × Reply)} {x : Call × Reply} (hbefore : Sound before)
      (hx : IsGone x) (hlook : ∀ y ∈ before ++ [x], y.1.action.isDescribing = true) :
      ReportsAbsence pageSize kind s (before ++ [x])
  | unmatched {ex : List (Call × Reply)} {f : Finding} (hex : Sound ex)
      (hf : Finds pageSize kind s ex f) (hnone : f.candidates = [] ∨ f.candidates = [none]) :
      ReportsAbsence pageSize kind s ex

/-- Whether some exchanges end with the deletion, after which there is no such entity. -/
def EndsDeleted (kind : LifecycleKind) (s : String) (ex : List (Call × Reply)) : Prop :=
  ∃ before x, ex = before ++ [x] ∧ kind.deletion s = .ok x.1 ∧ (failure? x = none ∨ IsGone x)

theorem endsDeleted_append {before : List (Call × Reply)} {x : Call × Reply} :
    EndsDeleted kind s (before ++ [x]) ↔
      kind.deletion s = .ok x.1 ∧ (failure? x = none ∨ IsGone x) := by
  constructor
  · rintro ⟨before', y, hex, hy⟩
    obtain ⟨-, hlast⟩ := List.append_inj' hex rfl
    rwa [List.singleton_inj.mp hlast]
  · exact fun hx => ⟨before, x, rfl, hx⟩

theorem reportsAbsence_of_read (hp : settings.pageSize ≠ 0) (hkind : kind.service = .vpc)
    (h : Yields ((kind.lifecycle settings).read s) ex (.ok none)) :
    ReportsAbsence settings.pageSize kind s ex := by
  have hlook := looks_read settings kind s _ _ h
  generalize hr : (Except.ok none : Except Error (Option Attributes)) = r at h
  cases concludes_read hp kind h with
  | noAddress _ => cases hr
  | failed _ hb =>
    obtain ⟨before, x, rfl, hbefore, hx⟩ := hb
    rw [hkind] at hr
    obtain h' | ⟨-, e, he, hgone⟩ := ifNotFound_eq_ok.mp hr.symm
    · cases h'
    · obtain rfl := Except.error.inj he
      exact .unknown hbefore ((isNotFound_iff_isGone hx).mp hgone) hlook
  | found _ hex hf => exact .unmatched hex hf (Finding.settle_eq_none.mp hr.symm)

theorem ReportsAbsence.eq_none (hp : settings.pageSize ≠ 0) (hkind : kind.service = .vpc)
    (h : ReportsAbsence settings.pageSize kind s ex) {r : Except Error (Option Attributes)}
    (hr : Yields ((kind.lifecycle settings).read s) ex r) : r = .ok none := by
  cases h with
  | @unknown before x _ hgone _ =>
    obtain ⟨e, he⟩ := hgone.exists_failure
    have hlast : x ∈ before ++ [x] := List.mem_append_right _ (List.mem_singleton.mpr rfl)
    rw [(concludes_read hp kind hr).of_failure hlast he, hkind, ifNotFound,
      if_pos ((isNotFound_iff_isGone he).mpr hgone)]
  | unmatched _ hf hnone =>
    rw [← Finding.settle_eq_none.mpr hnone]
    exact ((hf.yields_read hp hkind).unique_of_append (by rwa [List.append_nil])).2

theorem ReportsAbsence.not_append (hp : settings.pageSize ≠ 0) (hkind : kind.service = .vpc)
    {look : List (Call × Reply)} {a : Attributes} {c : Call} {reply : Reply}
    (hlook : Yields ((kind.lifecycle settings).read s) look (.ok (some a)))
    (hc : kind.deletion s = .ok c) :
    ¬ ReportsAbsence settings.pageSize kind s (look ++ [(c, reply)]) := by
  intro h
  generalize hex : look ++ [(c, reply)] = ex at h
  cases h with
  | unknown _ _ hdescribing =>
    have h := hdescribing (c, reply) (hex ▸ List.mem_append_right _ (List.mem_singleton.mpr rfl))
    cases h.symm.trans (LifecycleKind.isDescribing_deletion hc)
  | unmatched _ hf _ =>
    subst hex
    cases (hlook.unique_of_append (hf.yields_read hp hkind)).1

namespace Guarded

variable {r : Except Error Unit}

/-- **Only the last exchange of a delete changes anything.** -/
theorem deletion_last (h : Guarded settings kind s ex r) {before after : List (Call × Reply)}
    {x : Call × Reply} (hex : ex = before ++ x :: after) (hx : x.1.action.isDescribing = false) :
    after = [] ∧ kind.deletion s = .ok x.1 ∧
      ∃ a, Yields ((kind.lifecycle settings).read s) before (.ok (some a)) := by
  have hlooks : ∀ {look r}, Yields ((kind.lifecycle settings).read s) look r → x ∉ look := by
    intro look r hlook hmem
    cases hx.symm.trans (looks_read settings kind s _ _ hlook x hmem)
  have hmem : x ∈ ex := hex ▸ List.mem_append_right before List.mem_cons_self
  cases h with
  | failed h => exact absurd hmem (hlooks h)
  | absent h => exact absurd hmem (hlooks h)
  | @deleted look a c reply h hc =>
    obtain rfl | ⟨rest, last, rfl⟩ := List.eq_nil_or_concat after
    · obtain ⟨rfl, hlast⟩ := List.append_inj' hex rfl
      obtain rfl := List.singleton_inj.mp hlast
      exact ⟨rfl, hc, a, h⟩
    · -- A change before the last exchange would be part of the look.
      rw [List.concat_eq_append, ← List.cons_append, ← List.append_assoc] at hex
      obtain ⟨rfl, -⟩ := List.append_inj' hex rfl
      exact absurd (List.mem_append_right before List.mem_cons_self) (hlooks h)

theorem eq_ok_iff (hp : settings.pageSize ≠ 0) (hkind : kind.service = .vpc)
    (h : Guarded settings kind s ex r) :
    r = .ok () ↔ ReportsAbsence settings.pageSize kind s ex ∨ EndsDeleted kind s ex := by
  have hlooks : ∀ {r}, Yields ((kind.lifecycle settings).read s) ex r →
      ¬ EndsDeleted kind s ex := by
    rintro r hread ⟨before, x, rfl, hx, -⟩
    have hlook := looks_read settings kind s _ _ hread x
      (List.mem_append_right _ (List.mem_singleton.mpr rfl))
    cases hlook.symm.trans (LifecycleKind.isDescribing_deletion hx)
  cases h with
  | failed h =>
    refine iff_of_false (fun h => by cases h) ?_
    rintro (habsent | hdeleted)
    · cases habsent.eq_none hp hkind h
    · exact hlooks h hdeleted
  | absent h => exact iff_of_true rfl (.inl (reportsAbsence_of_read hp hkind h))
  | @deleted look a c reply h hc =>
    -- The whole is no look, so only its last exchange counts.
    rw [or_iff_right (ReportsAbsence.not_append hp hkind h hc), endsDeleted_append,
      and_iff_right hc]
    have hfailure : failure? (c, reply) = errorOf? (outcomeOf c.action nothing reply) :=
      reads_deletion hkind hc c.request reply
    cases hreply : outcomeOf c.action nothing reply with
    | ok _ =>
      rw [hreply] at hfailure
      exact iff_of_true rfl (.inl hfailure)
    | error e =>
      rw [hreply] at hfailure
      rw [hfailure, ← isNotFound_iff_isGone hfailure]
      simp [ifNotFound, errorOf?]

theorem of_failure (hp : settings.pageSize ≠ 0) (hkind : kind.service = .vpc)
    (h : Guarded settings kind s ex r) {x : Call × Reply} (hx : x ∈ ex) {e : Error}
    (he : failure? x = some e) (hgone : ¬ IsGone x) : r = .error e := by
  have hreported : ∀ {α : Type} (a : α), ifNotFound .vpc a (.error e) = .error e := fun a =>
    if_neg (mt (isNotFound_iff_isGone he).mp hgone)
  have hlooks : ∀ {look found}, Yields ((kind.lifecycle settings).read s) look found →
      x ∈ look → found = .error e := by
    intro look found hread hmem
    rw [(concludes_read hp kind hread).of_failure hmem he, hkind, hreported]
  cases h with
  | failed h => exact congrArg Except.error (Except.error.inj (hlooks h hx))
  | absent h => cases hlooks h hx
  | @deleted look a c reply h hc =>
    rcases List.mem_append.mp hx with hx | hx
    · cases hlooks h hx
    · obtain rfl := List.mem_singleton.mp hx
      have hfailure := (reads_deletion hkind hc c.request reply).symm.trans he
      rw [errorOf?_eq_some.mp hfailure, hreported]

theorem of_not_isAddress (hp : settings.pageSize ≠ 0) (h : Guarded settings kind s ex r)
    (hs : ¬ kind.IsAddress s) : ex = [] ∧ ∃ m, r = .error (.invalid m) := by
  cases h with
  | failed h =>
    obtain ⟨hex, m, he⟩ := (concludes_read hp kind h).of_not_isAddress hs
    exact ⟨hex, m, congrArg Except.error (Except.error.inj he)⟩
  | absent h =>
    obtain ⟨-, m, he⟩ := (concludes_read hp kind h).of_not_isAddress hs
    cases he
  | deleted h _ =>
    obtain ⟨-, m, he⟩ := (concludes_read hp kind h).of_not_isAddress hs
    cases he

theorem of_two_le (hp : settings.pageSize ≠ 0) (hkind : kind.service = .vpc)
    {look rest : List (Call × Reply)} {f : Finding}
    (h : Guarded settings kind s (look ++ rest) r) (hf : Finds settings.pageSize kind s look f)
    (hc : 2 ≤ f.candidates.length) :
    rest = [] ∧ r = .error ⟨.ambiguous f.entity f.key f.candidates.length, none⟩ := by
  have hread := hf.yields_read hp hkind
  rw [Finding.settle_of_two_le hc] at hread
  have hlook := (yields_delete_iff hkind).mpr (.failed hread)
  exact hlook.unique_of_append ((yields_delete_iff hkind).mpr h)

end Guarded

end Lifecycle

namespace Provider

/-- **A delete of what belongs to a network is guarded by a look.**
* It changes nothing but by its last call, which asks for the deletion of just what has the
  identifier. Before it, all pages of the look have shown exactly one entity.
* It goes well exactly if the look reports that there is no such entity, or the deletion does, or
  the deletion goes well.
* Several entities are an error, and nothing is deleted.
* What is no identifier is an error before any call.
* Every other failure is the error of the delete. -/
theorem delete_guarded (hp : settings.pageSize ≠ 0) (hkind : kind.service = .vpc)
    (id : ResourceId) (hid : id.type = kind.name) (s : String) {σ : Type}
    (remote : Dialogue.Remote σ Call Reply) (start : σ) :
    let run := (delete settings id s).against remote start
    (∀ before x after, run.exchanges = before ++ x :: after → x.1.action.isDescribing = false →
      after = [] ∧ kind.deletion s = .ok x.1 ∧ Sound before ∧
        ∃ f a, Finds settings.pageSize kind s before f ∧ f.candidates = [some a]) ∧
    (run.result = .ok () ↔ Lifecycle.ReportsAbsence settings.pageSize kind s run.exchanges ∨
      Lifecycle.EndsDeleted kind s run.exchanges) ∧
    (∀ look rest f, run.exchanges = look ++ rest → Finds settings.pageSize kind s look f →
      2 ≤ f.candidates.length → rest = [] ∧
        run.result = .error ⟨.ambiguous f.entity f.key f.candidates.length, some id⟩) ∧
    (¬ kind.IsAddress s → run.exchanges = [] ∧
      ∃ m, run.result = .error ⟨.invalid m, some id⟩) ∧
    (∀ x ∈ run.exchanges, ∀ e, failure? x = some e → ¬ IsGone x →
      run.result = .error ⟨e.cause, some id⟩) := by
  intro run
  obtain ⟨y, hy, hr⟩ := (yields_delete hid).mp (yields_against remote start _)
  have h := (Lifecycle.yields_delete_iff hkind).mp hy
  have hok : run.result = .ok () ↔ y = .ok () := by
    rw [hr]
    cases y <;> simp [Except.mapError]
  refine ⟨?_, hok.trans (h.eq_ok_iff hp hkind), ?_, ?_, ?_⟩
  · intro before x after hex hx
    obtain ⟨hafter, hc, a, hread⟩ := h.deletion_last hex hx
    obtain ⟨hsound, f, hf, hcandidates⟩ := Lifecycle.exists_finds hp hread
    exact ⟨hafter, hc, hsound, f, a, hf, hcandidates⟩
  · intro look rest f hex hf hc
    obtain ⟨hrest, rfl⟩ := Lifecycle.Guarded.of_two_le hp hkind (hex ▸ h) hf hc
    exact ⟨hrest, hr⟩
  · intro hs
    obtain ⟨hex, m, rfl⟩ := h.of_not_isAddress hp hs
    exact ⟨hex, m, hr⟩
  · intro x hx e he hgone
    obtain rfl := h.of_failure hp hkind hx he hgone
    rw [hr, Except.mapError, Error.forResource, resource_of_failure? he, Option.none_or]

/-- An entry that is gone when its deletion arrives. -/
theorem delete_of_vanishing_entry :
    let settings : Settings := ⟨"ap-guangzhou", 1, ⟨3, 1⟩⟩
    let id : ResourceId := ⟨"route_table_entry", "out"⟩
    let run := (delete settings id "42.rtb-1").against (Dialogue.scripted fun _ => .ok .null)
      [.ok (Json.object [("TotalCount", .int 1), ("RouteTableSet", .arr [Json.object
        [("RouteTableId", .str "rtb-1"),
         ("RouteSet", .arr [Json.object [("RouteId", .int 42)]])]])]),
       .error ⟨"DeleteRoutes", "ResourceNotFound", "no such route", none⟩]
    settings.pageSize ≠ 0 ∧ LifecycleKind.routeEntry.service = .vpc ∧
      id.type = LifecycleKind.routeEntry.name ∧ run.result = .ok () ∧
      ∃ look deletion f a, run.exchanges = [look, deletion] ∧
        LifecycleKind.routeEntry.deletion "42.rtb-1" = .ok deletion.1 ∧
        Finds 1 .routeEntry "42.rtb-1" [look] f ∧ f.candidates = [some a] := by
  intro settings id run
  have hp : settings.pageSize ≠ 0 := by decide
  have hid : id.type = LifecycleKind.routeEntry.name := by decide
  obtain ⟨look, deletion, hex⟩ : ∃ look deletion, run.exchanges = [look, deletion] :=
    List.length_eq_two.mp (by decide +kernel)
  have hchange : ∀ x ∈ run.exchanges.getLast?, x.1.action.isDescribing = false := by
    decide +kernel
  obtain ⟨-, hdeletion, -, f, a, hf, ha⟩ := (delete_guarded hp rfl id hid "42.rtb-1" _ _).1
    [look] deletion [] hex (hchange deletion (hex ▸ rfl))
  exact ⟨hp, rfl, hid, by decide +kernel, look, deletion, f, a, hex, hdeletion, hf, ha⟩

end Provider

end CloudProvider
