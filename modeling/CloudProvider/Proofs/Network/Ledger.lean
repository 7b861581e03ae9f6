import CloudProvider.Proofs.Network.Entry
import Mathlib.Data.List.Nodup
import Mathlib.Logic.Function.Basic

/-!
# Ledgers of networks

A ledger has an entry for each network that there is, under the identifier of the network.

* `Network.Ledger`, `Network.ReadsAs`: entries under identifiers, and what a read makes of them.
* `Network.ledger`: the ledger of some records.
* **`Network.ledger_append`**, `Network.ledger_map`, `Network.ledger_filter`: what a change of the
  records is for their ledger.
-/

namespace CloudProvider.Network

/-- **What a read of an identifier gives** for the entry under it: a state that shows the entry, or
the absence of one. -/
def ReadsAs (id : ResourceId) (identifier : String) (st : State) : Option Entry → Prop
  | some e => e.ShownBy id identifier st
  | none => st = .absent id

/-- The entries of networks, under their identifiers. -/
abbrev Ledger := String → Option Entry

/-- **The ledger of some records.** -/
def ledger (vpcs : List Vpc) : Ledger :=
  fun id => (vpcs.find? fun v => v.id = id).map Vpc.entry

theorem ledger_eq_none {vpcs : List Vpc} {id : String} :
    ledger vpcs id = none ↔ id ∉ vpcs.map Vpc.id := by
  simp [ledger, List.find?_eq_none]

theorem find?_of_nodup_map {α β : Type} [DecidableEq β] {key : α → β} {items : List α}
    (h : (items.map key).Nodup) {a : α} (ha : a ∈ items) :
    (items.find? fun b => key b = key a) = some a := by
  obtain ⟨b, hb⟩ : ∃ b, (items.find? fun b => key b = key a) = some b :=
    Option.isSome_iff_exists.mp (List.find?_isSome.mpr ⟨a, ha, by simp⟩)
  have hkey : key b = key a := by simpa using List.find?_some hb
  rw [hb, List.inj_on_of_nodup_map h (List.mem_of_find?_eq_some hb) ha hkey]

theorem find?_of_mem {vpcs : List Vpc} (h : (vpcs.map Vpc.id).Nodup) {v : Vpc} (hv : v ∈ vpcs) :
    (vpcs.find? fun w => w.id = v.id) = some v := find?_of_nodup_map h hv

theorem ledger_of_mem {vpcs : List Vpc} (h : (vpcs.map Vpc.id).Nodup) {v : Vpc} (hv : v ∈ vpcs) :
    ledger vpcs v.id = some v.entry := by
  rw [ledger, find?_of_mem h hv]
  rfl

theorem exists_of_ledger_eq_some {vpcs : List Vpc} {id : String} {e : Entry}
    (h : ledger vpcs id = some e) : ∃ v ∈ vpcs, v.id = id ∧ v.entry = e := by
  obtain ⟨v, hv, rfl⟩ := Option.map_eq_some_iff.mp h
  exact ⟨v, List.mem_of_find?_eq_some hv, by simpa using List.find?_some hv, rfl⟩

theorem ledger_append {vpcs : List Vpc} {v : Vpc} (h : ((vpcs ++ [v]).map Vpc.id).Nodup) :
    ledger vpcs v.id = none ∧
      ledger (vpcs ++ [v]) = Function.update (ledger vpcs) v.id (some v.entry) := by
  have hnew : v.id ∉ vpcs.map Vpc.id := by
    rw [List.map_append, List.nodup_append] at h
    exact fun hv => h.2.2 v.id hv v.id (by simp) rfl
  refine ⟨ledger_eq_none.mpr hnew, ?_⟩
  funext id
  by_cases hid : id = v.id
  · subst hid
    rw [Function.update_self, ledger_of_mem h (by simp)]
  · have hne : ¬ v.id = id := fun he => hid he.symm
    rw [Function.update_of_ne hid, ledger, ledger, List.find?_append]
    simp [hne]

theorem ledger_map {vpcs : List Vpc} {v : Vpc} (h : (vpcs.map Vpc.id).Nodup) (hv : v ∈ vpcs)
    {f : Vpc → Vpc} (hf : ∀ w, (f w).id = w.id) :
    ledger (vpcs.map fun w => if w.id = v.id then f w else w) =
      Function.update (ledger vpcs) v.id (some (f v).entry) := by
  have hkeep : ∀ w : Vpc, (if w.id = v.id then f w else w).id = w.id := by
    intro w
    split_ifs
    · exact hf w
    · rfl
  funext id
  rw [ledger, List.find?_map]
  have hfind : (vpcs.find? ((fun w => decide (w.id = id)) ∘ fun w =>
      if w.id = v.id then f w else w)) = vpcs.find? fun w => w.id = id := by
    simp only [Function.comp_def, hkeep]
  rw [hfind]
  by_cases hid : id = v.id
  · subst hid
    rw [Function.update_self, find?_of_mem h hv]
    simp
  · rw [Function.update_of_ne hid, ledger]
    cases hw : vpcs.find? fun w => w.id = id with
    | none => rfl
    | some w =>
      have hwid : w.id = id := by simpa using List.find?_some hw
      have hne : ¬ w.id = v.id := fun he => hid (hwid.symm.trans he)
      simp [hne]

theorem ledger_filter (vpcs : List Vpc) (id : String) :
    ledger (vpcs.filter fun v => v.id ≠ id) = Function.update (ledger vpcs) id none := by
  funext i
  rw [ledger, List.find?_filter]
  by_cases hi : i = id
  · subst hi
    rw [Function.update_self]
    refine Option.map_eq_none_iff.mpr (List.find?_eq_none.mpr fun v _ => ?_)
    simp
  · rw [Function.update_of_ne hi, ledger]
    congr 2
    funext v
    by_cases hv : v.id = i
    · have hne : ¬ v.id = id := fun he => hi (hv.symm.trans he)
      simp [hv, hi]
    · simp [hv]

end CloudProvider.Network
