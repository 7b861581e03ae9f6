import CloudProvider.Mysql.Offer
import Mathlib.Data.List.Nodup

/-!
# The engine versions of a zone

A zone sells instances in several ways, each with versions of its own. They are gone through one
after the other, and a version that was met before is left out.

* `Mysql.FirstMet`: what it is for some items to be those of a list, in the order in which they are
  met there.
* `Mysql.FirstMet.step`, `Mysql.FirstMet.addNew`: what one more item and several more do to that.
* `Mysql.FirstMet.unique`: there is one such list of items.
* **`Mysql.Zone.engineVersions_exact`**: the versions of a zone.
-/

namespace CloudProvider.Mysql

/-- **Whether some items are those of a list**, each once and in the order in which they are first
met there. -/
structure FirstMet (all items : List String) : Prop where
  mem_iff : ∀ v, v ∈ items ↔ v ∈ all
  ordered : items.Pairwise fun v w => all.idxOf v < all.idxOf w

namespace FirstMet

variable {all items items' more : List String}

theorem nil : FirstMet [] [] := ⟨fun _ => Iff.rfl, .nil⟩

theorem nodup (h : FirstMet all items) : items.Nodup :=
  h.ordered.imp fun hlt => by
    rintro rfl
    exact Nat.lt_irrefl _ hlt

theorem step (h : FirstMet all items) (v : String) :
    FirstMet (all ++ [v]) (if v ∈ items then items else items ++ [v]) := by
  have hold {w : String} (hw : w ∈ items) : (all ++ [v]).idxOf w = all.idxOf w :=
    List.idxOf_append_of_mem ((h.mem_iff w).mp hw)
  have hordered : items.Pairwise fun w w' => (all ++ [v]).idxOf w < (all ++ [v]).idxOf w' :=
    h.ordered.imp_of_mem fun hw hw' hlt => by rwa [hold hw, hold hw']
  split
  · next hv =>
    refine ⟨fun w => ?_, hordered⟩
    rw [List.mem_append, List.mem_singleton, ← h.mem_iff, iff_self_or]
    rintro rfl
    exact hv
  · next hv =>
    refine ⟨fun w => by simp only [List.mem_append, h.mem_iff], ?_⟩
    rw [List.pairwise_append]
    refine ⟨hordered, List.pairwise_singleton _ _, fun w hw w' hw' => ?_⟩
    obtain rfl := List.mem_singleton.mp hw'
    -- The new item stands behind the whole list so far, and the others are met within it.
    have hnew : w' ∉ all := fun hall => hv ((h.mem_iff w').mpr hall)
    rw [hold hw, List.idxOf_append_of_notMem hnew]
    exact Nat.lt_of_lt_of_le (List.idxOf_lt_length_of_mem ((h.mem_iff w).mp hw))
      (Nat.le_add_right _ _)

/-- **What is put behind other items** comes after them. -/
theorem addNew (h : FirstMet all items) : FirstMet (all ++ more) (Zone.addNew items more) := by
  induction more generalizing all items with
  | nil => rwa [List.append_nil]
  | cons v more ih =>
    rw [← List.singleton_append, ← List.append_assoc]
    exact ih (h.step v)

/-- **The items of a list** are one list only. -/
theorem unique (h : FirstMet all items) (h' : FirstMet all items') : items = items' := by
  have hperm : items.Perm items' :=
    (List.perm_ext_iff_of_nodup h.nodup h'.nodup).mpr fun v =>
      (h.mem_iff v).trans (h'.mem_iff v).symm
  refine hperm.eq_of_pairwise (fun v w _ _ hlt hgt => ?_) h.ordered h'.ordered
  exact absurd hlt (Nat.lt_asymm hgt)

end FirstMet

theorem firstMet_self {items : List String} (h : items.Nodup) : FirstMet items items := by
  refine ⟨fun _ => Iff.rfl, List.pairwise_iff_getElem.mpr fun i j hi hj hij => ?_⟩
  rwa [h.idxOf_getElem, h.idxOf_getElem]

namespace Zone

/-- The versions of all the ways in which a zone sells instances, one after the other. -/
def offered (z : Zone) : List String := z.sellTypes.flatMap SellType.engineVersions

theorem firstMet_engineVersions (z : Zone) : FirstMet z.offered z.engineVersions :=
  FirstMet.nil.addNew

/-- **The engine versions of a zone** are all different, they are those of the ways in which it
sells instances, and they stand in the order in which they come first there. A zone that sells just
them, in one way, has the same versions. -/
theorem engineVersions_exact (z : Zone) :
    z.engineVersions.Nodup ∧
    (∀ v, v ∈ z.engineVersions ↔ ∃ t ∈ z.sellTypes, v ∈ t.engineVersions) ∧
    z.engineVersions.Pairwise (fun v w => z.offered.idxOf v < z.offered.idxOf w) ∧
    ∀ (other : Zone) (name : String),
      { other with sellTypes := [⟨name, z.engineVersions⟩] }.engineVersions =
        z.engineVersions := by
  have hmet := z.firstMet_engineVersions
  refine ⟨hmet.nodup, fun v => ?_, hmet.ordered, fun other name => ?_⟩
  · rw [hmet.mem_iff, offered, List.mem_flatMap]
  · have hagain : FirstMet z.engineVersions (addNew [] z.engineVersions) := FirstMet.nil.addNew
    calc _ = addNew [] ([⟨name, z.engineVersions⟩].flatMap SellType.engineVersions) := rfl
      _ = addNew [] z.engineVersions := by rw [List.flatMap_singleton]
      _ = z.engineVersions := hagain.unique (firstMet_self hmet.nodup)

end Zone

end CloudProvider.Mysql
