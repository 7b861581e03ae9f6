import CloudProvider.Listing
import CloudProvider.Proofs.Call
import Mathlib.Tactic.SplitIfs

/-!
# The pages of a listing

* `Listing.IsLast`: whether a listing ends with a page.
* `Listing.Paged`: the pages that a listing asks for, one from where the other ends, up to the last
  one or the first that fails, and the items of all of them.
* `Listing.upTo_induction`: what holds of a listing, from page to page.
* **`Listing.yields_upTo`**: the courses of a listing are the ways to page through it.
-/

namespace CloudProvider.Listing

open Operation

variable {Q A α : Type}

/-- Whether a listing ends with a page that starts at an offset. -/
def IsLast (bound : Option Nat) (offset : Nat) (page : Page α) : Prop :=
  isEnough bound (offset + page.items.length) = true ∨ page.items.length = 0 ∨
    page.total.toNat ≤ offset + page.items.length

instance (bound : Option Nat) (offset : Nat) (page : Page α) :
    Decidable (IsLast bound offset page) := by unfold IsLast; infer_instance

/-- **The pages of a listing** from an offset on, asked for by `question` and read by `read`: every
page starts where the one before it ends, and only the last one can end the listing or fail. -/
inductive Paged (limit : UInt64) (bound : Option Nat) (question : Cursor → Q)
    (read : A → Except Error (Page α)) : Nat → List (Q × A) → Except Error (List α) → Prop
  | failed {offset : Nat} {a : A} {e : Error} (h : read a = .error e) :
      Paged limit bound question read offset [(question ⟨offset, limit⟩, a)] (.error e)
  | last {offset : Nat} {a : A} {page : Page α} (h : read a = .ok page)
      (hl : IsLast bound offset page) :
      Paged limit bound question read offset [(question ⟨offset, limit⟩, a)] (.ok page.items)
  | more {offset : Nat} {a : A} {page : Page α} {ex : List (Q × A)} {r : Except Error (List α)}
      (h : read a = .ok page) (hl : ¬ IsLast bound offset page)
      (rest : Paged limit bound question read (offset + page.items.length) ex r) :
      Paged limit bound question read offset ((question ⟨offset, limit⟩, a) :: ex)
        (r.map (page.items ++ ·))

variable {limit : UInt64} {bound : Option Nat} {question : Cursor → Q}
  {read : A → Except Error (Page α)} {fetch : Cursor → Operation Q A (Page α)}

theorem cutTo_of_not_isEnough {items : List α} (h : ¬ isEnough bound items.length = true) :
    cutTo bound items = items := by
  cases bound with
  | none => rfl
  | some n =>
    have hn : ¬ n ≤ items.length := by simpa [isEnough] using h
    exact List.take_of_length_le (by omega)

theorem collectFrom_eq (collected : List α) :
    collectFrom limit bound fetch collected collected.length =
      fetch ⟨collected.length, limit⟩ >>= fun page =>
        if IsLast bound collected.length page then
          pure (cutTo bound (collected ++ page.items))
        else
          collectFrom limit bound fetch (collected ++ page.items)
            (collected ++ page.items).length := by
  rw [collectFrom]
  congr 1
  funext page
  have hlen : (collected ++ page.items).length = collected.length + page.items.length :=
    List.length_append
  simp only [IsLast, ← hlen]
  by_cases hb : isEnough bound (collected ++ page.items).length = true
  · rw [if_pos hb, if_pos (.inl hb)]
  · rw [if_neg hb]
    by_cases hp : page.items.length = 0 ∨ page.total.toNat ≤ (collected ++ page.items).length
    · rw [if_pos hp, if_pos (.inr hp), cutTo_of_not_isEnough hb]
    · rw [if_neg hp, if_neg fun h => h.elim hb hp]

theorem sub_lt_of_not_isLast {offset : Nat} {page : Page α} (h : ¬ IsLast bound offset page) :
    UInt64.size - (offset + page.items.length) < UInt64.size - offset := by
  have := page.total.toNat_lt_size
  simp only [IsLast, not_or] at h
  omega

/-- **What holds of the end and with one more page before it** holds of a listing. -/
theorem upTo_induction {motive : Operation Q A (List α) → Prop}
    (hthrow : motive (throw (.invalid "page size must be positive")))
    (hpure : ∀ items, motive (pure items))
    (hmore : ∀ c rest, (∀ page, motive (rest page)) → motive (fetch c >>= rest)) :
    motive (upTo limit bound fetch) := by
  have hcollect : ∀ collected : List α,
      motive (collectFrom limit bound fetch collected collected.length) := by
    intro collected
    -- By how far the cursor can still go: a page that is not the last one moves it.
    induction hk : UInt64.size - collected.length using Nat.strongRecOn generalizing collected with
    | ind k ih =>
      rw [collectFrom_eq]
      refine hmore _ _ fun page => ?_
      split_ifs with hl
      · exact hpure _
      · refine ih _ ?_ _ rfl
        rw [List.length_append, ← hk]
        exact sub_lt_of_not_isLast hl
  rw [upTo]
  split_ifs
  · exact hthrow
  · exact hcollect []

theorem yields_collectFrom
    (hf : ∀ c ex r, Yields (fetch c) ex r ↔ ∃ a, ex = [(question c, a)] ∧ r = read a)
    (collected : List α) (ex : List (Q × A)) (r : Except Error (List α)) :
    Yields (collectFrom limit bound fetch collected collected.length) ex r ↔
      ∃ x, Paged limit bound question read collected.length ex x ∧
        r = x.map fun items => cutTo bound (collected ++ items) := by
  induction hk : UInt64.size - collected.length using Nat.strongRecOn
    generalizing collected ex r with | ind k ih =>
  have hmap : ∀ (items : List α) (x : Except Error (List α)),
      (x.map (items ++ ·)).map (fun items => cutTo bound (collected ++ items)) =
        x.map fun rest => cutTo bound (collected ++ items ++ rest) := by
    rintro items (e | rest)
    · rfl
    · simp only [Except.map, List.append_assoc]
  rw [collectFrom_eq, yields_bind]
  constructor
  · rintro (⟨e, h, rfl⟩ | ⟨_, page, ex₂, rfl, h, h₂⟩)
    · obtain ⟨a, rfl, ha⟩ := (hf _ _ _).mp h
      exact ⟨.error e, .failed ha.symm, rfl⟩
    · obtain ⟨a, rfl, ha⟩ := (hf _ _ _).mp h
      split_ifs at h₂ with hl
      · obtain ⟨rfl, rfl⟩ := yields_pure.mp h₂
        exact ⟨.ok page.items, .last ha.symm hl, rfl⟩
      · have hlt : UInt64.size - (collected ++ page.items).length < k := by
          rw [List.length_append, ← hk]
          exact sub_lt_of_not_isLast hl
        obtain ⟨x, hx, rfl⟩ := (ih _ hlt _ ex₂ r rfl).mp h₂
        rw [List.length_append] at hx
        exact ⟨_, .more ha.symm hl hx, (hmap _ x).symm⟩
  · rintro ⟨x, hx, rfl⟩
    cases hx with
    | failed ha => exact .inl ⟨_, (hf _ _ _).mpr ⟨_, rfl, ha.symm⟩, rfl⟩
    | @last _ a page ha hl =>
      refine .inr ⟨[_], page, [], rfl, (hf _ _ _).mpr ⟨a, rfl, ha.symm⟩, ?_⟩
      rw [if_pos hl]
      exact yields_pure.mpr ⟨rfl, rfl⟩
    | @more _ a page ex₂ y ha hl hy =>
      refine .inr ⟨[_], page, ex₂, rfl, (hf _ _ _).mpr ⟨a, rfl, ha.symm⟩, ?_⟩
      rw [if_neg hl, hmap]
      rw [← List.length_append] at hy
      exact (ih _ (by rw [List.length_append, ← hk]; exact sub_lt_of_not_isLast hl)
        _ ex₂ _ rfl).mpr ⟨y, hy, rfl⟩

/-- **The courses of a listing.** -/
theorem yields_upTo
    (hf : ∀ c ex r, Yields (fetch c) ex r ↔ ∃ a, ex = [(question c, a)] ∧ r = read a)
    (hlimit : limit ≠ 0) {ex : List (Q × A)} {r : Except Error (List α)} :
    Yields (upTo limit bound fetch) ex r ↔
      ∃ x, Paged limit bound question read 0 ex x ∧ r = x.map (cutTo bound) := by
  rw [upTo, if_neg hlimit]
  exact yields_collectFrom hf [] ex r

theorem yields_all
    (hf : ∀ c ex r, Yields (fetch c) ex r ↔ ∃ a, ex = [(question c, a)] ∧ r = read a)
    (hlimit : limit ≠ 0) {ex : List (Q × A)} {r : Except Error (List α)} :
    Yields (all limit fetch) ex r ↔ Paged limit none question read 0 ex r := by
  rw [all, yields_upTo hf hlimit]
  have hcut : ∀ x : Except Error (List α), x.map (cutTo none) = x := by
    rintro (e | items) <;> rfl
  simp only [hcut, exists_eq_right']

end CloudProvider.Listing
