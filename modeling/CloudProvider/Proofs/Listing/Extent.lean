import CloudProvider.Proofs.Listing.Pages
import Mathlib.Algebra.Order.Floor.Div

/-!
# How far a listing goes

A listing goes on from page to page until an answer ends it. Where that is depends on the answers
alone, and a remote that tells the truth about some items is asked until all of them are there.

* `Listing.collected`, `Listing.Ends`: the items of the first pages, and why a listing ends.
* **`Listing.upTo_inTurn`**: a listing of any sequence of answers ends with the first that ends it.
* `Listing.Truthful`, `Listing.Fills`: remotes that answer with windows of some items, of any length
  or as long as they can be.
* **`Listing.complete_of_truthful`**: their listings are complete.
-/

namespace CloudProvider

namespace Listing

open Operation

variable {Q A α σ : Type} {limit : UInt64} {bound : Option Nat} {question : Cursor → Q}
  {read : A → Except Error (Page α)} {fetch : Cursor → Operation Q A (Page α)} {offset : Nat}
  {ex : List (Q × A)} {x : Except Error (List α)}

/-! ## Sequences of answers -/

/-- What is received with an answer; a failure brings no items. -/
def received : Except Error (Page α) → List α
  | .ok page => page.items
  | .error _ => []

/-- The items of the first `k` pages, in order. -/
def collected (pages : Nat → Except Error (Page α)) (k : Nat) : List α :=
  (List.range k).flatMap fun i => received (pages i)

/-- **Why a listing ends with the answer at an index**: it is a failure, the bound is reached, the
page is empty, or there are as many items as it says that there are in all. -/
inductive Ends (bound : Option Nat) (pages : Nat → Except Error (Page α)) (k : Nat) : Prop
  | failed {e : Error} (h : pages k = .error e)
  | enough {n : Nat} (hbound : bound = some n) (h : n ≤ (collected pages (k + 1)).length)
  | empty {page : Page α} (h : pages k = .ok page) (hempty : page.items = [])
  | reached {page : Page α} (h : pages k = .ok page)
      (htotal : page.total.toNat ≤ (collected pages (k + 1)).length)

/-- **The result of a listing that ends with the answer at an index**: that very failure, or the
items up to there, cut to the bound. -/
def resultAt (bound : Option Nat) (pages : Nat → Except Error (Page α)) (k : Nat) :
    Except Error (List α) :=
  match pages k, bound with
  | .error e, _ => .error e
  | .ok _, none => .ok (collected pages (k + 1))
  | .ok _, some n => .ok ((collected pages (k + 1)).take n)

section Sequence

variable {pages : Nat → Except Error (Page α)} {k : Nat}

theorem collected_succ (pages : Nat → Except Error (Page α)) (k : Nat) :
    collected pages (k + 1) = collected pages k ++ received (pages k) := by
  simp [collected, List.range_succ]

theorem length_collected_succ {page : Page α} (h : pages k = .ok page) :
    (collected pages (k + 1)).length = (collected pages k).length + page.items.length := by
  rw [collected_succ, h, List.length_append, received]

theorem resultAt_of_error {e : Error} (h : pages k = .error e) :
    resultAt bound pages k = .error e := by
  unfold resultAt
  rw [h]

theorem resultAt_of_ok {page : Page α} (h : pages k = .ok page) :
    resultAt bound pages k = .ok (cutTo bound (collected pages k ++ page.items)) := by
  unfold resultAt
  rw [h, collected_succ, h]
  cases bound <;> rfl

theorem ends_iff_isLast {page : Page α} (h : pages k = .ok page) :
    Ends bound pages k ↔ IsLast bound (collected pages k).length page := by
  rw [IsLast, ← length_collected_succ h]
  constructor
  · rintro (he | ⟨rfl, hn⟩ | ⟨hp, hempty⟩ | ⟨hp, htotal⟩)
    · cases h.symm.trans he
    · exact .inl (by simpa [isEnough] using hn)
    · obtain rfl := Except.ok.inj (h.symm.trans hp)
      exact .inr (.inl (by rw [hempty, List.length_nil]))
    · obtain rfl := Except.ok.inj (h.symm.trans hp)
      exact .inr (.inr htotal)
  · rintro (henough | hempty | htotal)
    · cases hbound : bound with
      | none => simp [isEnough, hbound] at henough
      | some n => exact .enough rfl (by simpa [isEnough, hbound] using henough)
    · exact .empty h (List.length_eq_zero_iff.mp hempty)
    · exact .reached h htotal

theorem exists_page_of_not_ends (h : ¬ Ends bound pages k) :
    ∃ page, pages k = .ok page ∧ page.items ≠ [] ∧
      (collected pages (k + 1)).length < page.total.toNat := by
  cases hk : pages k with
  | error e => exact absurd (.failed hk) h
  | ok page =>
    refine ⟨page, rfl, fun hempty => h (.empty hk hempty), ?_⟩
    have htotal : ¬ page.total.toNat ≤ (collected pages (k + 1)).length :=
      fun htotal => h (.reached hk htotal)
    omega

theorem le_length_collected (h : ∀ i < k, ¬ Ends bound pages i) :
    k ≤ (collected pages k).length := by
  induction k with
  | zero => exact Nat.zero_le _
  | succ k ih =>
    obtain ⟨page, hk, hne, -⟩ := exists_page_of_not_ends (h k (Nat.lt_succ_self k))
    have hbefore : k ≤ (collected pages k).length :=
      ih fun i hi => h i (Nat.lt_succ_of_lt hi)
    have hlength : 0 < page.items.length := List.length_pos_iff.mpr hne
    rw [length_collected_succ hk]
    omega

theorem succ_le_max {total : Nat} (h : ∀ i < k, ¬ Ends bound pages i)
    (htotal : ∀ i < k, ∀ page, pages i = .ok page → page.total.toNat ≤ total) :
    k + 1 ≤ max 1 total := by
  cases k with
  | zero => exact Nat.le_max_left 1 total
  | succ k =>
    -- The last page but one has brought at least as many items as there are pages up to it.
    obtain ⟨page, hk, -, hmore⟩ := exists_page_of_not_ends (h k (Nat.lt_succ_self k))
    have hcollected : k + 1 ≤ (collected pages (k + 1)).length := le_length_collected h
    have hreported : page.total.toNat ≤ total := htotal k (Nat.lt_succ_self k) page hk
    omega

theorem Paged.exists_ends (h : Paged limit bound question read offset ex x)
    (hoffset : offset = (collected pages k).length)
    (hex : ex.map (fun x => read x.2) = (List.range' k ex.length).map pages) :
    ∃ n, k ≤ n ∧ Ends bound pages n ∧ (∀ i, k ≤ i → i < n → ¬ Ends bound pages i) ∧
      ex.map Prod.fst = (List.range' k (n + 1 - k)).map (fun i =>
        question ⟨(collected pages i).length, limit⟩) ∧
      (x.map fun items => cutTo bound (collected pages k ++ items)) = resultAt bound pages n := by
  induction h generalizing k with
  | @failed offset a e ha =>
    have hk : pages k = .error e := by simpa [ha] using hex.symm
    refine ⟨k, le_rfl, .failed hk, fun i hi hlt => by omega, ?_, ?_⟩
    · simp [hoffset]
    · rw [resultAt_of_error hk, Except.map]
  | @last offset a page ha hl =>
    have hk : pages k = .ok page := by simpa [ha] using hex.symm
    rw [hoffset] at hl
    refine ⟨k, le_rfl, (ends_iff_isLast hk).mpr hl, fun i hi hlt => by omega, ?_, ?_⟩
    · simp [hoffset]
    · rw [resultAt_of_ok hk, Except.map]
  | @more offset a page ex x ha hl _ ih =>
    rw [List.length_cons, List.range'_succ, List.map_cons, List.map_cons, List.cons.injEq] at hex
    have hk : pages k = .ok page := hex.1.symm.trans ha
    have hnext : offset + page.items.length = (collected pages (k + 1)).length := by
      rw [hoffset, length_collected_succ hk]
    rw [hoffset] at hl
    obtain ⟨n, hle, hn, hbefore, hasked, hresult⟩ := ih hnext hex.2
    refine ⟨n, by omega, hn, fun i hi hlt => ?_, ?_, ?_⟩
    · rcases hi.eq_or_lt with rfl | hi
      · exact fun hends => hl ((ends_iff_isLast hk).mp hends)
      · exact hbefore i hi hlt
    · have hcount : n + 1 - k = (n + 1 - (k + 1)) + 1 := by omega
      rw [hcount, List.range'_succ, List.map_cons, List.map_cons, hasked, hoffset]
    · rw [← hresult, collected_succ, hk]
      cases x <;> simp [Except.map, received]

/-- **A listing of any answers, one after the other.** It goes on up to the first answer that ends
it, asks for each page from where the one before it ends, and gives what there is by then. So it
never takes more questions than one of the answers reports items, but for the first question. -/
theorem upTo_inTurn
    (hf : ∀ c ex r, Yields (fetch c) ex r ↔ ∃ a, ex = [(question c, a)] ∧ r = read a)
    (limit : UInt64) (bound : Option Nat) (answers : Nat → A) :
    let pages := fun k => read (answers k)
    let run := (upTo limit bound fetch).against (Dialogue.inTurn answers) 0
    (limit = 0 →
      run.questions = [] ∧ run.result = .error (.invalid "page size must be positive")) ∧
    (limit ≠ 0 → ∃ n, Ends bound pages n ∧ (∀ k < n, ¬ Ends bound pages k) ∧
      run.questions =
        (List.range (n + 1)).map (fun k => question ⟨(collected pages k).length, limit⟩) ∧
      run.result = resultAt bound pages n ∧
      ∀ total, (∀ k ≤ n, ∀ page, pages k = .ok page → page.total.toNat ≤ total) →
        run.questions.length ≤ max 1 total) := by
  intro pages run
  constructor
  · rintro rfl
    exact ⟨rfl, rfl⟩
  · intro hlimit
    obtain ⟨x, hpaged, hresult⟩ :=
      (yields_upTo hf hlimit).mp (yields_against (Dialogue.inTurn answers) 0 _)
    have hanswers : run.exchanges.map (fun x => read x.2) =
        (List.range' 0 run.exchanges.length).map pages := by
      have hturn : run.exchanges.map Prod.snd =
          (List.range' 0 run.exchanges.length).map answers :=
        Dialogue.answers_of_inTurn answers 0 (upTo limit bound fetch).run
      have hread := congrArg (List.map read) hturn
      rwa [List.map_map, List.map_map] at hread
    obtain ⟨n, -, hn, hbefore, hasked, hx⟩ := hpaged.exists_ends rfl hanswers
    have hquestions : run.questions =
        (List.range (n + 1)).map (fun k => question ⟨(collected pages k).length, limit⟩) := by
      rw [Dialogue.Run.questions_eq, List.range_eq_range']
      exact hasked
    refine ⟨n, hn, fun k hk => hbefore k (Nat.zero_le k) hk, hquestions, ?_, ?_⟩
    · rw [← hx]
      exact hresult
    · intro total htotal
      rw [hquestions, List.length_map, List.length_range]
      exact succ_le_max (fun i hi => hbefore i (Nat.zero_le i) hi) fun i hi => htotal i hi.le

end Sequence

/-- The fetch that puts the cursor itself, and is answered with a page or a failure. -/
def plainFetch (c : Cursor) : Operation Cursor (Except Error (Page α)) (Page α) := do
  let answer ← ask c
  liftM answer

theorem yields_plainFetch (c : Cursor) (ex : List (Cursor × Except Error (Page α)))
    (r : Except Error (Page α)) :
    Yields (plainFetch c) ex r ↔ ∃ a, ex = [(c, a)] ∧ r = a := by
  rw [plainFetch, yields_bind]
  constructor
  · rintro (⟨e, he, rfl⟩ | ⟨ex₁, a, ex₂, rfl, h₁, h₂⟩)
    · obtain ⟨a, -, ha⟩ := yields_ask.mp he
      cases ha
    · obtain ⟨a', rfl, ha⟩ := yields_ask.mp h₁
      obtain ⟨rfl, rfl⟩ := yields_lift.mp h₂
      exact ⟨a', rfl, Except.ok.inj ha⟩
  · rintro ⟨a, rfl, rfl⟩
    exact .inr ⟨[(c, r)], r, [], rfl, yields_ask.mpr ⟨r, rfl, rfl⟩, yields_lift.mpr ⟨rfl, rfl⟩⟩

/-- A listing that is told of nine items, and then of fewer. -/
theorem upTo_of_shrinking_total :
    let answers : Nat → Except Error (Page Nat) := fun k =>
      if k = 0 then .ok ⟨[1, 2], 9⟩ else .ok ⟨[3], 3⟩
    let run := (upTo 2 none plainFetch).against (Dialogue.inTurn answers) 0
    run.questions = [⟨0, 2⟩, ⟨2, 2⟩] ∧ run.result = .ok [1, 2, 3] ∧
      run.questions.length ≤ max 1 9 := by
  intro answers run
  obtain ⟨n, hn, hbefore, hasked, hresult, hcount⟩ :=
    (upTo_inTurn yields_plainFetch 2 none answers).2 (by decide)
  have hpage₀ : answers 0 = .ok ⟨[1, 2], 9⟩ := rfl
  have hpage₁ : answers 1 = .ok ⟨[3], 3⟩ := rfl
  have hfirst : ¬ Ends none answers 0 := by
    rw [ends_iff_isLast hpage₀]
    decide
  have hsecond : Ends none answers 1 := .reached hpage₁ (by decide)
  have hn1 : n = 1 := by
    rcases Nat.lt_trichotomy n 1 with hlt | rfl | hlt
    · obtain rfl : n = 0 := by omega
      exact absurd hn hfirst
    · rfl
    · exact absurd hsecond (hbefore 1 hlt)
  subst hn1
  refine ⟨hasked, hresult, hcount 9 fun k _ page hk => ?_⟩
  by_cases h0 : k = 0
  · obtain rfl := Except.ok.inj ((if_pos h0).symm.trans hk)
    decide
  · obtain rfl := Except.ok.inj ((if_neg h0).symm.trans hk)
    decide

/-! ## Remotes that tell the truth -/

section Truthful

variable {remote : Dialogue.Remote σ Q A} {items : List α}

/-- **A remote that tells the truth about some items**: in every state it reports how many there
are, and answers with some of them from the offset on. These are no more than a page holds, and at
least one if there are any. -/
def Truthful (remote : Dialogue.Remote σ Q A) (limit : UInt64) (question : Cursor → Q)
    (read : A → Except Error (Page α)) (items : List α) : Prop :=
  ∀ s offset, ∃ page count, read (remote s (question ⟨offset, limit⟩)).1 = .ok page ∧
    page.total.toNat = items.length ∧ page.items = (items.drop offset).take count ∧
    count ≤ limit.toNat ∧ (offset < items.length → 0 < count)

/-- A remote whose pages hold as many items as they can. -/
def Fills (remote : Dialogue.Remote σ Q A) (limit : UInt64) (question : Cursor → Q)
    (read : A → Except Error (Page α)) (items : List α) : Prop :=
  ∀ s offset page, read (remote s (question ⟨offset, limit⟩)).1 = .ok page →
    page.items = (items.drop offset).take limit.toNat

theorem Truthful.page (h : Truthful remote limit question read items) {s : σ} {offset : Nat} {a : A}
    (ha : a = (remote s (question ⟨offset, limit⟩)).1) :
    ∃ page, read a = .ok page ∧ page.total.toNat = items.length ∧
      items.take (offset + page.items.length) = items.take offset ++ page.items ∧
      page.items.length ≤ limit.toNat ∧ (page.items.length = 0 → items.length ≤ offset) := by
  obtain ⟨page, count, hread, htotal, hitems, hcount, hsome⟩ := h s offset
  have hlength : page.items.length = min count (items.length - offset) := by
    rw [hitems, List.length_take, List.length_drop]
  refine ⟨page, ha ▸ hread, htotal, ?_, by omega, fun hnone => ?_⟩
  · rw [List.take_add, List.append_cancel_left_eq, hlength, hitems, List.take_eq_take_iff,
      List.length_drop]
    omega
  · by_contra hlt
    have hpos : 0 < count := hsome (by omega)
    omega

theorem cutTo_take {bound : Option Nat} {n : Nat}
    (h : isEnough bound n = true ∨ items.length ≤ n) :
    cutTo bound (items.take n) = cutTo bound items := by
  cases bound with
  | none =>
    have hn : items.length ≤ n := by simpa [isEnough] using h
    exact List.take_of_length_le hn
  | some c =>
    have hn : c ≤ n ∨ items.length ≤ n := by simpa [isEnough] using h
    rw [cutTo, cutTo, List.take_take, List.take_eq_take_iff]
    omega

/-- **The rest of a listing** is what was left to list. -/
theorem Paged.map_eq_of_truthful (h : Paged limit bound question read offset ex x)
    (hremote : ∀ x ∈ ex, ∃ s, x.2 = (remote s x.1).1)
    (ht : Truthful remote limit question read items) :
    (x.map fun rest => cutTo bound (items.take offset ++ rest)) = .ok (cutTo bound items) := by
  induction h with
  | @failed offset a e ha =>
    obtain ⟨s, hs⟩ := hremote _ List.mem_cons_self
    obtain ⟨page, hpage, -⟩ := ht.page hs
    cases ha.symm.trans hpage
  | @last offset a page ha hl =>
    obtain ⟨s, hs⟩ := hremote _ List.mem_cons_self
    obtain ⟨page', hpage, htotal, htake, -, hnone⟩ := ht.page hs
    obtain rfl := Except.ok.inj (ha.symm.trans hpage)
    rw [Except.map, ← htake]
    refine congrArg Except.ok (cutTo_take ?_)
    rcases hl with henough | hempty | hreached
    · exact .inl henough
    · exact .inr ((hnone hempty).trans (Nat.le_add_right _ _))
    · exact .inr (htotal ▸ hreached)
  | @more offset a page ex x ha hl _ ih =>
    obtain ⟨hfirst, hrest⟩ := List.forall_mem_cons.mp hremote
    obtain ⟨s, hs⟩ := hfirst
    obtain ⟨page', hpage, -, htake, -⟩ := ht.page hs
    obtain rfl := Except.ok.inj (ha.symm.trans hpage)
    rw [← ih hrest, htake]
    cases x <;> simp [Except.map]

/-! ### The number of pages -/

theorem ceilDiv_of_le {m n : Nat} (hn : 0 < n) (h : m ≤ n) : max 1 (m ⌈/⌉ n) = 1 := by
  have hle : m ⌈/⌉ n ≤ 1 := (ceilDiv_le_iff_le_mul hn).mpr (by omega)
  omega

theorem ceilDiv_of_lt {m n : Nat} (hn : 0 < n) (h : n < m) :
    max 1 (m ⌈/⌉ n) = max 1 ((m - n) ⌈/⌉ n) + 1 := by
  have hpos : ¬ (m - n) ⌈/⌉ n ≤ 0 := by
    rw [ceilDiv_le_iff_le_mul hn]
    omega
  have hstep : m ⌈/⌉ n = (m - n) ⌈/⌉ n + 1 := by
    rw [Nat.ceilDiv_eq_add_pred_div, Nat.ceilDiv_eq_add_pred_div, ← Nat.add_div_right _ hn]
    congr 1
    omega
  omega

theorem isLast_iff_of_full {page : Page α} (hlimit : limit ≠ 0)
    (htotal : page.total.toNat = items.length)
    (hfull : page.items.length = min limit.toNat (items.length - offset)) :
    IsLast bound offset page ↔ (cutTo bound items).length - offset ≤ limit.toNat := by
  have hpos : 0 < limit.toNat := Nat.pos_of_ne_zero fun h => hlimit (UInt64.toNat_inj.mp h)
  rw [IsLast, htotal, hfull]
  cases bound with
  | none =>
    simp only [isEnough, cutTo, Bool.false_eq_true, false_or]
    omega
  | some c =>
    simp only [isEnough, cutTo, decide_eq_true_eq, List.length_take]
    omega

theorem Paged.length_of_fills (h : Paged limit bound question read offset ex x)
    (hremote : ∀ x ∈ ex, ∃ s, x.2 = (remote s x.1).1) (hlimit : limit ≠ 0)
    (ht : Truthful remote limit question read items)
    (hfills : Fills remote limit question read items) :
    ex.length = max 1 (((cutTo bound items).length - offset) ⌈/⌉ limit.toNat) := by
  have hpos : 0 < limit.toNat := Nat.pos_of_ne_zero fun h => hlimit (UInt64.toNat_inj.mp h)
  have hfull : ∀ {offset : Nat} {a : A} {page : Page α},
      (∃ s, a = (remote s (question ⟨offset, limit⟩)).1) → read a = .ok page →
        page.total.toNat = items.length ∧
          page.items.length = min limit.toNat (items.length - offset) := by
    rintro offset a page ⟨s, hs⟩ ha
    obtain ⟨page', hpage, htotal, -⟩ := ht.page hs
    obtain rfl := Except.ok.inj (ha.symm.trans hpage)
    refine ⟨htotal, ?_⟩
    rw [hfills s offset page (hs ▸ ha), List.length_take, List.length_drop]
  induction h with
  | @failed offset a e ha =>
    obtain ⟨s, hs⟩ := hremote _ List.mem_cons_self
    obtain ⟨page, hpage, -⟩ := ht.page hs
    cases ha.symm.trans hpage
  | @last offset a page ha hl =>
    obtain ⟨htotal, hitems⟩ := hfull (hremote _ List.mem_cons_self) ha
    exact (ceilDiv_of_le hpos ((isLast_iff_of_full hlimit htotal hitems).mp hl)).symm
  | @more offset a page ex x ha hl _ ih =>
    obtain ⟨hfirst, hrest⟩ := List.forall_mem_cons.mp hremote
    obtain ⟨htotal, hitems⟩ := hfull hfirst ha
    have hmore : limit.toNat < (cutTo bound items).length - offset := by
      rw [isLast_iff_of_full hlimit htotal hitems] at hl
      omega
    have hcut : (cutTo bound items).length ≤ items.length := by
      cases bound <;> simp [cutTo]
    have hnext : page.items.length = limit.toNat := by omega
    rw [List.length_cons, ih hrest, hnext, ceilDiv_of_lt hpos hmore, Nat.sub_sub]

section Runs

variable (hf : ∀ c ex r, Yields (fetch c) ex r ↔ ∃ a, ex = [(question c, a)] ∧ r = read a)
  (hlimit : limit ≠ 0) (ht : Truthful remote limit question read items) (s : σ)

include hf hlimit ht

/-- **A listing of the truth** has all items, or the first ones. -/
theorem result_of_truthful :
    ((upTo limit bound fetch).against remote s).result = .ok (cutTo bound items) := by
  obtain ⟨x, hpaged, hresult⟩ := (yields_upTo hf hlimit).mp (yields_against remote s _)
  have hremote := Dialogue.exists_answered remote s (upTo limit bound fetch).run
  rw [hresult, ← hpaged.map_eq_of_truthful hremote ht, List.take_zero]
  rfl

theorem length_questions_of_fills (hfills : Fills remote limit question read items) :
    ((upTo limit bound fetch).against remote s).questions.length =
      max 1 ((cutTo bound items).length ⌈/⌉ limit.toNat) := by
  obtain ⟨x, hpaged, -⟩ := (yields_upTo hf hlimit).mp (yields_against remote s _)
  have hremote := Dialogue.exists_answered remote s (upTo limit bound fetch).run
  rw [Dialogue.Run.questions_eq, List.length_map]
  exact hpaged.length_of_fills hremote hlimit ht hfills

end Runs

/-- **A listing of a remote that tells the truth is complete**, however short its pages are: it has
all items, or the first ones up to the bound. If the pages are full, they are as few as can hold
these. -/
theorem complete_of_truthful
    (hf : ∀ c ex r, Yields (fetch c) ex r ↔ ∃ a, ex = [(question c, a)] ∧ r = read a)
    (hlimit : limit ≠ 0) (ht : Truthful remote limit question read items) (s : σ) :
    let whole := (all limit fetch).against remote s
    let first := fun c => (upTo limit (some c) fetch).against remote s
    (whole.result = .ok items ∧ ∀ c, (first c).result = .ok (items.take c)) ∧
    (Fills remote limit question read items →
      whole.questions.length = max 1 (items.length ⌈/⌉ limit.toNat) ∧
      ∀ c, (first c).questions.length = max 1 (min c items.length ⌈/⌉ limit.toNat)) := by
  intro whole first
  refine ⟨⟨?_, fun c => ?_⟩, fun hfills => ⟨?_, fun c => ?_⟩⟩
  · exact result_of_truthful hf hlimit ht s
  · exact result_of_truthful hf hlimit ht s
  · exact length_questions_of_fills hf hlimit ht s hfills
  · rw [← List.length_take]
    exact length_questions_of_fills hf hlimit ht s hfills

/-- The remote that has five items and answers with pages of some sizes in turn. -/
def fiveItems (size : Nat → Nat) : Dialogue.Remote Nat Cursor (Except Error (Page Nat)) :=
  fun s c => (.ok ⟨([10, 20, 30, 40, 50].drop c.offset).take (size s), 5⟩, s + 1)

theorem truthful_fiveItems {size : Nat → Nat} (h : ∀ s, 0 < size s ∧ size s ≤ 2) :
    Truthful (fiveItems size) 2 id id [10, 20, 30, 40, 50] :=
  fun s _ => ⟨_, size s, rfl, rfl, rfl, (h s).2, fun _ => (h s).1⟩

/-- Five items in pages of one and of two. -/
theorem fiveItems_complete :
    let short := fiveItems fun s => 1 + s % 2
    let full := fiveItems fun _ => 2
    ((all 2 plainFetch).against short 0).result = .ok [10, 20, 30, 40, 50] ∧
      ((upTo 2 (some 3) plainFetch).against short 0).result = .ok [10, 20, 30] ∧
      ((all 2 plainFetch).against full 0).questions.length = 3 ∧
      ((upTo 2 (some 4) plainFetch).against full 0).questions.length = 2 ∧
      ((upTo 2 (some 0) plainFetch).against full 0).questions.length = 1 := by
  intro short full
  have hshort := complete_of_truthful yields_plainFetch (by decide)
    (truthful_fiveItems fun s => (by omega : 0 < 1 + s % 2 ∧ 1 + s % 2 ≤ 2)) 0
  have hfull := complete_of_truthful yields_plainFetch (by decide)
    (truthful_fiveItems fun _ => (by decide : 0 < 2 ∧ 2 ≤ 2)) 0
  obtain ⟨hall, hfirst⟩ := hfull.2 fun s offset page hpage =>
    congrArg Page.items (Except.ok.inj hpage).symm
  exact ⟨hshort.1.1, hshort.1.2 3, hall, hfirst 4, hfirst 0⟩

end Truthful

end Listing

end CloudProvider
