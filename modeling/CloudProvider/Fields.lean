/-!
# Values under keys

Attributes of a resource, members of an object and declarations of a schema are lists of values
under texts, kept in ascending order of the keys with each key once.

* `Fields.get?`, `Fields.insert`, `Fields.erase`: one key looked up, set, removed.
* `Fields.ofList`: pairs brought into this form; of a repeated key the last pair counts.
-/

namespace CloudProvider

/-- Values under keys, in ascending order of the keys. -/
abbrev Fields (α : Type) := List (String × α)

namespace Fields

variable {α β : Type}

/-- The value under a key. -/
def get? (fs : Fields α) (key : String) : Option α :=
  List.lookup key fs

/-- The value under a key set, whether or not there was one. -/
def insert (fs : Fields α) (key : String) (a : α) : Fields α :=
  match fs with
  | [] => [(key, a)]
  | (k, b) :: rest =>
    if key < k then (key, a) :: (k, b) :: rest
    else if key = k then (key, a) :: rest
    else (k, b) :: insert rest key a

/-- All but the value under a key. -/
def erase (fs : Fields α) (key : String) : Fields α :=
  fs.filter fun f => f.1 ≠ key

/-- **Pairs in ascending order of their keys**; of a repeated key the last one counts. -/
def ofList (pairs : List (String × α)) : Fields α :=
  pairs.foldl (fun fs f => fs.insert f.1 f.2) []

/-- The keys, in order. -/
def keys (fs : Fields α) : List String :=
  fs.map Prod.fst

/-- Every value changed under its key. -/
def mapValues (f : α → β) (fs : Fields α) : Fields β :=
  List.map (fun p => (p.1, f p.2)) fs

/-! ## Laws -/

@[simp]
theorem get?_nil (key : String) : get? ([] : Fields α) key = none := rfl

theorem get?_cons (k : String) (a : α) (fs : Fields α) (key : String) :
    get? ((k, a) :: fs) key = if key = k then some a else get? fs key := by
  rw [get?, List.lookup_cons]
  by_cases h : key = k
  · subst h
    simp
  · have hne : (key == k) = false := by simpa using h
    rw [hne, if_neg h]
    rfl

@[simp]
theorem get?_insert (fs : Fields α) (key k : String) (a : α) :
    (fs.insert key a).get? k = if k = key then some a else fs.get? k := by
  induction fs with
  | nil => simp [insert, get?_cons]
  | cons f rest ih =>
    obtain ⟨j, b⟩ := f
    by_cases h₁ : key < j
    · simp [insert, h₁, get?_cons]
    · by_cases h₂ : key = j
      · subst h₂
        by_cases h : k = key <;> simp [insert, get?_cons, h]
      · by_cases h : k = j
        · have : ¬ j = key := fun e => h₂ e.symm
          simp [insert, h₁, h₂, get?_cons, h, this]
        · simp [insert, h₁, h₂, get?_cons, h, ih]

theorem filter_insert {p : String → Bool} {key : String} (hp : p key = false) (fs : Fields α)
    (a : α) : (fs.insert key a).filter (fun f => p f.1) = List.filter (fun f => p f.1) fs := by
  induction fs with
  | nil => simp [insert, hp]
  | cons f rest ih =>
    obtain ⟨k, b⟩ := f
    rw [insert]
    by_cases h₁ : key < k
    · rw [if_pos h₁, List.filter_cons_of_neg (by simp [hp])]
    · rw [if_neg h₁]
      by_cases h₂ : key = k
      · subst h₂
        simp [hp]
      · rw [if_neg h₂, List.filter_cons, List.filter_cons, ih]

theorem ofList_append (pairs : List (String × α)) (key : String) (a : α) :
    ofList (pairs ++ [(key, a)]) = (ofList pairs).insert key a := by
  rw [ofList, ofList, List.foldl_append]
  rfl

theorem mem_of_mem_insert {fs : Fields α} {key : String} {a : α} {f : String × α}
    (h : f ∈ fs.insert key a) : f = (key, a) ∨ f ∈ fs := by
  induction fs with
  | nil => exact .inl (List.mem_singleton.mp h)
  | cons g rest ih =>
    obtain ⟨k, b⟩ := g
    rw [insert] at h
    split at h
    · exact List.mem_cons.mp h
    · split at h
      · exact (List.mem_cons.mp h).imp_right (List.mem_cons_of_mem _)
      · rcases List.mem_cons.mp h with rfl | h
        · exact .inr List.mem_cons_self
        · exact (ih h).imp_right (List.mem_cons_of_mem _)

theorem mem_of_mem_ofList {pairs : List (String × α)} {f : String × α} (h : f ∈ ofList pairs) :
    f ∈ pairs := by
  -- The induction goes along the fold, so that it is about any fields to start from.
  suffices hfold : ∀ fs : Fields α,
      f ∈ pairs.foldl (fun fs m => fs.insert m.1 m.2) fs → f ∈ fs ∨ f ∈ pairs from
    (hfold [] h).resolve_left List.not_mem_nil
  clear h
  induction pairs with
  | nil => exact fun fs h => .inl h
  | cons m rest ih =>
    intro fs h
    rcases ih _ h with h | h
    · rcases mem_of_mem_insert h with rfl | h
      · exact .inr List.mem_cons_self
      · exact .inl h
    · exact .inr (List.mem_cons_of_mem _ h)

theorem get?_map (f : String → α → β) (fs : Fields α) (key : String) :
    get? (List.map (fun m => (m.1, f m.1 m.2)) fs) key = (fs.get? key).map (f key) := by
  induction fs with
  | nil => rfl
  | cons m rest ih =>
    obtain ⟨k, b⟩ := m
    rw [List.map_cons, get?_cons, get?_cons, ih]
    by_cases h : key = k
    · subst h
      rw [if_pos rfl, if_pos rfl, Option.map_some]
    · rw [if_neg h, if_neg h]

theorem map_insert (f : String → α → β) (fs : Fields α) (key : String) (a : α) :
    List.map (fun m => (m.1, f m.1 m.2)) (fs.insert key a) =
      insert (List.map (fun m => (m.1, f m.1 m.2)) fs) key (f key a) := by
  induction fs with
  | nil => rfl
  | cons m rest ih =>
    obtain ⟨k, b⟩ := m
    rw [insert, List.map_cons, insert]
    by_cases h₁ : key < k
    · rw [if_pos h₁, if_pos h₁]
      rfl
    · by_cases h₂ : key = k
      · rw [if_neg h₁, if_neg h₁, if_pos h₂, if_pos h₂]
        rfl
      · rw [if_neg h₁, if_neg h₁, if_neg h₂, if_neg h₂, ← ih]
        rfl

theorem map_ofList (f : String → α → β) (pairs : List (String × α)) :
    List.map (fun m => (m.1, f m.1 m.2)) (ofList pairs) =
      ofList (pairs.map fun m => (m.1, f m.1 m.2)) := by
  rw [ofList, ofList, List.foldl_map]
  exact (List.foldl_hom (List.map fun m : String × α => (m.1, f m.1 m.2))
    fun fs m => (map_insert f fs m.1 m.2).symm).symm

end Fields

end CloudProvider
