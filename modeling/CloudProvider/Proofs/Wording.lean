import CloudProvider.Proofs.Attributes

/-!
# What failed checks say

The errors of checks are told apart by their wording, of which the first letters are enough.

* `Error.ConcernsIdentifier`: whether an error says that an identifier cannot be read.
* `Error.opening`: the first letters of what a failed check says.
* **`Error.not_concernsIdentifier`**: a check that begins otherwise is about something else.
* `Provider.not_concernsIdentifier_of_prepareFor`, …: so are the checks of what is desired.
-/

namespace CloudProvider

/-! ## Errors about an identifier -/

/-- **Whether an error says that an identifier cannot be read.** -/
def Error.ConcernsIdentifier (e : Error) : Prop :=
  (∃ s shape, e.cause = (CompositeId.badShape s shape).cause) ∨
    ∃ (s : String) (fault : RouteEntryId.Fault), e.cause = .invalid (fault.message s)

theorem Error.ConcernsIdentifier.isInvalid {e : Error} (h : e.ConcernsIdentifier) :
    e.isInvalid = true := by
  obtain ⟨cause, owner⟩ := e
  obtain ⟨s, shape, rfl⟩ | ⟨s, fault, rfl⟩ := h
  · rfl
  · rfl

theorem CompositeId.concernsIdentifier_of_two {s shape : String} {e : Error}
    (h : two s shape = .error e) : e.ConcernsIdentifier := by
  unfold two at h
  split at h
  · cases h
  · obtain rfl := Except.error.inj h
    exact .inl ⟨s, shape, rfl⟩

theorem CompositeId.concernsIdentifier_of_three {s shape : String} {e : Error}
    (h : three s shape = .error e) : e.ConcernsIdentifier := by
  unfold three at h
  split at h
  · cases h
  · obtain rfl := Except.error.inj h
    exact .inl ⟨s, shape, rfl⟩

theorem RouteEntryId.concernsIdentifier_of_ofText {s : String} {e : Error}
    (h : ofText s = .error e) : e.ConcernsIdentifier := by
  unfold ofText at h
  cases hs : parse s with
  | error fault =>
    rw [hs] at h
    obtain rfl := Except.error.inj h
    exact .inr ⟨s, fault, rfl⟩
  | ok id =>
    rw [hs] at h
    cases h

/-! ## First letters -/

theorem RouteEntryId.Fault.exists_message (s : String) (fault : Fault) :
    ∃ rest, fault.message s = "route entry id '" ++ rest := by
  cases fault with
  | shape | noTable | badEntry entry =>
    unfold message
    simp only [String.append_assoc]
    exact ⟨_, rfl⟩

namespace Error

/-- The first letters of what a failed check says; seven are enough to tell one that is about an
identifier. -/
def opening (e : Error) : List Char :=
  match e.cause with
  | .invalid message => message.toList.take 7
  | _ => []

/-- Those of the errors about an identifier. -/
def identifierOpenings : List (List Char) := ["identif".toList, "route e".toList]

theorem opening_invalid {p rest : String} (hp : 7 ≤ p.toList.length) :
    (invalid (p ++ rest)).opening = p.toList.take 7 := by
  have hmessage : (invalid (p ++ rest)).opening = (p ++ rest).toList.take 7 := rfl
  rw [hmessage, String.toList_append, List.take_append_of_le_length hp]

theorem opening_eq_of_cause {e f : Error} (h : e.cause = f.cause) : e.opening = f.opening := by
  rw [opening, opening, h]

theorem ConcernsIdentifier.opening_mem {e : Error} (h : e.ConcernsIdentifier) :
    e.opening ∈ identifierOpenings := by
  obtain ⟨s, shape, h⟩ | ⟨s, fault, h⟩ := h
  · rw [opening_eq_of_cause h, CompositeId.badShape, String.append_assoc, String.append_assoc,
      opening_invalid (by decide)]
    decide
  · obtain ⟨rest, hrest⟩ := RouteEntryId.Fault.exists_message s fault
    rw [hrest] at h
    rw [opening_eq_of_cause (f := invalid _) h, opening_invalid (by decide)]
    decide

/-- **A check that begins otherwise is about something else.** -/
theorem not_concernsIdentifier {e : Error}
    (h : e.opening ∉ identifierOpenings) : ¬ e.ConcernsIdentifier :=
  fun hc => h hc.opening_mem

theorem not_concernsIdentifier_invalid {p rest : String}
    (hp : 7 ≤ p.toList.length ∧ p.toList.take 7 ∉ identifierOpenings) :
    ¬ (invalid (p ++ rest)).ConcernsIdentifier :=
  not_concernsIdentifier (opening_invalid hp.1 ▸ hp.2)

end Error

/-! ## Checks of what is desired -/

theorem Resource.not_concernsIdentifier_of_required {r : Resource} {key : String} {e : Error}
    (hkey : (Error.invalid (key ++ " should be a non-empty string")).opening ∉
      Error.identifierOpenings) (h : r.required key = .error e) : ¬ e.ConcernsIdentifier := by
  unfold required at h
  split at h
  · cases h
  · obtain rfl := Except.error.inj h
    exact Error.not_concernsIdentifier hkey

namespace Schema

variable {schema : Schema} {attributes : Attributes}

theorem message_of_mem_violations {v : TypeError} (h : v ∈ schema.violations attributes) :
    (∃ rest, v.message = "Required attribute '" ++ rest) ∨
      ∃ rest, v.message = "Attribute '" ++ rest := by
  rw [violations, List.mem_mergeSort, List.mem_append] at h
  rcases h with h | h
  · obtain ⟨⟨name, a⟩, -, hv⟩ := List.mem_filterMap.mp h
    obtain ⟨-, hv⟩ := Option.ite_none_right_eq_some.mp hv
    obtain rfl := Option.some.inj hv
    exact .inl ⟨_, String.append_assoc⟩
  · obtain ⟨⟨name, value⟩, -, hv⟩ := List.mem_filterMap.mp h
    dsimp only at hv
    split at hv
    · cases hv
    · split at hv
      · cases hv
      · next inner _ =>
        obtain rfl := Option.some.inj hv
        have hmessage : (TypeError.attribute name inner).message =
            "Attribute '" ++ name ++ "': " ++ inner.message := rfl
        exact .inr ⟨_, by rw [hmessage, String.append_assoc, String.append_assoc]⟩

end Schema

namespace Provider

variable {schema : Schema} {kind : LifecycleKind} {settings : Settings} {r : Resource} {e : Error}

theorem not_concernsIdentifier_of_prepare (h : prepare schema r = .error e) :
    ¬ e.ConcernsIdentifier := by
  rw [prepare] at h
  dsimp only at h
  cases hv : schema.violations (schema.withDefaults r.attributes) with
  | nil =>
    rw [hv] at h
    cases h
  | cons v rest =>
    rw [hv] at h
    obtain rfl := Except.error.inj h
    obtain ⟨more, hmore⟩ : ∃ more, "; ".intercalate ((v :: rest).map TypeError.message) =
        v.message ++ more := by
      cases rest with
      | nil => exact ⟨"", by simp⟩
      | cons w rest => exact ⟨_, by rw [List.map_cons, List.map_cons,
          String.intercalate_cons_cons, String.append_assoc]⟩
    rw [hmore]
    have hmem : v ∈ schema.violations (schema.withDefaults r.attributes) :=
      hv ▸ List.mem_cons_self
    obtain ⟨_, hmessage⟩ | ⟨_, hmessage⟩ := Schema.message_of_mem_violations hmem
    · rw [hmessage, String.append_assoc]
      exact Error.not_concernsIdentifier_invalid (by decide)
    · rw [hmessage, String.append_assoc]
      exact Error.not_concernsIdentifier_invalid (by decide)

theorem not_concernsIdentifier_of_prepareFor
    (h : prepareFor kind.schema (kind.lifecycle settings) r = .error e) :
    ¬ e.ConcernsIdentifier := by
  rw [prepareFor] at h
  cases hr : prepare kind.schema r with
  | error e' =>
    rw [hr] at h
    obtain rfl := Except.error.inj h
    exact not_concernsIdentifier_of_prepare hr
  | ok r =>
    rw [hr] at h
    cases kind with
    | routeEntry =>
      simp only [bind, Except.bind, LifecycleKind.lifecycle, Lifecycle.routeEntry,
        Lifecycle.checkRouteEntry] at h
      split_ifs at h
      · obtain rfl := Except.error.inj h
        exact Error.not_concernsIdentifier (by decide)
      · cases h
    | vpc | subnet | routeTable | account | privilege | backupPolicy => cases h

theorem not_concernsIdentifier_of_checkReplacements {current : State}
    (h : checkReplacements schema current r = .error e) : ¬ e.ConcernsIdentifier := by
  rw [checkReplacements] at h
  split at h
  · cases h
  · obtain rfl := Except.error.inj h
    rw [String.append_assoc]
    exact Error.not_concernsIdentifier_invalid (by decide)

end Provider

end CloudProvider
