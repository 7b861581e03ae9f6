import CloudProvider.Api
import CloudProvider.Lookup
import CloudProvider.Proofs.Course
import Mathlib.Tactic.SplitIfs

/-!
# Courses of calls

A call puts one question, and its outcome is a function of the answer. So are the outcomes of the
operations that are put around calls.

* `Api.outcomeOf`, **`Api.yields_call`**: one call.
* `Lookup.choice`, `Lookup.yields_unique`: the only one of some candidates.
* `Api.ifNotFound`, `Api.yields_orIfNotFound`: absence for a failure.
-/

namespace CloudProvider

open Operation

/-! ## Look-ups -/

namespace Lookup

variable {Q A α : Type}

/-- The only one of some candidates, if there is one; several are an error. -/
def choice (entity key : String) : List α → Except Error (Option α)
  | [] => .ok none
  | [a] => .ok (some a)
  | candidates => .error ⟨.ambiguous entity key candidates.length, none⟩

theorem choice_eq_some {entity key : String} {candidates : List α} {a : α} :
    choice entity key candidates = .ok (some a) ↔ candidates = [a] := by
  match candidates with
  | [] => simp [choice]
  | [b] => simp [choice]
  | b :: c :: rest => simp [choice]

theorem choice_toList {entity key : String} (found : Option α) :
    choice entity key found.toList = .ok found := by
  cases found with
  | none => rfl
  | some a => rfl

theorem yields_unique {entity key : String} {candidates : List α} {ex : List (Q × A)}
    {r : Except Error (Option α)} :
    Yields (unique entity key candidates : Operation Q A (Option α)) ex r ↔
      ex = [] ∧ r = choice entity key candidates := by
  match candidates with
  | [] => simp [unique, choice]
  | [a] => simp [unique, choice]
  | a :: b :: rest =>
    simp only [unique, choice, yields_log_bind, yields_throw]

end Lookup

namespace Api

variable {α : Type}

/-! ## One call -/

/-- The outcome of a call that gets an answer. -/
def outcomeOf (action : Action) (decode : Json → Except Issue α) : Reply → Except Error α
  | .error e => .error ⟨.remote e, none⟩
  | .ok response => (decode response).mapError (undecodable action)

theorem outcomeOf_eq_error {action : Action} {decode : Json → Except Issue α} {reply : Reply}
    {e : Error} (h : outcomeOf action decode reply = .error e) :
    (∃ reported, reply = .error reported ∧ e = ⟨.remote reported, none⟩) ∨
      ∃ j issue, reply = .ok j ∧ decode j = .error issue ∧ e = undecodable action issue := by
  cases reply with
  | error reported => exact .inl ⟨reported, rfl, (Except.error.inj h).symm⟩
  | ok j =>
    rw [outcomeOf] at h
    cases hj : decode j with
    | ok a =>
      rw [hj] at h
      cases h
    | error issue =>
      rw [hj] at h
      exact .inr ⟨j, issue, rfl, hj, (Except.error.inj h).symm⟩

/-- **One call** puts one question. -/
theorem yields_call {action : Action} {request : Json} {decode : Json → Except Issue α}
    {ex : List (Call × Reply)} {r : Except Error α} :
    Yields (call action request decode) ex r ↔
      ∃ reply, ex = [(⟨action, request⟩, reply)] ∧ r = outcomeOf action decode reply := by
  rw [call, yields_bind_silent (g := outcomeOf action decode)]
  · constructor
    · rintro ⟨_, h, rfl⟩
      obtain ⟨reply, rfl, rfl⟩ := yields_ask.mp h
      exact ⟨reply, rfl, rfl⟩
    · rintro ⟨reply, rfl, rfl⟩
      exact ⟨.ok reply, yields_ask.mpr ⟨reply, rfl, rfl⟩, rfl⟩
  · intro reply ex r
    cases reply with
    | error e => simp only [yields_log_bind, yields_throw, outcomeOf]
    | ok response =>
      simp only [yields_log_bind, outcomeOf]
      cases decode response with
      | error issue => simp only [yields_throw, Except.mapError]
      | ok a => simp only [yields_pure, Except.mapError]

/-! ## Failures taken for absence -/

/-- An outcome for which a missing entity counts as `absent`. -/
def ifNotFound (service : Service) (absent : α) : Except Error α → Except Error α
  | .ok a => .ok a
  | .error e => if isNotFound service e then .ok absent else .error e

theorem ifNotFound_eq_ok {service : Service} {absent a : α} {x : Except Error α} :
    ifNotFound service absent x = .ok a ↔
      x = .ok a ∨ a = absent ∧ ∃ e, x = .error e ∧ isNotFound service e = true := by
  cases x with
  | ok b => simp [ifNotFound]
  | error e =>
    simp only [ifNotFound, reduceCtorEq, false_or, Except.error.injEq, exists_eq_left']
    split_ifs with he
    · simp only [he, and_true, Except.ok.injEq]
      exact eq_comm
    · simp [he]

theorem isNotFound_iff {service : Service} {e : Error} :
    isNotFound service e = true ↔
      ∃ reported owner, e = ⟨.remote reported, owner⟩ ∧ reported.code ∈ service.notFoundCodes := by
  obtain ⟨cause, owner⟩ := e
  cases cause <;> simp [isNotFound, Error.apiError?, ApiError.isNotFound]

theorem yields_orIfNotFound {service : Service} {op : Api α} {absent : α}
    {ex : List (Call × Reply)} {r : Except Error α} :
    Yields (orIfNotFound service op absent) ex r ↔
      ∃ x, Yields op ex x ∧ r = ifNotFound service absent x := by
  refine yields_outcome_bind fun x ex r => ?_
  cases x with
  | ok a => simp only [yields_pure, ifNotFound]
  | error e =>
    simp only [ifNotFound]
    split_ifs
    · exact yields_pure
    · exact yields_throw

theorem yields_acceptGone {service : Service} {op : Api Unit} {ex : List (Call × Reply)}
    {r : Except Error Unit} :
    Yields (acceptGone service op) ex r ↔ ∃ x, Yields op ex x ∧ r = ifNotFound service () x := by
  refine yields_outcome_bind fun x ex r => ?_
  cases x with
  | ok a => simp only [yields_pure, ifNotFound]
  | error e =>
    simp only [ifNotFound]
    split_ifs
    · exact yields_log
    · exact yields_throw

end Api

end CloudProvider
