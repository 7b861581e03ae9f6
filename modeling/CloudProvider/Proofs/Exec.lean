import CloudProvider.Proofs.Call

/-!
# Operations against one remote

The outcome of an operation against a remote, and the state in which it leaves the remote, follow
the operation part by part.

* `Dialogue.run_bind`: the run of two dialogues, one after the other.
* `Operation.exec`: the outcome and the state afterwards.
* **`Operation.exec_bind`**, `Operation.exec_ask`, …: what they are for the parts of an operation.
* `Api.exec_call`, `Api.exec_orIfNotFound`, …: what they are for calls.
-/

namespace CloudProvider

namespace Dialogue

variable {Q A α β σ : Type}

/-- A run with some happenings before it. -/
def Run.follow (t : List (Happening Q A)) (r : Run σ Q A α) : Run σ Q A α :=
  { r with trace := t ++ r.trace }

/-- **A run of two dialogues**, one after the other. -/
theorem run_bind (remote : Remote σ Q A) (s : σ) (d : Dialogue Q A α) (f : α → Dialogue Q A β) :
    run remote s (d.bind f) =
      (run remote (run remote s d).remote (f (run remote s d).result)).follow
        (run remote s d).trace := by
  induction d generalizing s with
  | done a => rfl
  | ask q next ih => exact congrArg (Run.after _) (ih (remote s q).1 (remote s q).2)
  | log e rest ih => exact congrArg (Run.after _) (ih s)
  | sleep n rest ih => exact congrArg (Run.after _) (ih s)

end Dialogue

theorem except_bind_eq_ok {ε α β : Type} {x : Except ε α} {f : α → Except ε β} {b : β} :
    (x >>= f) = .ok b ↔ ∃ a, x = .ok a ∧ f a = .ok b := by
  cases x with
  | error e => simp [bind, Except.bind]
  | ok a => simp [bind, Except.bind]

namespace Operation

open Dialogue

variable {Q A α β σ : Type} {remote : Remote σ Q A} {s : σ}

/-- **The outcome of an operation against a remote**, and the state of the remote afterwards. -/
def exec (remote : Remote σ Q A) (s : σ) (op : Operation Q A α) : Except Error α × σ :=
  ((op.against remote s).result, (op.against remote s).remote)

@[simp]
theorem exec_pure {a : α} : exec remote s (pure a) = (.ok a, s) := rfl

@[simp]
theorem exec_lift {x : Except Error α} : exec remote s (liftM x : Operation Q A α) = (x, s) := rfl

@[simp]
theorem exec_log {e : Event} : exec remote s (log e) = (.ok (), s) := rfl

@[simp]
theorem exec_ask {q : Q} : exec remote s (ask q) = (.ok (remote s q).1, (remote s q).2) := rfl

/-- **The second of two operations** runs if the first one goes well. -/
theorem exec_bind {op : Operation Q A α} {f : α → Operation Q A β} :
    exec remote s (op >>= f) =
      match exec remote s op with
      | (.ok a, s') => exec remote s' (f a)
      | (.error e, s') => (.error e, s') := by
  have hb : ExceptT.run (op >>= f) = (ExceptT.run op).bind (ExceptT.bindCont f) := rfl
  simp only [exec, against, hb, run_bind, Run.follow]
  cases (run remote s (ExceptT.run op)).result with
  | error e => rfl
  | ok a => rfl

theorem exec_bind_ok {op : Operation Q A α} {f : α → Operation Q A β} {a : α} {s' : σ}
    (h : exec remote s op = (.ok a, s')) : exec remote s (op >>= f) = exec remote s' (f a) := by
  rw [exec_bind, h]

theorem exec_bind_error {op : Operation Q A α} {f : α → Operation Q A β} {e : Error} {s' : σ}
    (h : exec remote s op = (.error e, s')) : exec remote s (op >>= f) = (.error e, s') := by
  rw [exec_bind, h]

theorem exec_ok_bind {x : Except Error α} {f : α → Operation Q A β} {a : α} (h : x = .ok a) :
    exec remote s ((liftM x : Operation Q A α) >>= f) = exec remote s (f a) :=
  exec_bind_ok (by rw [exec_lift, h])

theorem exec_error_bind {x : Except Error α} {f : α → Operation Q A β} {e : Error}
    (h : x = .error e) :
    exec remote s ((liftM x : Operation Q A α) >>= f) = (.error e, s) :=
  exec_bind_error (by rw [exec_lift, h])

theorem exec_outcome {op : Operation Q A α} :
    exec remote s op.outcome = (.ok (exec remote s op).1, (exec remote s op).2) := by
  let f : Except Error α → Dialogue Q A (Except Error (Except Error α)) := fun x => .done (.ok x)
  have ho : ExceptT.run op.outcome = (ExceptT.run op).bind f := rfl
  simp only [exec, against, ho, run_bind, Run.follow]
  rfl

theorem exec_onResource {id : ResourceId} {op : Operation Q A α} :
    exec remote s (op.onResource id) =
      ((exec remote s op).1.mapError fun e => e.forResource id, (exec remote s op).2) := by
  have ho : ExceptT.run (op.onResource id) =
      (ExceptT.run op).bind fun x => .done (x.mapError fun e => e.forResource id) := rfl
  simp only [exec, against, ho, run_bind, Run.follow]
  rfl

end Operation

open Operation

variable {σ : Type} {remote : Dialogue.Remote σ Call Reply} {s : σ}

@[simp]
theorem Lookup.exec_unique {α : Type} {entity key : String} {candidates : List α} :
    exec remote s (unique entity key candidates) = (choice entity key candidates, s) := by
  match candidates with
  | [] => rfl
  | [a] => rfl
  | a :: b :: rest => rfl

namespace Api

variable {α : Type}

/-- **One call against a remote.** -/
theorem exec_call {action : Action} {request : Json} {decode : Json → Except Issue α} :
    exec remote s (call action request decode) =
      (outcomeOf action decode (remote s ⟨action, request⟩).1, (remote s ⟨action, request⟩).2) := by
  rw [call, exec_bind_ok exec_ask]
  cases (remote s ⟨action, request⟩).1 with
  | error e => exact exec_bind_ok exec_log
  | ok response =>
    dsimp only
    rw [exec_bind_ok exec_log, outcomeOf]
    cases decode response with
    | error issue => rfl
    | ok a => rfl

theorem exec_orIfNotFound {service : Service} {op : Api α} {absent : α} :
    exec remote s (orIfNotFound service op absent) =
      (ifNotFound service absent (exec remote s op).1, (exec remote s op).2) := by
  rw [orIfNotFound, exec_bind_ok exec_outcome]
  cases (exec remote s op).1 with
  | ok a => rfl
  | error e =>
    simp only [ifNotFound]
    split_ifs
    · rfl
    · rfl

theorem exec_acceptGone {service : Service} {op : Api Unit} :
    exec remote s (acceptGone service op) =
      (ifNotFound service () (exec remote s op).1, (exec remote s op).2) := by
  rw [acceptGone, exec_bind_ok exec_outcome]
  cases (exec remote s op).1 with
  | ok a => rfl
  | error e =>
    simp only [ifNotFound]
    split_ifs
    · rfl
    · rfl

end Api

end CloudProvider
