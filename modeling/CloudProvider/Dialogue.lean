import CloudProvider.Event

/-!
# Dialogues with a remote

An operation asks a remote questions one after another, writes log events and waits. It is given as
the tree of what it does for every answer, so that one operation can be run against any remote.

* `Dialogue`: the tree, with questions in `Q`, answers in `A` and a result in `α`.
* `Operation`: a dialogue that may fail.
* `Dialogue.run`: the run of a dialogue against a remote, with all that happened in it.
* `Dialogue.through`: each question put to another remote by a dialogue of its own.
-/

namespace CloudProvider

/-- A dialogue: what is asked, logged and waited for before the result. -/
inductive Dialogue (Q A α : Type) : Type where
  | done (a : α)
  | ask (question : Q) (next : A → Dialogue Q A α)
  | log (e : Event) (rest : Dialogue Q A α)
  | sleep (seconds : Nat) (rest : Dialogue Q A α)

namespace Dialogue

variable {Q A Q' A' α β : Type}

/-- A dialogue followed by another that depends on its result. -/
def bind (d : Dialogue Q A α) (f : α → Dialogue Q A β) : Dialogue Q A β :=
  match d with
  | done a => f a
  | ask q next => ask q fun a => (next a).bind f
  | log e rest => log e (rest.bind f)
  | sleep n rest => sleep n (rest.bind f)

instance : Monad (Dialogue Q A) where
  pure := done
  bind := bind

theorem bind_done (d : Dialogue Q A α) : d.bind done = d := by
  induction d with
  | done a => rfl
  | ask q next ih => simp [bind, ih]
  | log e rest ih => simp [bind, ih]
  | sleep n rest ih => simp [bind, ih]

theorem bind_bind {γ : Type} (d : Dialogue Q A α) (f : α → Dialogue Q A β)
    (g : β → Dialogue Q A γ) : (d.bind f).bind g = d.bind fun a => (f a).bind g := by
  induction d with
  | done a => rfl
  | ask q next ih => simp [bind, ih]
  | log e rest ih => simp [bind, ih]
  | sleep n rest ih => simp [bind, ih]

instance : LawfulMonad (Dialogue Q A) :=
  LawfulMonad.mk' (Dialogue Q A) (fun d => bind_done d) (fun _ _ => rfl) bind_bind

/-- Each question put to another remote by a dialogue of its own. -/
def through (relay : Q → Dialogue Q' A' A) : Dialogue Q A α → Dialogue Q' A' α
  | done a => done a
  | ask q next => (relay q).bind fun a => (next a).through relay
  | log e rest => log e (rest.through relay)
  | sleep n rest => sleep n (rest.through relay)

/-! ## Runs -/

/-- One thing that happens in a run. -/
inductive Happening (Q A : Type) where
  | asked (question : Q) (answer : A)
  | logged (e : Event)
  | slept (seconds : Nat)

/-- A remote: how a question is answered, and the state of the remote after it. -/
abbrev Remote (σ Q A : Type) := σ → Q → A × σ

/-- The result of a run, what happened in it, and the state of the remote after it. -/
structure Run (σ Q A α : Type) where
  result : α
  trace : List (Happening Q A)
  remote : σ

/-- A run with one thing happening before it. -/
def Run.after {σ : Type} (h : Happening Q A) (r : Run σ Q A α) : Run σ Q A α :=
  { r with trace := h :: r.trace }

/-- **The run of a dialogue against a remote in some state.** -/
def run {σ : Type} (remote : Remote σ Q A) (s : σ) : Dialogue Q A α → Run σ Q A α
  | done a => ⟨a, [], s⟩
  | ask q next =>
    let (a, s) := remote s q
    ((next a).run remote s).after (.asked q a)
  | log e rest => (rest.run remote s).after (.logged e)
  | sleep n rest => (rest.run remote s).after (.slept n)

/-- The questions of a run, in order. -/
def Run.questions {σ : Type} (r : Run σ Q A α) : List Q :=
  r.trace.filterMap fun
    | .asked q _ => some q
    | _ => none

/-- The log of a run, in order. -/
def Run.events {σ : Type} (r : Run σ Q A α) : List Event :=
  r.trace.filterMap fun
    | .logged e => some e
    | _ => none

/-- The seconds that a run waited. -/
def Run.elapsed {σ : Type} (r : Run σ Q A α) : Nat :=
  r.trace.foldr (fun h elapsed =>
    match h with
    | .slept n => n + elapsed
    | _ => elapsed) 0

/-- A remote that gives some answers in turn, and `spent` of the question after the last. -/
def scripted (spent : Q → A) : Remote (List A) Q A
  | [], q => (spent q, [])
  | a :: rest, _ => (a, rest)

end Dialogue

/-- A dialogue that may fail. -/
abbrev Operation (Q A : Type) := ExceptT Error (Dialogue Q A)

namespace Operation

variable {Q A α : Type}

/-- A question put and its answer. -/
def ask (q : Q) : Operation Q A A := ExceptT.lift (.ask q .done)

/-- An event written to the log. -/
def log (e : Event) : Operation Q A Unit := ExceptT.lift (.log e (.done ()))

/-- A number of seconds waited. -/
def sleep (seconds : Nat) : Operation Q A Unit := ExceptT.lift (.sleep seconds (.done ()))

/-- The outcome of an operation, whether or not it fails. -/
def outcome (op : Operation Q A α) : Operation Q A (Except Error α) := ExceptT.lift op.run

/-- An operation whose errors concern a resource. -/
def onResource (id : ResourceId) (op : Operation Q A α) : Operation Q A α :=
  ExceptT.adapt (fun e : Error => e.forResource id) op

end Operation

end CloudProvider
