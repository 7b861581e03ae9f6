import CloudProvider.Proofs.Call
import Mathlib.Data.List.Forall2

/-!
# Runs that cannot be told apart

Two dialogues are alike if they write the same log and wait as long whatever is answered, and differ
in their questions and their results only as far as two relations allow.

* `Dialogue.Alike`: two dialogues that go alike for all answers.
* `Operation.Alike`, `Operation.Alike.bind`, …: two operations, which also have the same errors.
* **`Operation.Alike.inTurn`**: what two alike operations show when they get the same answers.
* `Api.Discreet`, `Api.alike_call`: two calls that differ in secret parameters only.
-/

namespace CloudProvider

/-! ## Dialogues -/

namespace Dialogue

variable {Q A α β γ δ : Type} {P : Q → Q → Prop} {R : α → β → Prop} {S : γ → δ → Prop}

/-- **Whether two dialogues go alike**: for every answer they go on alike, with the same events and
pauses, their questions are related by `P` and their results by `R`. -/
inductive Alike (P : Q → Q → Prop) (R : α → β → Prop) : Dialogue Q A α → Dialogue Q A β → Prop
  | done {a : α} {b : β} (h : R a b) : Alike P R (.done a) (.done b)
  | ask {q q' : Q} {next : A → Dialogue Q A α} {next' : A → Dialogue Q A β} (hq : P q q')
      (h : ∀ a, Alike P R (next a) (next' a)) : Alike P R (.ask q next) (.ask q' next')
  | log {e : Event} {rest : Dialogue Q A α} {rest' : Dialogue Q A β} (h : Alike P R rest rest') :
      Alike P R (.log e rest) (.log e rest')
  | sleep {n : Nat} {rest : Dialogue Q A α} {rest' : Dialogue Q A β} (h : Alike P R rest rest') :
      Alike P R (.sleep n rest) (.sleep n rest')

theorem Alike.refl {R : α → α → Prop} (hP : ∀ q, P q q) (hR : ∀ a, R a a) (d : Dialogue Q A α) :
    Alike P R d d := by
  induction d with
  | done a => exact .done (hR a)
  | ask q next ih => exact .ask (hP q) ih
  | log e rest ih => exact .log ih
  | sleep n rest ih => exact .sleep ih

/-- **Alike dialogues stay alike** if what follows them does. -/
theorem Alike.bind {d : Dialogue Q A α} {d' : Dialogue Q A β} {f : α → Dialogue Q A γ}
    {g : β → Dialogue Q A δ} (h : Alike P R d d') (hf : ∀ a b, R a b → Alike P S (f a) (g b)) :
    Alike P S (d.bind f) (d'.bind g) := by
  induction h with
  | done h => exact hf _ _ h
  | ask hq _ ih => exact .ask hq ih
  | log _ ih => exact .log ih
  | sleep _ ih => exact .sleep ih

/-- What two runs show: their results, logs, pauses and questions. -/
structure Run.Alike {σ τ : Type} (P : Q → Q → Prop) (R : α → β → Prop) (run : Run σ Q A α)
    (run' : Run τ Q A β) : Prop where
  result : R run.result run'.result
  events : run.events = run'.events
  elapsed : run.elapsed = run'.elapsed
  questions : List.Forall₂ P run.questions run'.questions

/-- **Alike dialogues that get the same answers run alike.** -/
theorem Alike.inTurn {d : Dialogue Q A α} {d' : Dialogue Q A β} (h : Alike P R d d')
    (answers : Nat → A) (n : Nat) :
    Run.Alike P R (d.run (inTurn answers) n) (d'.run (inTurn answers) n) := by
  induction h generalizing n with
  | done h => exact ⟨h, rfl, rfl, .nil⟩
  | ask hq _ ih =>
    obtain ⟨hresult, hevents, helapsed, hquestions⟩ := ih (answers n) (n + 1)
    exact ⟨hresult, hevents, helapsed, .cons hq hquestions⟩
  | log _ ih =>
    obtain ⟨hresult, hevents, helapsed, hquestions⟩ := ih n
    exact ⟨hresult, congrArg _ hevents, helapsed, hquestions⟩
  | sleep _ ih =>
    obtain ⟨hresult, hevents, helapsed, hquestions⟩ := ih n
    exact ⟨hresult, hevents, congrArg _ helapsed, hquestions⟩

end Dialogue

/-! ## Operations -/

/-- Whether two outcomes are the same error, or values that are related. -/
inductive SameOutcome {α β : Type} (R : α → β → Prop) : Except Error α → Except Error β → Prop
  | ok {a : α} {b : β} (h : R a b) : SameOutcome R (.ok a) (.ok b)
  | error (e : Error) : SameOutcome R (.error e) (.error e)

namespace SameOutcome

variable {α β : Type} {R : α → β → Prop} {x : Except Error α} {y : Except Error β}

theorem refl (x : Except Error α) : SameOutcome Eq x x := by
  cases x with
  | error e => exact .error e
  | ok a => exact .ok rfl

theorem error_iff (h : SameOutcome R x y) {e : Error} : x = .error e ↔ y = .error e := by
  cases h with
  | ok _ => exact iff_of_false nofun nofun
  | error _ => rw [Except.error.injEq, Except.error.injEq]

theorem rel (h : SameOutcome R x y) {a : α} {b : β} (hx : x = .ok a) (hy : y = .ok b) : R a b := by
  cases h with
  | ok h =>
    obtain rfl := Except.ok.inj hx
    obtain rfl := Except.ok.inj hy
    exact h
  | error _ => cases hx

end SameOutcome

namespace Operation

variable {Q A α β γ δ : Type} {P : Q → Q → Prop} {R : α → β → Prop} {S : γ → δ → Prop}

/-- **Whether two operations go alike**: with the same events, pauses and errors. -/
def Alike (P : Q → Q → Prop) (R : α → β → Prop) (op : Operation Q A α) (op' : Operation Q A β) :
    Prop :=
  Dialogue.Alike P (SameOutcome R) (ExceptT.run op) (ExceptT.run op')

theorem Alike.refl (hP : ∀ q, P q q) (op : Operation Q A α) : Alike P Eq op op :=
  Dialogue.Alike.refl hP .refl (ExceptT.run op)

theorem alike_pure {a : α} {b : β} (h : R a b) :
    Alike P R (pure a : Operation Q A α) (pure b : Operation Q A β) := .done (.ok h)

theorem alike_throw {e : Error} :
    Alike P R (throw e : Operation Q A α) (throw e : Operation Q A β) := .done (.error e)

theorem alike_lift {x : Except Error α} {y : Except Error β} (h : SameOutcome R x y) :
    Alike P R (liftM x : Operation Q A α) (liftM y : Operation Q A β) := .done h

theorem Alike.bind {op : Operation Q A α} {op' : Operation Q A β} {f : α → Operation Q A γ}
    {g : β → Operation Q A δ} (h : Alike P R op op') (hf : ∀ a b, R a b → Alike P S (f a) (g b)) :
    Alike P S (op >>= f) (op' >>= g) := by
  refine Dialogue.Alike.bind h fun x y hxy => ?_
  cases hxy with
  | ok h => exact hf _ _ h
  | error e => exact .done (.error e)

theorem alike_ask {q q' : Q} (h : P q q') :
    Alike P Eq (ask q : Operation Q A A) (ask q' : Operation Q A A) :=
  .ask h fun _ => .done (.ok rfl)

theorem Alike.log_bind {op : Operation Q A α} {op' : Operation Q A β} (h : Alike P R op op')
    (e : Event) : Alike P R (log e >>= fun _ => op) (log e >>= fun _ => op') := .log h

theorem Alike.outcome {op : Operation Q A α} {op' : Operation Q A β} (h : Alike P R op op') :
    Alike P (SameOutcome R) op.outcome op'.outcome :=
  Dialogue.Alike.bind h fun _ _ hxy => .done (.ok hxy)

theorem Alike.onResource {op : Operation Q A α} {op' : Operation Q A β} (h : Alike P R op op')
    (id : ResourceId) : Alike P R (op.onResource id) (op'.onResource id) := by
  refine Dialogue.Alike.bind h fun x y hxy => .done ?_
  cases hxy with
  | ok h => exact .ok h
  | error e => exact .error (e.forResource id)

/-- **Alike operations that get the same answers run alike.** -/
theorem Alike.inTurn {op : Operation Q A α} {op' : Operation Q A β} (h : Alike P R op op')
    (answers : Nat → A) (n : Nat) :
    Dialogue.Run.Alike P (SameOutcome R) (op.against (Dialogue.inTurn answers) n)
      (op'.against (Dialogue.inTurn answers) n) :=
  Dialogue.Alike.inTurn h answers n

end Operation

/-! ## Calls -/

/-- A value without some of its members. -/
def Json.without (names : List String) : Json → Json
  | .obj members => .obj (members.filter fun m => m.1 ∉ names)
  | j => j

namespace Api

open Operation

/-- **Whether two calls differ at most in secret parameters.** -/
structure Discreet (c c' : Call) : Prop where
  action : c.action = c'.action
  masked : masked c.request = masked c'.request

theorem Discreet.refl (c : Call) : Discreet c c := ⟨rfl, rfl⟩

theorem without_masked (j : Json) :
    (masked j).without secretParameters = j.without secretParameters := by
  cases j with
  | obj members =>
    simp only [masked, Json.without, List.filter_map, Function.comp_def]
    refine congrArg Json.obj ((List.map_congr_left fun m hm => ?_).trans (List.map_id _))
    have hname : m.1 ∉ secretParameters := of_decide_eq_true (List.mem_filter.mp hm).2
    exact Prod.ext rfl (if_neg hname)
  | null | bool _ | int _ | float _ | str _ | arr _ => rfl

theorem Discreet.without_eq {c c' : Call} (h : Discreet c c') :
    c.request.without secretParameters = c'.request.without secretParameters := by
  rw [← without_masked, h.masked, without_masked]

theorem Discreet.callFields_eq {c c' : Call} (h : Discreet c c') :
    callFields c = callFields c' := by
  rw [callFields, callFields, h.action, h.masked]

theorem masked_object (members : List (String × Json)) :
    masked (.object members) = .object (members.map fun m =>
      (m.1, if m.1 ∈ secretParameters then .str "******" else m.2)) :=
  congrArg Json.obj
    (Fields.map_ofList (fun name j => if name ∈ secretParameters then .str "******" else j) members)

/-- **Calls that differ in secret parameters** write the same log. -/
theorem alike_call {α : Type} {action : Action} {request request' : Json}
    (h : masked request = masked request') {decode : Json → Except Issue α} :
    Alike Discreet Eq (call action request decode) (call action request' decode) := by
  have hdiscreet : Discreet ⟨action, request⟩ ⟨action, request'⟩ := ⟨rfl, h⟩
  refine Alike.bind (alike_ask hdiscreet) ?_
  rintro reply _ rfl
  cases reply with
  | error e =>
    dsimp only
    rw [failed, failed, hdiscreet.callFields_eq]
    exact Alike.log_bind alike_throw _
  | ok response =>
    dsimp only
    rw [succeeded, succeeded, hdiscreet.callFields_eq]
    exact Alike.refl .refl _

end Api

end CloudProvider
