import CloudProvider.Dialogue

/-!
# Courses of a dialogue

What a dialogue does depends on the answers alone. A course is one way in which it can go, for
answers that are not tied to any remote.

* `Dialogue.Course`: what can happen in a dialogue, and the result that it then has.
* **`Dialogue.course_run`**, **`Dialogue.run_scripted`**: every run is a course, and every course is
  the run against a remote that gives its answers in turn.
* `Dialogue.inTurn`: a remote that gives some answers, of which there are always more, in turn.
* `Operation.Yields`: the questions and answers of a course of an operation, and its outcome.
* `Operation.yields_bind`, `Operation.yields_ask`, …: the courses of an operation, from its parts.
-/

namespace CloudProvider

instance decidableEqExcept {ε α : Type} [DecidableEq ε] [DecidableEq α] :
    DecidableEq (Except ε α)
  | .ok a, .ok b => decidable_of_iff (a = b) ⟨congrArg _, Except.ok.inj⟩
  | .error e, .error f => decidable_of_iff (e = f) ⟨congrArg _, Except.error.inj⟩
  | .ok _, .error _ => isFalse nofun
  | .error _, .ok _ => isFalse nofun

namespace Dialogue

variable {Q A α β : Type}

/-- **A course of a dialogue**: what happens in it, and its result. -/
inductive Course : Dialogue Q A α → List (Happening Q A) → α → Prop
  | done (a : α) : Course (.done a) [] a
  | ask {q : Q} {next : A → Dialogue Q A α} {a : A} {t : List (Happening Q A)} {r : α} :
      Course (next a) t r → Course (.ask q next) (.asked q a :: t) r
  | log {e : Event} {rest : Dialogue Q A α} {t : List (Happening Q A)} {r : α} :
      Course rest t r → Course (.log e rest) (.logged e :: t) r
  | sleep {n : Nat} {rest : Dialogue Q A α} {t : List (Happening Q A)} {r : α} :
      Course rest t r → Course (.sleep n rest) (.slept n :: t) r

/-- The questions among some happenings, with their answers. -/
def exchanges (t : List (Happening Q A)) : List (Q × A) :=
  t.filterMap fun
    | .asked q a => some (q, a)
    | _ => none

theorem exchanges_append (t₁ t₂ : List (Happening Q A)) :
    exchanges (t₁ ++ t₂) = exchanges t₁ ++ exchanges t₂ := List.filterMap_append

/-- The questions of a run, with their answers. -/
def Run.exchanges {σ : Type} (r : Run σ Q A α) : List (Q × A) := Dialogue.exchanges r.trace

theorem Run.questions_eq {σ : Type} (r : Run σ Q A α) : r.questions = r.exchanges.map Prod.fst := by
  rw [Run.questions, Run.exchanges, Dialogue.exchanges, List.map_filterMap]
  congr 1
  funext h
  cases h <;> rfl

/-- **Every run is a course.** -/
theorem course_run {σ : Type} (remote : Remote σ Q A) (s : σ) (d : Dialogue Q A α) :
    Course d (d.run remote s).trace (d.run remote s).result := by
  induction d generalizing s with
  | done a => exact .done a
  | ask q next ih => exact .ask (ih (remote s q).1 (remote s q).2)
  | log e rest ih => exact .log (ih s)
  | sleep n rest ih => exact .sleep (ih s)

/-- **Every course is a run** against scripted answers. -/
theorem run_scripted {d : Dialogue Q A α} {t : List (Happening Q A)} {a : α} (h : Course d t a)
    (spent : Q → A) :
    d.run (scripted spent) ((exchanges t).map Prod.snd) = ⟨a, t, []⟩ := by
  induction h with
  | done a => rfl
  | ask _ ih =>
    simp only [exchanges, List.filterMap_cons, List.map_cons, run, scripted] at ih ⊢
    rw [ih]
    rfl
  | log _ ih =>
    simp only [exchanges, List.filterMap_cons, run] at ih ⊢
    rw [ih]
    rfl
  | sleep _ ih => simp only [exchanges, List.filterMap_cons, run] at ih ⊢; rw [ih]; rfl

theorem exists_answered {σ : Type} (remote : Remote σ Q A) (s : σ) (d : Dialogue Q A α) :
    ∀ x ∈ (d.run remote s).exchanges, ∃ s', x.2 = (remote s' x.1).1 := by
  induction d generalizing s with
  | done a => exact fun x hx => absurd hx List.not_mem_nil
  | ask q next ih =>
    have hrun : ((ask q next).run remote s).exchanges =
        (q, (remote s q).1) :: ((next (remote s q).1).run remote (remote s q).2).exchanges := rfl
    rw [hrun, List.forall_mem_cons]
    exact ⟨⟨s, rfl⟩, ih _ _⟩
  | log e rest ih => exact ih s
  | sleep n rest ih => exact ih s

/-- A remote that gives some answers in turn, whatever it is asked. -/
def inTurn (answers : Nat → A) : Remote Nat Q A := fun n _ => (answers n, n + 1)

theorem answers_of_inTurn (answers : Nat → A) (n : Nat) (d : Dialogue Q A α) :
    (d.run (inTurn answers) n).exchanges.map Prod.snd =
      (List.range' n (d.run (inTurn answers) n).exchanges.length).map answers := by
  induction d generalizing n with
  | done a => rfl
  | ask q next ih =>
    have hrun : ((ask q next).run (inTurn answers) n).exchanges =
        (q, answers n) :: ((next (answers n)).run (inTurn answers) (n + 1)).exchanges := rfl
    rw [hrun, List.map_cons, List.length_cons, List.range'_succ, List.map_cons, ih]
  | log e rest ih => exact ih n
  | sleep m rest ih => exact ih n

/-- **The same answers end a course at the same point.** -/
theorem Course.unique_of_append {d : Dialogue Q A α} {t t' : List (Happening Q A)} {a a' : α}
    (h : Course d t a) (h' : Course d t' a') {rest : List (Q × A)}
    (he : exchanges t' = exchanges t ++ rest) : rest = [] ∧ a' = a := by
  induction h generalizing t' with
  | done a =>
    cases h'
    exact ⟨he.symm, rfl⟩
  | ask _ ih =>
    cases h' with | ask h' =>
    obtain ⟨hx, hrest⟩ := List.cons.inj he
    obtain rfl := (Prod.mk.inj hx).2
    exact ih h' hrest
  | log _ ih =>
    cases h' with | log h' => exact ih h' he
  | sleep _ ih =>
    cases h' with | sleep h' => exact ih h' he

theorem course_bind {d : Dialogue Q A α} {f : α → Dialogue Q A β} {t : List (Happening Q A)}
    {b : β} : Course (d.bind f) t b ↔
      ∃ t₁ a t₂, t = t₁ ++ t₂ ∧ Course d t₁ a ∧ Course (f a) t₂ b := by
  constructor
  · intro h
    induction d generalizing t with
    | done a => exact ⟨[], a, t, rfl, .done a, h⟩
    | ask q next ih =>
      obtain _ | h := h
      obtain ⟨t₁, a, t₂, rfl, h₁, h₂⟩ := ih _ h
      exact ⟨_, a, t₂, rfl, .ask h₁, h₂⟩
    | log e rest ih =>
      obtain _ | _ | h := h
      obtain ⟨t₁, a, t₂, rfl, h₁, h₂⟩ := ih h
      exact ⟨_, a, t₂, rfl, .log h₁, h₂⟩
    | sleep n rest ih =>
      obtain _ | _ | _ | h := h
      obtain ⟨t₁, a, t₂, rfl, h₁, h₂⟩ := ih h
      exact ⟨_, a, t₂, rfl, .sleep h₁, h₂⟩
  · rintro ⟨t₁, a, t₂, rfl, h₁, h₂⟩
    induction h₁ with
    | done a => exact h₂
    | ask _ ih => exact .ask (ih h₂)
    | log _ ih => exact .log (ih h₂)
    | sleep _ ih => exact .sleep (ih h₂)

theorem course_map {d : Dialogue Q A α} {f : α → β} {t : List (Happening Q A)} {b : β} :
    Course (f <$> d) t b ↔ ∃ a, Course d t a ∧ b = f a := by
  have hm : f <$> d = d.bind fun a => .done (f a) := rfl
  rw [hm, course_bind]
  constructor
  · rintro ⟨t₁, a, t₂, rfl, h₁, h₂⟩
    cases h₂
    exact ⟨a, by simpa using h₁, rfl⟩
  · rintro ⟨a, h, rfl⟩
    exact ⟨t, a, [], by simp, h, .done _⟩

end Dialogue

namespace Operation

open Dialogue

variable {Q A α β : Type}

/-- **The run of an operation** against a remote in some state. -/
def against {σ : Type} (remote : Remote σ Q A) (s : σ) (op : Operation Q A α) :
    Dialogue.Run σ Q A (Except Error α) :=
  Dialogue.run remote s (ExceptT.run op)

/-- Some exchanges in which an operation can end with an outcome. -/
def Yields (op : Operation Q A α) (ex : List (Q × A)) (r : Except Error α) : Prop :=
  ∃ t, Course (ExceptT.run op) t r ∧ exchanges t = ex

theorem yields_against {σ : Type} (remote : Remote σ Q A) (s : σ) (op : Operation Q A α) :
    op.Yields (op.against remote s).exchanges (op.against remote s).result :=
  ⟨_, course_run remote s _, rfl⟩

/-- **What an operation can yield, it yields against some remote.** -/
theorem Yields.exists_against {op : Operation Q A α} {ex : List (Q × A)} {r : Except Error α}
    (h : op.Yields ex r) (spent : Q → A) :
    (op.against (scripted spent) (ex.map Prod.snd)).exchanges = ex ∧
      (op.against (scripted spent) (ex.map Prod.snd)).result = r := by
  obtain ⟨t, h, rfl⟩ := h
  rw [against, run_scripted h spent]
  exact ⟨rfl, rfl⟩

theorem Yields.unique {op : Operation Q A α} {ex : List (Q × A)} {r r' : Except Error α}
    (h : op.Yields ex r) (h' : op.Yields ex r') (spent : Q → A) : r = r' :=
  (h.exists_against spent).2.symm.trans (h'.exists_against spent).2

/-- **An operation that has ended asks nothing more.** -/
theorem Yields.unique_of_append {op : Operation Q A α} {ex rest : List (Q × A)}
    {r r' : Except Error α} (h : op.Yields ex r) (h' : op.Yields (ex ++ rest) r') :
    rest = [] ∧ r' = r := by
  obtain ⟨t, ht, rfl⟩ := h
  obtain ⟨t', ht', he⟩ := h'
  exact ht.unique_of_append ht' he

@[simp]
theorem yields_pure {a : α} {ex : List (Q × A)} {r : Except Error α} :
    Yields (pure a : Operation Q A α) ex r ↔ ex = [] ∧ r = .ok a := by
  constructor
  · rintro ⟨t, h, rfl⟩
    cases h
    exact ⟨rfl, rfl⟩
  · rintro ⟨rfl, rfl⟩
    exact ⟨[], .done _, rfl⟩

@[simp]
theorem yields_throw {e : Error} {ex : List (Q × A)} {r : Except Error α} :
    Yields (throw e : Operation Q A α) ex r ↔ ex = [] ∧ r = .error e := by
  constructor
  · rintro ⟨t, h, rfl⟩
    cases h
    exact ⟨rfl, rfl⟩
  · rintro ⟨rfl, rfl⟩
    exact ⟨[], .done _, rfl⟩

@[simp]
theorem yields_lift {x : Except Error α} {ex : List (Q × A)} {r : Except Error α} :
    Yields (liftM x : Operation Q A α) ex r ↔ ex = [] ∧ r = x := by
  constructor
  · rintro ⟨t, h, rfl⟩
    cases h
    exact ⟨rfl, rfl⟩
  · rintro ⟨rfl, rfl⟩
    exact ⟨[], .done _, rfl⟩

@[simp]
theorem yields_ask {q : Q} {ex : List (Q × A)} {r : Except Error A} :
    Yields (ask q : Operation Q A A) ex r ↔ ∃ a, ex = [(q, a)] ∧ r = .ok a := by
  constructor
  · rintro ⟨t, h, rfl⟩
    cases h with | @ask _ _ a _ _ h =>
    cases h
    exact ⟨a, rfl, rfl⟩
  · rintro ⟨a, rfl, rfl⟩
    exact ⟨[.asked q a], .ask (.done _), rfl⟩

@[simp]
theorem yields_log {e : Event} {ex : List (Q × A)} {r : Except Error Unit} :
    Yields (log e : Operation Q A Unit) ex r ↔ ex = [] ∧ r = .ok () := by
  constructor
  · rintro ⟨t, h, rfl⟩
    cases h with | log h =>
    cases h
    exact ⟨rfl, rfl⟩
  · rintro ⟨rfl, rfl⟩
    exact ⟨[.logged e], .log (.done _), rfl⟩

@[simp]
theorem yields_sleep {n : Nat} {ex : List (Q × A)} {r : Except Error Unit} :
    Yields (sleep n : Operation Q A Unit) ex r ↔ ex = [] ∧ r = .ok () := by
  constructor
  · rintro ⟨t, h, rfl⟩
    cases h with | sleep h =>
    cases h
    exact ⟨rfl, rfl⟩
  · rintro ⟨rfl, rfl⟩
    exact ⟨[.slept n], .sleep (.done _), rfl⟩

/-- **Two operations**: the first one fails, or the second one follows. -/
theorem yields_bind {op : Operation Q A α} {f : α → Operation Q A β} {ex : List (Q × A)}
    {r : Except Error β} : Yields (op >>= f) ex r ↔
      (∃ e, Yields op ex (.error e) ∧ r = .error e) ∨
      ∃ ex₁ a ex₂, ex = ex₁ ++ ex₂ ∧ Yields op ex₁ (.ok a) ∧ Yields (f a) ex₂ r := by
  have hb : ExceptT.run (op >>= f) = (ExceptT.run op).bind (ExceptT.bindCont f) := rfl
  constructor
  · rintro ⟨t, h, rfl⟩
    rw [hb, course_bind] at h
    obtain ⟨t₁, x, t₂, rfl, h₁, h₂⟩ := h
    cases x with
    | error e =>
      cases h₂
      exact .inl ⟨e, ⟨t₁, h₁, by simp⟩, rfl⟩
    | ok a => exact .inr ⟨_, a, _, exchanges_append t₁ t₂, ⟨t₁, h₁, rfl⟩, t₂, h₂, rfl⟩
  · rintro (⟨e, ⟨t, h, rfl⟩, rfl⟩ | ⟨_, a, _, rfl, ⟨t₁, h₁, rfl⟩, t₂, h₂, rfl⟩)
    · refine ⟨t ++ [], ?_, by simp⟩
      rw [hb, course_bind]
      exact ⟨t, _, [], rfl, h, .done _⟩
    · refine ⟨t₁ ++ t₂, ?_, exchanges_append t₁ t₂⟩
      rw [hb, course_bind]
      exact ⟨t₁, _, t₂, rfl, h₁, h₂⟩

theorem yields_outcome {op : Operation Q A α} {ex : List (Q × A)}
    {r : Except Error (Except Error α)} :
    Yields op.outcome ex r ↔ ∃ x, Yields op ex x ∧ r = .ok x := by
  have ho : ExceptT.run op.outcome = Except.ok <$> ExceptT.run op := rfl
  simp only [Yields, ho, course_map]
  constructor
  · rintro ⟨t, ⟨x, h, rfl⟩, rfl⟩
    exact ⟨x, ⟨t, h, rfl⟩, rfl⟩
  · rintro ⟨x, ⟨t, h, rfl⟩, rfl⟩
    exact ⟨t, ⟨x, h, rfl⟩, rfl⟩

theorem yields_silent_bind {op : Operation Q A Unit} {f : Unit → Operation Q A α}
    {ex : List (Q × A)} {r : Except Error α}
    (hop : ∀ ex r, Yields op ex r ↔ ex = [] ∧ r = .ok ()) :
    Yields (op >>= f) ex r ↔ Yields (f ()) ex r := by
  rw [yields_bind]
  constructor
  · rintro (⟨_, h, -⟩ | ⟨_, _, ex₂, rfl, h, h₂⟩)
    · cases ((hop _ _).mp h).2
    · rw [((hop _ _).mp h).1]
      exact h₂
  · intro h
    exact .inr ⟨[], (), ex, rfl, (hop _ _).mpr ⟨rfl, rfl⟩, h⟩

theorem yields_log_bind {e : Event} {f : Unit → Operation Q A α} {ex : List (Q × A)}
    {r : Except Error α} : Yields (log e >>= f) ex r ↔ Yields (f ()) ex r :=
  yields_silent_bind fun _ _ => yields_log

theorem yields_sleep_bind {n : Nat} {f : Unit → Operation Q A α} {ex : List (Q × A)}
    {r : Except Error α} : Yields (sleep n >>= f) ex r ↔ Yields (f ()) ex r :=
  yields_silent_bind fun _ _ => yields_sleep

theorem yields_ok_bind {x : Except Error α} {a : α} {f : α → Operation Q A β} {ex : List (Q × A)}
    {r : Except Error β} (hx : x = .ok a) :
    Yields ((liftM x : Operation Q A α) >>= f) ex r ↔ Yields (f a) ex r := by
  subst hx
  rfl

theorem yields_error_bind {x : Except Error α} {e : Error} {f : α → Operation Q A β}
    {ex : List (Q × A)} {r : Except Error β} (hx : x = .error e) :
    Yields ((liftM x : Operation Q A α) >>= f) ex r ↔ ex = [] ∧ r = .error e := by
  subst hx
  exact yields_throw

theorem yields_lift_bind_ok {x : Except Error α} {f : α → Operation Q A β} {ex : List (Q × A)}
    {b : β} : Yields ((liftM x : Operation Q A α) >>= f) ex (.ok b) ↔
      ∃ a, x = .ok a ∧ Yields (f a) ex (.ok b) := by
  cases x with
  | error e =>
    refine iff_of_false (fun h => ?_) fun ⟨_, h, _⟩ => nomatch h
    cases ((yields_error_bind rfl).mp h).2
  | ok a => exact (yields_ok_bind rfl).trans (by simp)

theorem yields_bind_silent {op : Operation Q A α} {f : α → Operation Q A β}
    {g : α → Except Error β} {ex : List (Q × A)} {r : Except Error β}
    (hf : ∀ a ex r, Yields (f a) ex r ↔ ex = [] ∧ r = g a) :
    Yields (op >>= f) ex r ↔ ∃ x, Yields op ex x ∧ r = x >>= g := by
  rw [yields_bind]
  constructor
  · rintro (⟨e, h, rfl⟩ | ⟨ex₁, a, ex₂, rfl, h, h₂⟩)
    · exact ⟨.error e, h, rfl⟩
    · obtain ⟨rfl, rfl⟩ := (hf a ex₂ r).mp h₂
      exact ⟨.ok a, by rwa [List.append_nil], rfl⟩
  · rintro ⟨x, h, rfl⟩
    cases x with
    | error e => exact .inl ⟨e, h, rfl⟩
    | ok a => exact .inr ⟨ex, a, [], by rw [List.append_nil], h, (hf a [] _).mpr ⟨rfl, rfl⟩⟩

theorem yields_bind_pure {op : Operation Q A α} {f : α → β} {ex : List (Q × A)}
    {r : Except Error β} :
    Yields (op >>= fun a => pure (f a)) ex r ↔ ∃ x, Yields op ex x ∧ r = x.map f :=
  yields_bind_silent fun _ _ _ => yields_pure

theorem yields_outcome_bind {op : Operation Q A α} {f : Except Error α → Operation Q A β}
    {g : Except Error α → Except Error β} {ex : List (Q × A)} {r : Except Error β}
    (hf : ∀ x ex r, Yields (f x) ex r ↔ ex = [] ∧ r = g x) :
    Yields (op.outcome >>= f) ex r ↔ ∃ x, Yields op ex x ∧ r = g x := by
  rw [yields_bind_silent hf]
  constructor
  · rintro ⟨y, hy, rfl⟩
    obtain ⟨x, hx, rfl⟩ := yields_outcome.mp hy
    exact ⟨x, hx, rfl⟩
  · rintro ⟨x, h, rfl⟩
    exact ⟨.ok x, yields_outcome.mpr ⟨x, h, rfl⟩, rfl⟩

theorem yields_onResource {id : ResourceId} {op : Operation Q A α} {ex : List (Q × A)}
    {r : Except Error α} :
    Yields (op.onResource id) ex r ↔
      ∃ x, Yields op ex x ∧ r = x.mapError fun e => e.forResource id := by
  have ho : ExceptT.run (op.onResource id) =
      Except.mapError (fun e : Error => e.forResource id) <$> ExceptT.run op := rfl
  simp only [Yields, ho, course_map]
  constructor
  · rintro ⟨t, ⟨x, h, rfl⟩, rfl⟩
    exact ⟨x, ⟨t, h, rfl⟩, rfl⟩
  · rintro ⟨x, ⟨t, h, rfl⟩, rfl⟩
    exact ⟨t, ⟨x, h, rfl⟩, rfl⟩

end Operation

end CloudProvider
