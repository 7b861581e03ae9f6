import CloudProvider.Proofs.Password
import CloudProvider.Proofs.Reading

/-!
# Passwords stay out of what a run shows

The runs of two changes of an account that differ in the passwords only, and that get the same
answers, write the same log. They put the same questions but for the parameters that hold a
password, and end alike.

* `Lifecycle.alike_createAccount`, `Lifecycle.alike_updateAccount`: the changes of an account.
* `Provider.alike_readBack`: the state that is read back.
* `Provider.Conceals`: what two runs show if they conceal the passwords.
* **`Provider.passwords_concealed`**: all creates and updates of an account conceal them.
-/

namespace CloudProvider

open Operation Api

/-! ## Changes of an account -/

namespace Lifecycle

variable {settings : Settings}

theorem alike_requested {action : Action} {request request' : Json}
    (h : masked request = masked request') :
    Alike Discreet Eq (Mysql.requested action request) (Mysql.requested action request') := by
  refine Alike.bind (alike_call h) ?_
  rintro id _ rfl
  exact Alike.refl .refl _

theorem alike_finish {change change' : Api String} (h : Alike Discreet Eq change change') :
    Alike Discreet Eq (finish settings change) (finish settings change') := by
  refine Alike.bind h ?_
  rintro id _ rfl
  exact Alike.refl .refl _

variable {p p' : String} {r r' : Resource}

theorem accountDescription_eq (h : Resource.AlikeBut p p' r r') :
    accountDescription r = accountDescription r' := by
  rw [accountDescription, accountDescription, h.text?_eq (by decide)]

theorem alike_required {β γ : Type} {R : β → γ → Prop} (h : Resource.AlikeBut p p' r r')
    (hp : p ≠ "") (hp' : p' ≠ "") {f : String → Api β} {g : String → Api γ}
    (hf : Alike Discreet R (f p) (g p')) :
    Alike Discreet R ((liftM (r.required "password") : Api String) >>= f)
      ((liftM (r'.required "password") : Api String) >>= g) := by
  rw [Resource.required_of_text? (Resource.text?_of_get? h.password hp),
    Resource.required_of_text? (Resource.text?_of_get? h.password' hp')]
  exact hf

/-- **A new account** is asked for alike, whatever its password. -/
theorem alike_createAccount (h : Resource.AlikeBut p p' r r') (hp : p ≠ "") (hp' : p' ≠ "") :
    Alike Discreet Eq (createAccount settings r) (createAccount settings r') := by
  have hcreate : ∀ mysqlId name description, Alike Discreet Eq
      (Mysql.createAccount mysqlId name p description)
      (Mysql.createAccount mysqlId name p' description) := by
    intro mysqlId name description
    refine alike_requested ?_
    simp [masked_object, secretParameters]
  rw [createAccount, createAccount, h.required_eq (by decide), h.required_eq (by decide),
    accountDescription_eq h]
  refine Alike.bind (Alike.refl .refl _) ?_
  rintro mysqlId _ rfl
  refine Alike.bind (Alike.refl .refl _) ?_
  rintro name _ rfl
  refine alike_required h hp hp' (Alike.bind (alike_finish (hcreate mysqlId name _)) ?_)
  rintro _ _ rfl
  exact alike_pure rfl

theorem alike_optional {c c' : Prop} [Decidable c] [Decidable c'] (hc : c ↔ c')
    {first first' second : Api Unit} (h : Alike Discreet Eq first first') :
    Alike Discreet Eq (do
      if c then first
      second) (do
      if c' then first'
      second) := by
  have hsecond : ∀ a b : Unit, a = b → Alike Discreet Eq second second :=
    fun _ _ _ => Alike.refl .refl _
  dsimp only
  by_cases h' : c
  · rw [if_pos h', if_pos (hc.mp h')]
    exact Alike.bind h hsecond
  · rw [if_neg h', if_neg (mt hc.mpr h')]
    exact Alike.refl .refl _

/-- **An account is updated alike** if both passwords change or none. -/
theorem alike_updateAccount {s : String} {current current' : State}
    (h : Resource.AlikeBut p p' r r') (hp : p ≠ "") (hp' : p' ≠ "")
    (hcurrent : ∀ key, key ≠ "password" → current.get? key = current'.get? key)
    (hsame : current.get? "password" = some (.text p) ↔
      current'.get? "password" = some (.text p')) :
    Alike Discreet Eq (updateAccount settings s current r)
      (updateAccount settings s current' r') := by
  have htext : ∀ (v : Option Value) q, v.bind Value.text? = some q ↔ v = some (.text q) := by
    rintro (_ | _ | _ | _ | _ | _) q <;> simp [Value.text?]
  have hset : ∀ mysqlId name, Alike Discreet Eq (Mysql.setPassword mysqlId name p)
      (Mysql.setPassword mysqlId name p') := by
    intro mysqlId name
    refine alike_requested ?_
    simp [masked_object, secretParameters]
  rw [updateAccount, updateAccount, accountDescription_eq h, hcurrent "description" (by decide)]
  refine Alike.bind (Alike.refl .refl _) ?_
  rintro ⟨mysqlId, name⟩ _ rfl
  refine alike_required h hp hp' (alike_optional ?_ (alike_finish (hset mysqlId name)))
  exact not_congr ((htext _ p).trans (hsame.trans (htext _ p').symm))

end Lifecycle

/-! ## Creates and updates -/

/-- A state without one of its attributes. -/
def State.without (key : String) : State → State
  | .absent id => .absent id
  | .existing id identifier attributes => .existing id identifier (attributes.erase key)

theorem Schema.replacements_congr {schema : Schema}
    {current current' desired desired' : Attributes}
    (h : ∀ d ∈ schema.attributes, d.2.forceNew = true →
      current.get? d.1 = current'.get? d.1 ∧ desired.get? d.1 = desired'.get? d.1) :
    schema.replacements current desired = schema.replacements current' desired' := by
  rw [replacements, replacements]
  refine List.filterMap_congr fun d hd => ?_
  dsimp only
  by_cases hnew : d.2.forceNew = true
  · rw [(h d hd hnew).1, (h d hd hnew).2]
  · simp only [hnew, Bool.false_eq_true, false_and, if_false]
    cases desired.get? d.1 <;> cases desired'.get? d.1 <;> rfl

namespace Provider

variable {settings : Settings} {p p' : String} {r r' : Resource}

theorem alike_logFailure {α β : Type} {R : α → β → Prop} {message : String} {id : ResourceId}
    {op : Api α} {op' : Api β} (h : Alike Discreet R op op') :
    Alike Discreet R (logFailure message id op) (logFailure message id op') := by
  refine Alike.bind h.outcome fun x y hxy => ?_
  cases hxy with
  | ok h => exact alike_pure h
  | error e => exact alike_throw.log_bind _

theorem erase_carryOver {schema : Schema} {key : String}
    (h : ∀ d ∈ schema.attributes, d.2.writeOnly = true → d.1 = key) (r : Resource)
    (attributes : Attributes) :
    (carryOver schema r attributes).erase key = attributes.erase key := by
  rw [carryOver]
  generalize schema.attributes = declared at h
  induction declared generalizing attributes with
  | nil => rfl
  | cons d rest ih =>
    obtain ⟨name, a⟩ := d
    obtain ⟨hd, hrest⟩ := List.forall_mem_cons.mp h
    rw [List.foldl_cons, ih _ hrest]
    dsimp only
    by_cases hw : a.writeOnly = true
    · rw [if_pos hw]
      obtain rfl := hd hw
      cases r.attributes.get? name with
      | none => rfl
      | some v =>
        exact Fields.filter_insert (p := fun k => decide (k ≠ name)) (by simp) attributes v
    · rw [if_neg hw]

/-- **What is read back is the same** but for the password. -/
theorem alike_readBack (h : Resource.AlikeBut p p' r r') (s : String) :
    Alike Discreet (fun st st' => st.without "password" = st'.without "password")
      (readBack Catalog.accountSchema (Lifecycle.account settings) r s)
      (readBack Catalog.accountSchema (Lifecycle.account settings) r' s) := by
  have hwriteOnly : ∀ d ∈ Catalog.accountSchema.attributes, d.2.writeOnly = true →
      d.1 = "password" := by decide +kernel
  rw [readBack, readBack, h.id]
  refine Alike.bind (Alike.refl .refl _) ?_
  rintro found _ rfl
  cases found with
  | none => exact alike_throw
  | some attributes =>
    refine alike_pure ?_
    rw [State.without, State.without, erase_carryOver hwriteOnly, erase_carryOver hwriteOnly]

/-- **Whether two runs conceal the passwords**: they write the same log, wait as long and put the
same questions but for the parameters that hold a password. They fail alike, and the states that
they give are the same but for the password. -/
structure Conceals {σ τ : Type} (run : Dialogue.Run σ Call Reply (Except Error State))
    (run' : Dialogue.Run τ Call Reply (Except Error State)) : Prop where
  events : run.events = run'.events
  elapsed : run.elapsed = run'.elapsed
  questions : List.Forall₂ (fun q q' => q.action = q'.action ∧
    q.request.without ["Password", "NewPassword"] =
      q'.request.without ["Password", "NewPassword"]) run.questions run'.questions
  error : ∀ e, run.result = .error e ↔ run'.result = .error e
  state : ∀ st st', run.result = .ok st → run'.result = .ok st' →
    st.without "password" = st'.without "password"

theorem conceals_of_alike {op op' : Api State}
    (h : Alike Discreet (fun st st' => st.without "password" = st'.without "password") op op')
    (answers : Nat → Reply) :
    Conceals (op.against (Dialogue.inTurn answers) 0)
      (op'.against (Dialogue.inTurn answers) 0) := by
  obtain ⟨hresult, hevents, helapsed, hquestions⟩ := h.inTurn answers 0
  refine ⟨hevents, helapsed, ?_, fun e => hresult.error_iff, fun st st' => hresult.rel⟩
  exact hquestions.imp fun _ _ hq => ⟨hq.action, hq.without_eq⟩

open Catalog

theorem ne_empty_of_isPassword (hp : IsPassword p) : p ≠ "" := by
  rintro rfl
  exact absurd hp (by decide)

theorem alike_prepared (r : Resource) (hp : IsPassword p) (hp' : IsPassword p') {α β : Type}
    {R : α → β → Prop} {f : Resource → Api α} {g : Resource → Api β}
    (hf : ∀ d d', Resource.AlikeBut p p' d d' → Alike Discreet R (f d) (g d')) :
    Alike Discreet R
      ((liftM (prepareFor accountSchema (Lifecycle.account settings) (r.withPassword p)) :
        Api Resource) >>= f)
      ((liftM (prepareFor accountSchema (Lifecycle.account settings) (r.withPassword p')) :
        Api Resource) >>= g) := by
  rw [prepareFor_eq fun _ => rfl, prepareFor_eq fun _ => rfl]
  exact Alike.bind (alike_lift (prepared_alike r hp hp')) hf

theorem alike_onKind {kind : LifecycleKind} {id : ResourceId} (hid : id.type = kind.name)
    {α β : Type} {R : α → β → Prop} {f : LifecycleKind → Api α} {g : LifecycleKind → Api β}
    (h : Alike Discreet R (f kind) (g kind)) :
    Alike Discreet R ((liftM (lifecycleKind id) : Api LifecycleKind) >>= f)
      ((liftM (lifecycleKind id) : Api LifecycleKind) >>= g) := by
  rw [lifecycleKind_of_type hid]
  exact h

theorem alike_create (settings : Settings) (r : Resource)
    (hid : r.id.type = LifecycleKind.account.name) (hp : IsPassword p) (hp' : IsPassword p') :
    Alike Discreet (fun st st' => st.without "password" = st'.without "password")
      (create settings (r.withPassword p)) (create settings (r.withPassword p')) := by
  refine Alike.onResource (alike_onKind hid ?_) r.id
  refine alike_prepared r hp hp' fun d d' hd => ?_
  rw [hd.id]
  refine Alike.log_bind (Alike.bind (alike_logFailure (Lifecycle.alike_createAccount hd
    (ne_empty_of_isPassword hp) (ne_empty_of_isPassword hp'))) ?_) _
  rintro identifier _ rfl
  exact Alike.log_bind (alike_readBack hd identifier) _

/-- **Two updates go alike** if both change the password or none. -/
theorem alike_update (settings : Settings) (id : ResourceId)
    (hid : id.type = LifecycleKind.account.name) (s : String) {current current' : State}
    (r : Resource) (hp : IsPassword p) (hp' : IsPassword p')
    (hcurrent : ∀ key, key ≠ "password" → current.get? key = current'.get? key)
    (hsame : current.get? "password" = some (.text p) ↔
      current'.get? "password" = some (.text p')) :
    Alike Discreet (fun st st' => st.without "password" = st'.without "password")
      (update settings id s current (r.withPassword p))
      (update settings id s current' (r.withPassword p')) := by
  refine Alike.onResource (alike_onKind hid ?_) id
  refine alike_prepared r hp hp' fun d d' hd => ?_
  have hforceNew : ∀ a ∈ accountSchema.attributes, a.2.forceNew = true → a.1 ≠ "password" := by
    decide +kernel
  have hreplacements : accountSchema.replacements current.attributes d.attributes =
      accountSchema.replacements current'.attributes d'.attributes := by
    refine Schema.replacements_congr fun a ha hnew => ?_
    exact ⟨hcurrent a.1 (hforceNew a ha hnew), hd.others a.1 (hforceNew a ha hnew)⟩
  have hcheck : SameOutcome Eq (checkReplacements accountSchema current d)
      (checkReplacements accountSchema current' d') := by
    rw [checkReplacements, checkReplacements, hreplacements]
    exact .refl _
  refine Alike.bind (alike_lift hcheck) fun _ _ _ => ?_
  refine Alike.log_bind (Alike.bind (alike_logFailure (Lifecycle.alike_updateAccount hd
    (ne_empty_of_isPassword hp) (ne_empty_of_isPassword hp') hcurrent hsame)) ?_) _
  rintro _ _ rfl
  exact alike_readBack hd s

theorem get?_of_without_eq {current current' : State} {key : String}
    (h : current.without key = current'.without key) {k : String} (hk : k ≠ key) :
    current.get? k = current'.get? k := by
  have herase : current.attributes.erase key = current'.attributes.erase key := by
    cases current with
    | absent _ =>
      cases current' with
      | absent _ => rfl
      | existing _ _ _ => cases h
    | existing _ _ _ =>
      cases current' with
      | absent _ => cases h
      | existing _ _ _ => exact (State.existing.inj h).2.2
  rw [State.get?, State.get?, ← Fields.get?_erase _ hk, herase, Fields.get?_erase _ hk]

/-- **Passwords do not show.** Two creates of an account, or two updates, that differ in the
passwords only and get the same answers conceal them, as long as both passwords conform and both
change or none does. -/
theorem passwords_concealed (settings : Settings) (answers : Nat → Reply) {p p' : String}
    (hp : IsPassword p) (hp' : IsPassword p') :
    (∀ r : Resource, r.id.type = "mysql_account" → Conceals
      ((create settings (r.withPassword p)).against (Dialogue.inTurn answers) 0)
      ((create settings (r.withPassword p')).against (Dialogue.inTurn answers) 0)) ∧
    ∀ (id : ResourceId) (s : String) (current current' : State) (r : Resource),
      id.type = "mysql_account" → current.without "password" = current'.without "password" →
      (current.get? "password" = some (.text p) ↔ current'.get? "password" = some (.text p')) →
      Conceals
        ((update settings id s current (r.withPassword p)).against (Dialogue.inTurn answers) 0)
        ((update settings id s current' (r.withPassword p')).against
          (Dialogue.inTurn answers) 0) := by
  constructor
  · intro r hid
    exact conceals_of_alike (alike_create settings r hid hp hp') answers
  · intro id s current current' r hid hcurrent hsame
    refine conceals_of_alike (alike_update settings id hid s r hp hp' ?_ hsame) answers
    exact fun _ hk => get?_of_without_eq hcurrent hk

/-- An account that is given one of two passwords. -/
theorem concealed_change_of_password :
    let id : ResourceId := ⟨"mysql_account", "app"⟩
    let attributes : Attributes :=
      .ofList [("mysql_id", .text "cdb-1"), ("name", .text "app"), ("description", .text "--")]
    let current : State :=
      .existing id (some "cdb-1#app") (attributes.insert "password" (.text "old-secret"))
    let replies : List Reply :=
      [.ok (Json.object [("AsyncRequestId", .str "req-1")]),
       .ok (Json.object [("Status", .str "SUCCESS")]),
       .ok (Json.object [("Items", .arr [Json.object [("User", .str "app"), ("Host", .str "%")]])])]
    let run := fun p => (update ⟨"ap-guangzhou", 20, ⟨3, 1⟩⟩ id "cdb-1#app" current
      ((Resource.mk id attributes false).withPassword p)).against
      (Dialogue.inTurn fun n => replies.getD n (.ok .null)) 0
    IsPassword "new-secret" ∧ IsPassword "other-new-secret" ∧
      (run "new-secret").questions.map (fun q => q.action) =
        [.modifyAccountPassword, .describeAsyncRequestInfo, .describeAccounts] ∧
      Conceals (run "new-secret") (run "other-new-secret") := by
  intro id attributes current replies run
  have hp : IsPassword "new-secret" := by decide
  have hp' : IsPassword "other-new-secret" := by decide
  refine ⟨hp, hp', by decide +kernel, ?_⟩
  exact (passwords_concealed _ _ hp hp').2 id "cdb-1#app" current current
    (Resource.mk id attributes false) rfl rfl (by decide +kernel)

end Provider

end CloudProvider
