import CloudProvider.Proofs.Network.Operations
import CloudProvider.Proofs.Network.Store
import CloudProvider.Proofs.Session

/-!
# Sessions about networks

Whatever a user asks for about networks, and in whatever order, the provider answers as a ledger
would that is kept by what has been written.

* `Network.Ledger.entryAfter`, `Network.Ledger.record`: what a request that went well writes into a
  ledger.
* `Network.Answers`: how a ledger answers a request.
* `Network.Agrees`, **`Network.refines_of_vpc`**: records, ledger and what the user knows go
  together, and a request keeps it so.
* **`Network.history_refines_ledger`**: the outcomes of a session are the answers of its ledger, and
  a read gives what was written last.
-/

namespace CloudProvider.Network

open Catalog Operation Provider

/-! ## The ledger of a session -/

namespace Ledger

/-- The identifier whose entry a request changes that went well. -/
def changed? : Request × Outcome → Option String
  | (.create _, .ok (some st)) => st.identifier?
  | (.update _ identifier _, .ok _) | (.delete _ identifier, .ok _) => some identifier
  | _ => none

/-- **The entry after a request that went well**: a creation gives what was desired, an update too
but keeps the servers where none were desired, and after a removal there is none. -/
def entryAfter (l : Ledger) (identifier : String) : Request → Option Entry
  | .create r => some (Entry.written r [])
  | .read _ _ => l identifier
  | .update _ _ r => (l identifier).map fun e => Entry.written r e.dnsServers
  | .delete _ _ => none

/-- A ledger with one more request recorded. -/
def record (l : Ledger) (x : Request × Outcome) : Ledger :=
  match changed? x with
  | some identifier => Function.update l identifier (l.entryAfter identifier x.1)
  | none => l

theorem record_of_changed? (l : Ledger) {x : Request × Outcome} {identifier : String}
    (h : changed? x = some identifier) :
    l.record x identifier = l.entryAfter identifier x.1 := by
  rw [record, h]
  exact Function.update_self _ _ _

theorem record_of_ne (l : Ledger) {x : Request × Outcome} {identifier : String}
    (h : changed? x ≠ some identifier) : l.record x identifier = l identifier := by
  rw [record]
  cases hx : changed? x with
  | none => rfl
  | some i =>
    have hi : identifier ≠ i := fun hi => h (hi ▸ hx)
    exact Function.update_of_ne hi _ _

theorem foldl_record_of_ne (l : Ledger) {history : List (Request × Outcome)} {identifier : String}
    (h : ∀ x ∈ history, changed? x ≠ some identifier) :
    history.foldl record l identifier = l identifier := by
  induction history generalizing l with
  | nil => rfl
  | cons x rest ih =>
    rw [List.foldl_cons, ih _ fun y hy => h y (List.mem_cons_of_mem x hy)]
    exact record_of_ne l (h x List.mem_cons_self)

end Ledger

/-- **Whether an entry can be updated**: the desired attributes conform and keep the block, and a
state to start from is known. -/
structure Updatable (l : Ledger) (known : Known) (identifier : String) (desired : Resource)
    (e : Entry) : Prop where
  entry : l identifier = some e
  conforms : ∃ prepared, prepare vpcSchema desired = .ok prepared
  block : (Entry.written desired e.dnsServers).cidrBlock = e.cidrBlock
  isKnown : (known identifier).isSome = true

/-- **How a ledger answers a request.** Only what does not conform is not created, reads and
removals never fail, and only an entry that cannot be updated is not. -/
inductive Answers (l : Ledger) (known : Known) : Request → Outcome → Prop
  | created {r prepared : Resource} {identifier : String} {st : State}
      (hprepare : prepare vpcSchema r = .ok prepared) (hnew : l identifier = none)
      (hst : (Entry.written r []).ShownBy r.id identifier st) :
      Answers l known (.create r) (.ok (some st))
  | notCreated {r : Resource} {e : Error} (hprepare : prepare vpcSchema r = .error e) :
      Answers l known (.create r) (.error (e.forResource r.id))
  | read {id : ResourceId} {identifier : String} {st : State}
      (hst : ReadsAs id identifier st (l identifier)) :
      Answers l known (.read id (some identifier)) (.ok (some st))
  | readNothing {id : ResourceId} : Answers l known (.read id none) (.ok (some (.absent id)))
  | updated {id : ResourceId} {identifier : String} {desired : Resource} {e : Entry} {st : State}
      (h : Updatable l known identifier desired e)
      (hst : (Entry.written desired e.dnsServers).ShownBy desired.id identifier st) :
      Answers l known (.update id identifier desired) (.ok (some st))
  | notUpdated {id : ResourceId} {identifier : String} {desired : Resource} {e : Error}
      (h : ∀ entry, ¬ Updatable l known identifier desired entry) :
      Answers l known (.update id identifier desired) (.error e)
  | deleted {id : ResourceId} {identifier : String} :
      Answers l known (.delete id identifier) (.ok none)

/-! ## One request -/

/-- **Records, ledger and what the user knows go together**: the ledger is that of the records, and
the state that is known of an entry shows it. -/
structure Agrees (l : Ledger) (known : Known) (vpcs : List Vpc) : Prop where
  ledger_eq : Network.ledger vpcs = l
  shown : ∀ identifier e st, l identifier = some e → known identifier = some st →
    e.Shown st.attributes

theorem Agrees.replace {l : Ledger} {known : Known} {vpcs vpcs' : List Vpc}
    (h : Agrees l known vpcs) {identifier : String} {entry : Option Entry} {state : Option State}
    (hshown : ∀ e st, entry = some e → state = some st → e.Shown st.attributes)
    (hledger : ledger vpcs' = Function.update (ledger vpcs) identifier entry) :
    Agrees (Function.update l identifier entry) (Function.update known identifier state) vpcs' where
  ledger_eq := by rw [hledger, h.ledger_eq]
  shown i e st he hst := by
    by_cases hi : i = identifier
    · subst hi
      rw [Function.update_self] at he hst
      exact hshown e st he hst
    · rw [Function.update_of_ne hi] at he hst
      exact h.shown i e st he hst

theorem Agrees.write {l : Ledger} {known : Known} {vpcs vpcs' : List Vpc} (h : Agrees l known vpcs)
    {identifier : String} {e : Entry} {st : State} (hst : e.Shown st.attributes)
    (hledger : ledger vpcs' = Function.update (ledger vpcs) identifier (some e)) :
    Agrees (Function.update l identifier (some e))
      (Function.update known identifier (some st)) vpcs' := by
  refine h.replace (fun e' st' he hst' => ?_) hledger
  cases he
  cases hst'
  exact hst

theorem Agrees.read {l : Ledger} {known : Known} {vpcs vpcs' : List Vpc} (h : Agrees l known vpcs)
    {id : ResourceId} {identifier : String} {st : State}
    (hst : ReadsAs id identifier st (l identifier)) (hvpcs : vpcs' = vpcs) :
    Agrees l (Function.update known identifier (some st)) vpcs' := by
  have hsame : Agrees (Function.update l identifier (l identifier))
      (Function.update known identifier (some st)) vpcs' := by
    refine h.replace (fun e st' he hst' => ?_) ?_
    · cases hst'
      rw [he] at hst
      obtain ⟨attributes, rfl, hshown⟩ := hst
      exact hshown
    · rw [hvpcs, h.ledger_eq, Function.update_eq_self]
  rwa [Function.update_eq_self] at hsame

theorem Agrees.remove {l : Ledger} {known : Known} {vpcs vpcs' : List Vpc} (h : Agrees l known vpcs)
    {identifier : String}
    (hledger : ledger vpcs' = Function.update (ledger vpcs) identifier none) :
    Agrees (Function.update l identifier none) known vpcs' := by
  have hsame : Agrees (Function.update l identifier none)
      (Function.update known identifier (known identifier)) vpcs' :=
    h.replace (fun _ _ he => nomatch he) hledger
  rwa [Function.update_eq_self] at hsame

section Step

variable {σ : Type} {remote : Dialogue.Remote σ Call Reply} {vpcs : σ → List Vpc}
  {passes : Json → Vpc → Bool} {settings : Settings} {s : σ} {l : Ledger} {known : Known}

/-- **Whether a request refines the ledger**: it is answered as the ledger does, and then records,
ledger and what the user knows still go together. -/
def Refines (settings : Settings) (remote : Dialogue.Remote σ Call Reply) (vpcs : σ → List Vpc)
    (s : σ) (l : Ledger) (known : Known) (q : Request) : Prop :=
  ∃ outcome s', exec remote s (q.operation settings known) = (outcome, s') ∧
    Answers l known q outcome ∧
    Agrees (l.record (q, outcome)) (note known (q, outcome)) (vpcs s')

theorem refines_create (h : KeepsVpcs remote vpcs passes) (hp : settings.pageSize ≠ 0)
    (hs : Agrees l known (vpcs s)) {r : Resource} (hr : r.id.type = "vpc") :
    Refines settings remote vpcs s l known (.create r) := by
  cases hprepare : prepare vpcSchema r with
  | error e =>
    have hexec := exec_create_refused settings remote s hr hprepare
    exact ⟨_, s, exec_bind_error hexec, .notCreated hprepare, hs⟩
  | ok prepared =>
    obtain ⟨identifier, st, s', hexec, hst, hnew, hledger⟩ := exec_create h hp s hr hprepare
    rw [hs.ledger_eq] at hnew
    refine ⟨.ok (some st), s', exec_bind_ok hexec, .created hprepare hnew hst, ?_⟩
    obtain ⟨attributes, rfl, hshown⟩ := hst
    exact hs.write hshown hledger

theorem refines_read (h : KeepsVpcs remote vpcs passes) (hp : settings.pageSize ≠ 0)
    (hs : Agrees l known (vpcs s)) {id : ResourceId} (hid : id.type = "vpc")
    (identifier : Option String) :
    Refines settings remote vpcs s l known (.read id identifier) := by
  cases identifier with
  | none =>
    have hexec : exec remote s (Provider.read settings id none) = (.ok (.absent id), s) := by
      rw [Provider.read, exec_onResource, exec_ok_bind (lifecycleKind_vpc hid)]
      rfl
    exact ⟨_, s, exec_bind_ok hexec, .readNothing, hs⟩
  | some identifier =>
    obtain ⟨st, s', hexec, hst, hvpcs⟩ := exec_read h hp s hid identifier
    rw [hs.ledger_eq] at hst
    exact ⟨.ok (some st), s', exec_bind_ok hexec, .read hst, hs.read hst hvpcs⟩

theorem refines_notUpdated (hs : Agrees l known (vpcs s)) {id : ResourceId} {identifier : String}
    {desired : Resource} {e : Error} {s' : σ}
    (hexec : exec remote s (update settings id identifier ((known identifier).getD (.absent id))
      desired) = (.error e, s'))
    (hvpcs : vpcs s' = vpcs s) (hnot : ∀ entry, ¬ Updatable l known identifier desired entry) :
    Refines settings remote vpcs s l known (.update id identifier desired) :=
  ⟨.error e, s', exec_bind_error hexec, .notUpdated hnot, hvpcs ▸ hs⟩

/-- Where nothing else speaks against an update that cannot be made, there is no entry. -/
theorem eq_none_of_not_updatable (hs : Agrees l known (vpcs s)) {id : ResourceId}
    {identifier : String} {desired prepared : Resource}
    (hprepare : prepare vpcSchema desired = .ok prepared)
    (hreplace : vpcSchema.replacements ((known identifier).getD (.absent id)).attributes
      prepared.attributes = [])
    (hnot : ∀ e, ¬ Updatable l known identifier desired e) : l identifier = none := by
  cases he : l identifier with
  | none => rfl
  | some e =>
    cases hst : known identifier with
    | none =>
      rw [hst] at hreplace
      exact absurd hreplace (Entry.replacements_ne_nil hprepare)
    | some st =>
      rw [hst] at hreplace
      have hblock : (Entry.written desired e.dnsServers).cidrBlock = e.cidrBlock :=
        (Entry.replacements_eq_nil hprepare (hs.shown identifier e st he hst)).mp hreplace
      exact absurd ⟨he, ⟨prepared, hprepare⟩, hblock, by simp [hst]⟩ (hnot e)

theorem refines_updated (h : KeepsVpcs remote vpcs passes) (hp : settings.pageSize ≠ 0)
    (hs : Agrees l known (vpcs s)) {id : ResourceId} (hid : id.type = "vpc") {identifier : String}
    {desired : Resource} {e : Entry} (hu : Updatable l known identifier desired e) :
    Refines settings remote vpcs s l known (.update id identifier desired) := by
  obtain ⟨prepared, hprepare⟩ := hu.conforms
  obtain ⟨current, hcurrent⟩ := Option.isSome_iff_exists.mp hu.isKnown
  have hshown : e.Shown ((known identifier).getD (.absent id)).attributes := by
    rw [hcurrent]
    exact hs.shown identifier e current hu.entry hcurrent
  obtain ⟨st, s', hexec, hst, hledger⟩ :=
    exec_update h hp s hid hprepare (hs.ledger_eq ▸ hu.entry) hshown hu.block
  have hrecord : l.record (.update id identifier desired, .ok (some st)) =
      Function.update l identifier (some (Entry.written desired e.dnsServers)) := by
    change Function.update l identifier ((l identifier).map _) = _
    rw [hu.entry]
    rfl
  refine ⟨.ok (some st), s', exec_bind_ok hexec, .updated hu hst, ?_⟩
  obtain ⟨attributes, rfl, hattributes⟩ := hst
  rw [hrecord]
  exact hs.write hattributes hledger

theorem refines_update (h : KeepsVpcs remote vpcs passes) (hp : settings.pageSize ≠ 0)
    (hs : Agrees l known (vpcs s)) {id : ResourceId} (hid : id.type = "vpc") (identifier : String)
    (desired : Resource) :
    Refines settings remote vpcs s l known (.update id identifier desired) := by
  by_cases hu : ∃ e, Updatable l known identifier desired e
  · obtain ⟨e, hu⟩ := hu
    exact refines_updated h hp hs hid hu
  · have hnot : ∀ e, ¬ Updatable l known identifier desired e := fun e he => hu ⟨e, he⟩
    cases hprepare : prepare vpcSchema desired with
    | error e =>
      exact refines_notUpdated hs (exec_update_refused settings remote s hid hprepare _ _) rfl hnot
    | ok prepared =>
      by_cases hreplace : vpcSchema.replacements ((known identifier).getD (.absent id)).attributes
          prepared.attributes = []
      · have hgone : ledger (vpcs s) identifier = none :=
          hs.ledger_eq ▸ eq_none_of_not_updatable hs hprepare hreplace hnot
        obtain ⟨e, s', hexec, hvpcs⟩ := exec_update_gone h s hid hprepare hreplace hgone
        exact refines_notUpdated hs hexec hvpcs hnot
      · obtain ⟨e, hexec⟩ := exec_update_replaced settings remote s hid hprepare hreplace identifier
        exact refines_notUpdated hs hexec rfl hnot

/-- **Every request about a network refines the ledger.** -/
theorem refines_of_vpc (h : KeepsVpcs remote vpcs passes) (hp : settings.pageSize ≠ 0)
    (hs : Agrees l known (vpcs s)) {q : Request} (hq : q.type = "vpc") :
    Refines settings remote vpcs s l known q := by
  cases q with
  | create r => exact refines_create h hp hs hq
  | read id identifier => exact refines_read h hp hs hq identifier
  | update id identifier desired => exact refines_update h hp hs hq identifier desired
  | delete id identifier =>
    obtain ⟨s', hexec, hledger⟩ := exec_delete h hp s hq identifier
    exact ⟨.ok none, s', exec_bind_ok hexec, .deleted, hs.remove hledger⟩

/-! ## Whole sessions -/

/-- **The outcomes of a session are the answers of its ledger.** -/
theorem answers_of_history (h : KeepsVpcs remote vpcs passes) (hp : settings.pageSize ≠ 0)
    (hs : Agrees l known (vpcs s)) {requests : List Request} (hq : ∀ q ∈ requests, q.type = "vpc")
    {past future : List (Request × Outcome)} {x : Request × Outcome}
    (hx : history settings remote s known requests = past ++ x :: future) :
    Answers (past.foldl Ledger.record l) (past.foldl note known) x.1 x.2 := by
  -- The remote, the ledger and what the user knows all move on with each request, so the induction
  -- is over the requests for any of the three that agree.
  induction requests generalizing s l known past with
  | nil => simp [history] at hx
  | cons q rest ih =>
    obtain ⟨outcome, s', hexec, hanswers, hs'⟩ := refines_of_vpc h hp hs (hq q List.mem_cons_self)
    rw [history, hexec] at hx
    cases past with
    | nil =>
      obtain ⟨rfl, -⟩ := List.cons.inj hx
      exact hanswers
    | cons y past =>
      obtain ⟨rfl, hrest⟩ := List.cons.inj hx
      exact ih hs' (fun q hq' => hq q (List.mem_cons_of_mem _ hq')) hrest

end Step

theorem Answers.of_read {l : Ledger} {known : Known} {id : ResourceId} {identifier : String}
    {outcome : Outcome} (h : Answers l known (.read id (some identifier)) outcome) :
    ∃ st, outcome = .ok (some st) ∧ ReadsAs id identifier st (l identifier) := by
  cases h with
  | read hst => exact ⟨_, rfl, hst⟩

/-- **A provider with a remote that keeps records of networks refines a ledger.** Every outcome of a
session is the answer of the ledger that has been written up to then. So what is read of an
identifier is what was written last under it. -/
theorem history_refines_ledger {σ : Type} {remote : Dialogue.Remote σ Call Reply}
    {vpcs : σ → List Vpc} {passes : Json → Vpc → Bool} (h : KeepsVpcs remote vpcs passes)
    (settings : Settings) (hp : settings.pageSize ≠ 0) (start : σ) (requests : List Request)
    (hq : ∀ q ∈ requests, q.type = "vpc") :
    let session := history settings remote start (fun _ => none) requests
    let ledgerAfter := fun past => List.foldl Ledger.record (ledger (vpcs start)) past
    (∀ past x future, session = past ++ x :: future →
      Answers (ledgerAfter past) (past.foldl note fun _ => none) x.1 x.2) ∧
    ∀ past write between id identifier outcome future,
      session = past ++ write :: (between ++ (.read id (some identifier), outcome) :: future) →
      Ledger.changed? write = some identifier →
      (∀ x ∈ between, Ledger.changed? x ≠ some identifier) →
      ∃ st, outcome = .ok (some st) ∧
        ReadsAs id identifier st ((ledgerAfter past).entryAfter identifier write.1) := by
  intro session ledgerAfter
  have hs : Agrees (ledger (vpcs start)) (fun _ => none) (vpcs start) :=
    ⟨rfl, fun _ _ _ _ hknown => nomatch hknown⟩
  have hanswers : ∀ past x future, session = past ++ x :: future →
      Answers (ledgerAfter past) (past.foldl note fun _ => none) x.1 x.2 :=
    fun past x future hx => answers_of_history h hp hs hq hx
  refine ⟨hanswers, ?_⟩
  intro past write between id identifier outcome future hx hwrite hbetween
  have hread : session =
      (past ++ write :: between) ++ (.read id (some identifier), outcome) :: future := by
    rw [hx, List.append_assoc, List.cons_append]
  obtain ⟨st, rfl, hst⟩ := (hanswers _ _ _ hread).of_read
  have hentry : ledgerAfter (past ++ write :: between) identifier =
      (ledgerAfter past).entryAfter identifier write.1 := by
    simp only [ledgerAfter, List.foldl_append, List.foldl_cons]
    rw [Ledger.foldl_record_of_ne _ hbetween, Ledger.record_of_changed? _ hwrite]
  exact ⟨st, rfl, hentry ▸ hst⟩

/-- A desired network, with servers if there are any. -/
def desiredVpc (name cidrBlock : String) (more : List (String × Value)) : Resource where
  id := ⟨"vpc", name⟩
  attributes := .ofList ([("name", .text name), ("cidr_block", .text cidrBlock)] ++ more)

/-- A network is created and renamed, another one is created, and the first one is read. -/
def twoNetworks : List Request :=
  [.create (desiredVpc "web" "10.0.0.0/16" [("dns_servers", .texts ["10.0.0.2"])]),
   .update ⟨"vpc", "web"⟩ "vpc-0"
     (desiredVpc "shop" "10.0.0.0/16" [("is_multicast", .bool false)]),
   .create (desiredVpc "depot" "10.1.0.0/16" []),
   .read ⟨"vpc", "web"⟩ (some "vpc-0")]

/-- The first network has its new name, and the servers it was created with. -/
theorem history_of_twoNetworks :
    let session := history ⟨"ap-guangzhou", 1, ⟨3, 1⟩⟩ Store.answer .empty (fun _ => none)
      twoNetworks
    (1 : UInt64) ≠ 0 ∧ (∀ q ∈ twoNetworks, q.type = "vpc") ∧
      ∃ st, session[3]? = some (.read ⟨"vpc", "web"⟩ (some "vpc-0"), .ok (some st)) ∧
        Entry.ShownBy ⟨"shop", "10.0.0.0/16", false, ["10.0.0.2"]⟩ ⟨"vpc", "web"⟩ "vpc-0" st := by
  intro session
  have hq : ∀ q ∈ twoNetworks, q.type = "vpc" := by decide
  refine ⟨by decide, hq, ?_⟩
  obtain ⟨-, hreads⟩ := history_refines_ledger Store.keepsVpcs_answer ⟨"ap-guangzhou", 1, ⟨3, 1⟩⟩
    (by decide) Store.empty twoNetworks hq
  obtain ⟨st, hst, hshown⟩ := hreads [_] _ [_] ⟨"vpc", "web"⟩ "vpc-0" _ [] rfl (by decide +kernel)
    (by decide +kernel)
  generalize hentry : Ledger.entryAfter _ "vpc-0" _ = entry at hshown
  obtain rfl : entry = some ⟨"shop", "10.0.0.0/16", false, ["10.0.0.2"]⟩ := by
    rw [← hentry]
    decide +kernel
  refine ⟨st, ?_, hshown⟩
  rw [← hst]
  rfl

end CloudProvider.Network
