import CloudProvider.Proofs.Looking
import CloudProvider.Proofs.Tolerance

/-!
# Reads and queries of answers that are alike

A read and a query take from an answer nothing but what it is read as. So they end alike, with the
same calls, if the remote leaves out of its answers what may be left out.

* `Dialogue.Concur`, **`Dialogue.Concur.run`**: dialogues that go alike with answers of two sorts.
* `Operation.Indifferent`: an operation that does not tell such answers apart.
* `Api.Restates`: whether a reply says the same as another one.
* **`Provider.edits_unnoticed`**: entities, answers, reads and queries.
-/

namespace CloudProvider

/-! ## Dialogues -/

namespace Dialogue

variable {Q A α β σ : Type} {S : Q → A → A → Prop}

/-- **Whether two dialogues go alike** when their answers to each question are related by `S`: with
the same questions, the same pauses and the same result. They may write different logs. -/
inductive Concur (S : Q → A → A → Prop) : Dialogue Q A α → Dialogue Q A α → Prop
  | done (a : α) : Concur S (.done a) (.done a)
  | ask {q : Q} {next next' : A → Dialogue Q A α}
      (h : ∀ a a', S q a a' → Concur S (next a) (next' a')) :
      Concur S (.ask q next) (.ask q next')
  | log {e e' : Event} {rest rest' : Dialogue Q A α} (h : Concur S rest rest') :
      Concur S (.log e rest) (.log e' rest')
  | sleep {n : Nat} {rest rest' : Dialogue Q A α} (h : Concur S rest rest') :
      Concur S (.sleep n rest) (.sleep n rest')

theorem Concur.bind {d d' : Dialogue Q A α} {f g : α → Dialogue Q A β} (h : Concur S d d')
    (hf : ∀ a, Concur S (f a) (g a)) : Concur S (d.bind f) (d'.bind g) := by
  induction h with
  | done a => exact hf a
  | ask _ ih => exact .ask ih
  | log _ ih => exact .log ih
  | sleep _ ih => exact .sleep ih

/-- Whether two runs have the same result, questions and pauses. -/
structure Run.Concur (run run' : Run σ Q A α) : Prop where
  result : run.result = run'.result
  questions : run.questions = run'.questions
  elapsed : run.elapsed = run'.elapsed

/-- **Dialogues that go alike run alike** against related remotes. -/
theorem Concur.run {d d' : Dialogue Q A α} (h : Concur S d d') {remote remote' : Remote σ Q A}
    (hremote : ∀ s q, S q (remote s q).1 (remote' s q).1 ∧ (remote s q).2 = (remote' s q).2)
    (s : σ) : Run.Concur (d.run remote s) (d'.run remote' s) := by
  induction h generalizing s with
  | done a => exact ⟨rfl, rfl, rfl⟩
  | @ask q next next' _ ih =>
    obtain ⟨hanswer, hstate⟩ := hremote s q
    have hnext : ∀ s', (remote s q).2 = s' →
        Run.Concur ((next (remote s q).1).run remote (remote s q).2)
          ((next' (remote' s q).1).run remote' s') := by
      rintro _ rfl
      exact ih _ _ hanswer _
    obtain ⟨hresult, hquestions, helapsed⟩ := hnext _ hstate
    exact ⟨hresult, congrArg (q :: ·) hquestions, helapsed⟩
  | log _ ih =>
    obtain ⟨hresult, hquestions, helapsed⟩ := ih s
    exact ⟨hresult, hquestions, helapsed⟩
  | @sleep n _ _ _ ih =>
    obtain ⟨hresult, hquestions, helapsed⟩ := ih s
    exact ⟨hresult, hquestions, congrArg (n + ·) helapsed⟩

end Dialogue

/-! ## Operations -/

namespace Operation

open Dialogue

variable {Q A α β σ : Type} {S : Q → A → A → Prop}

/-- **Whether an operation does not tell apart answers** that are related by `S`. -/
def Indifferent (S : Q → A → A → Prop) (op : Operation Q A α) : Prop :=
  Concur S (ExceptT.run op) (ExceptT.run op)

theorem indifferent_pure {a : α} : Indifferent S (pure a : Operation Q A α) := .done _

theorem indifferent_throw {e : Error} : Indifferent S (throw e : Operation Q A α) := .done _

theorem indifferent_lift {x : Except Error α} : Indifferent S (liftM x : Operation Q A α) :=
  .done _

theorem indifferent_log {e : Event} : Indifferent S (log e : Operation Q A Unit) :=
  .log (.done _)

theorem Indifferent.bind {op : Operation Q A α} {f : α → Operation Q A β}
    (h : Indifferent S op) (hf : ∀ a, Indifferent S (f a)) : Indifferent S (op >>= f) := by
  refine Concur.bind h fun x => ?_
  cases x with
  | ok a => exact hf a
  | error e => exact .done _

theorem Indifferent.outcome {op : Operation Q A α} (h : Indifferent S op) :
    Indifferent S op.outcome :=
  Concur.bind h fun _ => .done _

theorem Indifferent.onResource {op : Operation Q A α} (h : Indifferent S op) (id : ResourceId) :
    Indifferent S (op.onResource id) :=
  Concur.bind h fun _ => .done _

theorem Indifferent.against {op : Operation Q A α} (h : Indifferent S op)
    {remote remote' : Remote σ Q A}
    (hremote : ∀ s q, S q (remote s q).1 (remote' s q).1 ∧ (remote s q).2 = (remote' s q).2)
    (s : σ) : Run.Concur (op.against remote s) (op.against remote' s) :=
  Concur.run h hremote s

end Operation

open Operation

/-! ## Calls -/

namespace Api

variable {α : Type}

/-- Whether two replies to a call are read as the same. -/
def SameAnswer (c : Call) (reply reply' : Reply) : Prop :=
  answer c.action reply = answer c.action reply'

/-- What is logged of a call with its reply. -/
def loggedOf (c : Call) : Reply → Event
  | .error e => failed c e
  | .ok response => succeeded c response

theorem run_call (action : Action) (request : Json) (decode : Json → Except Issue α) :
    ExceptT.run (call action request decode) = .ask ⟨action, request⟩ fun reply =>
      .log (loggedOf ⟨action, request⟩ reply) (.done (outcomeOf action decode reply)) := by
  refine congrArg (Dialogue.ask _) (funext fun reply => ?_)
  cases reply with
  | error e => rfl
  | ok response =>
    refine congrArg (Dialogue.log _) ?_
    rw [outcomeOf]
    cases decode response <;> rfl

theorem indifferent_call (action : Action) (request : Json) :
    Indifferent SameAnswer (call action request action.decode) := by
  rw [Indifferent, run_call]
  refine .ask fun reply reply' h => .log ?_
  have hanswer : outcomeOf action action.decode reply = outcomeOf action action.decode reply' := h
  rw [hanswer]
  exact .done _

theorem indifferent_orIfNotFound {S : Call → Reply → Reply → Prop} {service : Service}
    {op : Api α} {absent : α} (h : Indifferent S op) :
    Indifferent S (orIfNotFound service op absent) := by
  refine h.outcome.bind fun x => ?_
  cases x with
  | ok a => exact indifferent_pure
  | error e =>
    dsimp only
    split_ifs
    · exact indifferent_pure
    · exact indifferent_throw

end Api

open Api

theorem Lookup.indifferent_unique {α : Type} {S : Call → Reply → Reply → Prop}
    {entity key : String} {candidates : List α} :
    Indifferent S (unique entity key candidates : Api (Option α)) := by
  match candidates with
  | [] => exact indifferent_pure
  | [_] => exact indifferent_pure
  | _ :: _ :: _ => exact indifferent_log.bind fun _ => indifferent_throw

theorem Listing.indifferent_upTo {α : Type} {S : Call → Reply → Reply → Prop} {pageSize : UInt64}
    {bound : Option Nat} {fetch : Cursor → Api (Page α)} (h : ∀ c, Indifferent S (fetch c)) :
    Indifferent S (upTo pageSize bound fetch) :=
  upTo_induction indifferent_throw (fun _ => indifferent_pure) fun c _ hrest => (h c).bind hrest

/-! ## Look-ups -/

namespace Network

variable {pageSize : UInt64}

theorem indifferent_listVpcs {id name : Option String} :
    Indifferent SameAnswer (listVpcs pageSize id name) :=
  Listing.indifferent_upTo fun _ => indifferent_call .describeVpcs _

theorem indifferent_listSubnets {q : SubnetQuery} :
    Indifferent SameAnswer (listSubnets pageSize q) :=
  Listing.indifferent_upTo fun _ => indifferent_call .describeSubnets _

theorem indifferent_listRouteTables {q : RouteTableQuery} :
    Indifferent SameAnswer (listRouteTables pageSize q) :=
  Listing.indifferent_upTo fun _ => indifferent_call .describeRouteTables _

theorem indifferent_findVpc {id : String} : Indifferent SameAnswer (findVpc pageSize id) :=
  (indifferent_orIfNotFound indifferent_listVpcs).bind fun _ => Lookup.indifferent_unique

theorem indifferent_findSubnet {id : String} : Indifferent SameAnswer (findSubnet pageSize id) :=
  (indifferent_orIfNotFound indifferent_listSubnets).bind fun _ => Lookup.indifferent_unique

theorem indifferent_findRouteTable {id : String} :
    Indifferent SameAnswer (findRouteTable pageSize id) :=
  (indifferent_orIfNotFound indifferent_listRouteTables).bind fun _ => Lookup.indifferent_unique

end Network

namespace Mysql

theorem indifferent_listBackups {pageSize : UInt64} {mysqlId : String} {max : Nat} :
    Indifferent SameAnswer (listBackups pageSize mysqlId max) := by
  rw [listBackups]
  split_ifs
  · exact indifferent_pure
  · exact Listing.indifferent_upTo fun _ => indifferent_call .describeBackups _

theorem indifferent_findAccount {pageSize : UInt64} {mysqlId name : String} :
    Indifferent SameAnswer (findAccount pageSize mysqlId name) :=
  (Listing.indifferent_upTo fun _ => indifferent_call .describeAccounts _).bind fun _ =>
    Lookup.indifferent_unique

theorem indifferent_readPrivileges {mysqlId name database : String} :
    Indifferent SameAnswer (readPrivileges mysqlId name database) :=
  (indifferent_call .describeAccountPrivileges _).bind fun _ => indifferent_pure

end Mysql

/-! ## Reads -/

namespace Lifecycle

variable (settings : Settings)

theorem indifferent_findPrivileges (mysqlId name database : String) :
    Indifferent SameAnswer (findPrivileges settings mysqlId name database) := by
  refine Mysql.indifferent_findAccount.bind fun account => ?_
  cases account with
  | none => exact indifferent_pure
  | some _ => exact Mysql.indifferent_readPrivileges.bind fun _ => indifferent_pure

theorem indifferent_read (kind : LifecycleKind) (identifier : String) :
    Indifferent SameAnswer ((kind.lifecycle settings).read identifier) := by
  cases kind with
  | vpc => exact Network.indifferent_findVpc.bind fun _ => indifferent_pure
  | subnet => exact Network.indifferent_findSubnet.bind fun _ => indifferent_pure
  | routeTable => exact Network.indifferent_findRouteTable.bind fun _ => indifferent_pure
  | routeEntry =>
    refine indifferent_lift.bind fun id => ?_
    refine Network.indifferent_findRouteTable.bind fun table => ?_
    cases table with
    | none => exact indifferent_pure
    | some _ => exact indifferent_pure
  | account =>
    refine indifferent_lift.bind fun ⟨mysqlId, name⟩ => ?_
    exact indifferent_orIfNotFound (Mysql.indifferent_findAccount.bind fun _ => indifferent_pure)
  | privilege =>
    refine indifferent_lift.bind fun ⟨mysqlId, name, database⟩ => ?_
    exact indifferent_orIfNotFound
      ((indifferent_findPrivileges settings _ _ _).bind fun _ => indifferent_pure)
  | backupPolicy =>
    exact indifferent_orIfNotFound
      ((indifferent_call .describeBackupConfig _).bind fun _ => indifferent_pure)

end Lifecycle

/-! ## Queries -/

namespace DataSource

variable {pageSize : UInt64}

theorem indifferent_vpcItems (vpcs : List Network.Vpc) :
    Indifferent SameAnswer (vpcItems pageSize vpcs) := by
  induction vpcs with
  | nil => exact indifferent_pure
  | cons v rest ih =>
    exact Network.indifferent_listSubnets.bind fun _ => ih.bind fun _ => indifferent_pure

theorem indifferent_backupList (r : Resource) :
    Indifferent SameAnswer (backupList pageSize r) := by
  rw [backupList]
  cases r.text? "mysql_id" with
  | none => exact indifferent_throw
  | some mysqlId =>
    dsimp only
    split_ifs
    · exact indifferent_throw
    · exact Mysql.indifferent_listBackups.bind fun _ => indifferent_pure

theorem indifferent_parameterList (r : Resource) : Indifferent SameAnswer (parameterList r) := by
  rw [parameterList]
  cases r.text? "mysql_id" with
  | some mysqlId =>
    exact (indifferent_call .describeInstanceParams _).bind fun _ => indifferent_pure
  | none =>
    cases r.text? "engine_version" with
    | some version =>
      exact (indifferent_call .describeDefaultParams _).bind fun _ => indifferent_pure
    | none => exact indifferent_throw

theorem indifferent_dataSource (settings : Settings) (kind : SourceKind) (r : Resource) :
    Indifferent SameAnswer (kind.dataSource settings r) := by
  cases kind with
  | vpcInstances =>
    exact Network.indifferent_listVpcs.bind fun vpcs =>
      (indifferent_vpcItems vpcs).bind fun _ => indifferent_pure
  | vpcSubnets => exact Network.indifferent_listSubnets.bind fun _ => indifferent_pure
  | vpcRouteTables =>
    exact Network.indifferent_listRouteTables.bind fun _ =>
      indifferent_lift.bind fun _ => indifferent_pure
  | backupList => exact indifferent_backupList r
  | parameterList => exact indifferent_parameterList r
  | zoneConfig => exact (indifferent_call .describeZoneConfig _).bind fun _ => indifferent_pure

end DataSource

/-! ## Replies that say the same -/

namespace Api

/-- **Whether a reply to a call says the same as another one**: it is the same, or what it answers
can be read and is alike. -/
inductive Restates (c : Call) : Reply → Reply → Prop
  | same (reply : Reply) : Restates c reply reply
  | edited {j j' : Json} {a : c.action.Answer} (ha : c.action.decode j = .ok a)
      (h : c.action.layout.Alike j j') : Restates c (.ok j) (.ok j')

theorem Restates.sameAnswer {c : Call} {reply reply' : Reply} (h : Restates c reply reply') :
    SameAnswer c reply reply' := by
  cases h with
  | same => rfl
  | edited ha h =>
    have ha' := ((Action.tolerant c.action).of_alike h _).mp ha
    rw [SameAnswer, answer, outcomeOf, outcomeOf, ha, ha']

end Api

namespace Provider

variable (settings : Settings)

theorem indifferent_read (id : ResourceId) (identifier : Option String) :
    Indifferent SameAnswer (read settings id identifier) := by
  refine Indifferent.onResource (indifferent_lift.bind fun kind => ?_) id
  cases identifier with
  | none => exact indifferent_pure
  | some identifier =>
    refine (Lifecycle.indifferent_read settings kind identifier).bind fun attributes => ?_
    cases attributes with
    | none => exact indifferent_log.bind fun _ => indifferent_pure
    | some _ => exact indifferent_log.bind fun _ => indifferent_pure

theorem indifferent_query (r : Resource) : Indifferent SameAnswer (query settings r) := by
  refine Indifferent.onResource ?_ r.id
  refine indifferent_lift.bind fun kind => indifferent_lift.bind fun r => ?_
  refine (DataSource.indifferent_dataSource settings kind r).bind fun _ => ?_
  exact indifferent_log.bind fun _ => indifferent_pure

/-- **What may be left out does not count.** Entities and answers that differ in edits only, at any
depth and any number of them, are read as the same, or neither can be read. A read and a query that
get such answers instead of answers that can be read put the same calls and end alike. -/
theorem edits_unnoticed :
    (∀ (e : Entity) (j j' : Json), e.layout.Alike j j' →
      ∀ a, e.decode j = .ok a ↔ e.decode j' = .ok a) ∧
    (∀ (action : Action) (j j' : Json), action.layout.Alike j j' →
      ∀ a, action.decode j = .ok a ↔ action.decode j' = .ok a) ∧
    ∀ {σ : Type} (remote remote' : Dialogue.Remote σ Call Reply),
      (∀ s c, Restates c (remote s c).1 (remote' s c).1 ∧ (remote s c).2 = (remote' s c).2) →
      ∀ (settings : Settings) (start : σ),
        (∀ id identifier, ((read settings id identifier).against remote start).Concur
          ((read settings id identifier).against remote' start)) ∧
        ∀ r, ((query settings r).against remote start).Concur
          ((query settings r).against remote' start) := by
  refine ⟨fun e j j' h => (Entity.tolerant e).of_alike h,
    fun action j j' h => (Action.tolerant action).of_alike h, ?_⟩
  intro σ remote remote' hremote settings start
  have hsame : ∀ s c, SameAnswer c (remote s c).1 (remote' s c).1 ∧
      (remote s c).2 = (remote' s c).2 :=
    fun s c => ⟨(hremote s c).1.sameAnswer, (hremote s c).2⟩
  exact ⟨fun id identifier => (indifferent_read settings id identifier).against hsame start,
    fun r => (indifferent_query settings r).against hsame start⟩

/-- **The zones of a region are found alike**, whatever is left out. -/
theorem sparing_zones_unnoticed :
    let zones : Resource :=
      { id := ⟨"mysql_zone_config", "all"⟩, attributes := [], readOnly := true }
    let region (zone : Json) : Json :=
      .obj [("Region", .str "ap-guangzhou"), ("RegionConfig", .arr [zone])]
    let full : Json :=
      .obj [("IsCustom", .bool false), ("PayType", .arr []), ("Zone", .str "zone-3")]
    let sparing : Json := .obj [("PayType", .null), ("Zone", .str "zone-3")]
    let remote (zone : Json) : Dialogue.Remote Unit Call Reply := fun _ c =>
      (.ok (if c.action = .describeZoneConfig then .obj [("Items", .arr [region zone])] else .null),
        ())
    let run (zone : Json) :=
      (query ⟨"ap-guangzhou", 20, ⟨3, 1⟩⟩ zones).against (remote zone) ()
    Mysql.Zone.layout.Alike full sparing ∧ (run full).Concur (run sparing) ∧
      (run sparing).result.isOk = true := by
  intro zones region full sparing remote run
  have hnull : Mysql.Zone.layout.Edit full
      (.obj [("IsCustom", .bool false), ("PayType", .null), ("Zone", .str "zone-3")]) :=
    @Layout.Edit.member _ _ "PayType" _ _ _ (by simp) rfl (.empty .text)
  have hflag : Mysql.Zone.layout.Edit
      (.obj [("IsCustom", .bool false), ("PayType", .null), ("Zone", .str "zone-3")]) sparing :=
    @Layout.Edit.leaveOut _ _ "IsCustom" .flag _ (by simp) rfl (List.mem_singleton_self _)
  have hitems : ∀ zone zone', Mysql.Zone.layout.Edit zone zone' →
      Action.describeZoneConfig.layout.Edit (.obj [("Items", .arr [region zone])])
        (.obj [("Items", .arr [region zone'])]) := by
    intro zone zone' h
    have hregion : Mysql.Region.layout.Edit (region zone) (region zone') :=
      @Layout.Edit.member _ _ "RegionConfig" (.list Mysql.Zone.layout) _ _ (by simp) rfl
        (@Layout.Edit.item _ [] [] _ _ h)
    exact @Layout.Edit.member _ _ "Items" _ _ _ (List.mem_singleton_self _) rfl
      (@Layout.Edit.item _ [] [] _ _ hregion)
  obtain ⟨regions, hregions⟩ : ∃ regions,
      Action.describeZoneConfig.decode (.obj [("Items", .arr [region full])]) = .ok regions :=
    ⟨_, rfl⟩
  have hremote : ∀ s c, Restates c (remote full s c).1 (remote sparing s c).1 ∧
      (remote full s c).2 = (remote sparing s c).2 := by
    rintro s ⟨action, request⟩
    refine ⟨?_, rfl⟩
    by_cases haction : action = .describeZoneConfig
    · subst haction
      refine .edited hregions (.trans _ _ _ (.rel _ _ (hitems _ _ hnull)) (.rel _ _ ?_))
      exact hitems _ _ hflag
    · simp only [remote, if_neg haction]
      exact .same _
  exact ⟨.trans _ _ _ (.rel _ _ hnull) (.rel _ _ hflag),
    (edits_unnoticed.2.2 _ _ hremote _ ()).2 zones, by decide +kernel⟩

end Provider

end CloudProvider
