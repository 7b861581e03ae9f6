import CloudProvider.Mysql.Client
import CloudProvider.Network.Client
import CloudProvider.Proofs.Exec
import CloudProvider.Proofs.Listing.Extent
import Mathlib.Data.List.Forall2

/-!
# Remotes with an inventory

A remote that lists what it has selects the records by the parameters of a request that do not
concern the page, and answers with the window that is asked for. The listing then has all records
that are selected, whatever the size of its pages.

* `Inventory`, `Inventory.InPages`, `Inventory.AtOnce`: what a remote has, and the remotes that
  answer with it page by page or all at once.
* `Inventory.windows`, `Inventory.everything`: one remote of each sort, for every inventory.
* `Inventory.entities`, `Inventory.Tells`: what there is to list, and the remotes that tell it.
* **`Inventory.InPages.result_upTo`**, `Inventory.AtOnce.result_upTo`: both do.
-/

namespace CloudProvider

open Listing Operation

/-! ## Requests for pages -/

/-- Whether an action lists entities page by page. -/
def Action.isListing : Action → Bool
  | .describeVpcs | .describeSubnets | .describeRouteTables | .describeAccounts
  | .describeBackups => true
  | _ => false

/-- The name under which an action lists its items. -/
def Action.itemsName : Action → String
  | .describeVpcs => "VpcSet"
  | .describeSubnets => "SubnetSet"
  | .describeRouteTables => "RouteTableSet"
  | _ => "Items"

/-- Whether a value is a record of an entity that an action lists. -/
def Action.IsRecord : Action → Json → Prop
  | .describeVpcs, j => ∃ a, Network.Vpc.ofJson j = .ok a
  | .describeSubnets, j => ∃ a, Network.Subnet.ofJson j = .ok a
  | .describeRouteTables, j => ∃ a, Network.RouteTable.ofJson j = .ok a
  | .describeAccounts, j => ∃ a, Mysql.Account.ofJson j = .ok a
  | .describeBackups, j => ∃ a, Mysql.Backup.ofJson j = .ok a
  | _, _ => True

/-- The number that a service reads in a request for a page: the network service has it as a decimal
text, the database service as an integer. -/
def Service.number? : Service → Json → Option Nat
  | .vpc, .str s => Text.decimal? s.toList
  | .cdb, .int n => if 0 ≤ n then some n.toNat else none
  | _, _ => none

/-- Where the page starts that a call asks for, and how many items it may hold. -/
def Call.window? (c : Call) : Option (Nat × Nat) :=
  ((c.request.member? "Offset").bind c.action.service.number?).bind fun offset =>
    ((c.request.member? "Limit").bind c.action.service.number?).map fun limit => (offset, limit)

/-- The parameters of a request that do not concern the page. -/
def Json.pageless : Json → Json
  | .obj members => .obj (members.filter fun m => m.1 ≠ "Offset" ∧ m.1 ≠ "Limit")
  | j => j

/-! ## Inventories -/

/-- **What a remote has**: the records that it lists for the parameters of a request, and its
answers to all other calls. -/
structure Inventory where
  select : Action → Json → List Json
  other : Call → Reply
  isRecord : ∀ action request, ∀ j ∈ select action request, action.IsRecord j

/-- The records that are selected for a call. -/
def Inventory.selected (inv : Inventory) (c : Call) : List Json :=
  inv.select c.action c.request.pageless

/-- Whether an answer gives some records under a name and a number of records in all. It may give
more than that. -/
def IsPage (itemsName : String) (total : Nat) (records : List Json) (reply : Reply) : Prop :=
  ∃ members, reply = .ok (.obj members) ∧
    Fields.get? members "TotalCount" = some (.int total) ∧
    Fields.get? members itemsName = some (.arr records)

/-- **A remote that answers page by page**, with the window of the records that is asked for. -/
structure Inventory.InPages (inv : Inventory) (remote : Call → Reply) : Prop where
  page : ∀ c offset limit, c.action.isListing = true → c.window? = some (offset, limit) →
    IsPage c.action.itemsName (inv.selected c).length
      (((inv.selected c).drop offset).take limit) (remote c)
  other : ∀ c, c.action.isListing = false → remote c = inv.other c

/-- **A remote that answers all at once**, whatever page it is asked for. -/
structure Inventory.AtOnce (inv : Inventory) (remote : Call → Reply) : Prop where
  page : ∀ c, c.action.isListing = true →
    IsPage c.action.itemsName (inv.selected c).length (inv.selected c) (remote c)
  other : ∀ c, c.action.isListing = false → remote c = inv.other c

/-- A page of some of the records that are selected for a call. -/
def Inventory.page (inv : Inventory) (c : Call) (records : List Json) : Reply :=
  .ok <| Json.object
    [("TotalCount", .int (inv.selected c).length), (c.action.itemsName, .arr records)]

/-- The remote that answers page by page with an inventory, and with nothing else. -/
def Inventory.windows (inv : Inventory) (c : Call) : Reply :=
  if c.action.isListing then
    match c.window? with
    | some (offset, limit) => inv.page c (((inv.selected c).drop offset).take limit)
    | none => .error ⟨c.action.name, "InvalidParameter", "no page is asked for", none⟩
  else inv.other c

/-- The remote that answers all at once with an inventory. -/
def Inventory.everything (inv : Inventory) (c : Call) : Reply :=
  if c.action.isListing then inv.page c (inv.selected c) else inv.other c

theorem Inventory.isPage_page (inv : Inventory) (c : Call) (records : List Json) :
    IsPage c.action.itemsName (inv.selected c).length records (inv.page c records) := by
  have hne : "TotalCount" ≠ c.action.itemsName := by
    cases c.action <;> decide
  refine ⟨_, rfl, ?_, ?_⟩
  · simp [Fields.ofList, hne]
  · simp [Fields.ofList]

theorem Inventory.inPages_windows (inv : Inventory) : inv.InPages inv.windows where
  page c offset limit hl hw := by
    rw [windows, if_pos hl, hw]
    exact inv.isPage_page c _
  other c hl := by rw [windows, if_neg (by simp [hl])]

theorem Inventory.atOnce_everything (inv : Inventory) : inv.AtOnce inv.everything where
  page c hl := by
    rw [everything, if_pos hl]
    exact inv.isPage_page c _
  other c hl := by rw [everything, if_neg (by simp [hl])]

/-! ## Answers that are pages -/

section Page

variable {α : Type} {item : Json → Except Issue α}

theorem Json.asItems_eq_ok {js : List Json} {as : List α} :
    asItems item js = .ok as ↔ List.Forall₂ (fun j a => item j = .ok a) js as := by
  induction js generalizing as with
  | nil => simp [asItems, eq_comm]
  | cons j js ih =>
    rw [asItems, List.forall₂_cons_left_iff]
    constructor
    · intro h
      obtain ⟨a, hj, h⟩ := except_bind_eq_ok.mp h
      obtain ⟨rest, hjs, h⟩ := except_bind_eq_ok.mp h
      exact ⟨a, rest, hj, ih.mp hjs, (Except.ok.inj h).symm⟩
    · rintro ⟨a, rest, hj, hjs, rfl⟩
      rw [hj, ih.mpr hjs]
      rfl

theorem Json.asItems_eq_mapM (js : List Json) : asItems item js = js.mapM item := by
  induction js with
  | nil => rfl
  | cons j js ih => rw [asItems, List.mapM_cons, ih]

/-- The only fault of a record is the first one. -/
theorem Faults.firstOf_singleton (name : String) (issue : Issue) (columns : List String) :
    ((Faults.mk (name, issue) []).firstOf columns).getD issue = issue := by
  cases h : (Faults.mk (name, issue) []).firstOf columns with
  | none => rfl
  | some found =>
    obtain ⟨column, -, h⟩ := List.exists_of_findSome?_eq_some h
    rw [Faults.toList, List.lookup_cons] at h
    split at h
    · exact (Option.some.inj h).symm
    · cases h

/-- A page, with its total if that can be read. -/
def pageOf (action : Action) (total : Nat) (items : List α) : Except Error (Page α) :=
  if total < UInt64.size then .ok ⟨items, UInt64.ofNat total⟩
  else .error (Api.undecodable action (.wrongValue total "u64"))

theorem read_totalCount {members : Fields Json} {total : Nat}
    (h : Fields.get? members "TotalCount" = some (.int total)) :
    Row.read (.column "TotalCount" Json.asNat64 0) (Fields.get? members) =
      if total < UInt64.size then .ok (UInt64.ofNat total)
      else .error ⟨("TotalCount", .wrongValue total "u64"), []⟩ := by
  simp only [Row.column, h, Json.asNat64, Int.toNat_natCast, Int.natCast_nonneg, true_and]
  by_cases ht : total < UInt64.size
  · rw [if_pos ht, if_pos ht]
    rfl
  · rw [if_neg ht, if_neg ht]
    rfl

theorem read_items {members : Fields Json} {itemsName : String} {records : List Json}
    {as : List α} (h : Fields.get? members itemsName = some (.arr records))
    (hitems : Json.asItems item records = .ok as) :
    Row.read (.column itemsName (Json.asListOrNull item) []) (Fields.get? members) = .ok as := by
  simp only [Row.column, h, Json.asListOrNull, Json.asList, hitems]
  rfl

/-- **What a call makes of a page.** -/
theorem outcomeOf_page {action : Action} {itemsName record : String} {total : Nat}
    {records : List Json} {as : List α} {reply : Reply} (h : IsPage itemsName total records reply)
    (hitems : Json.asItems item records = .ok as) :
    Api.outcomeOf action ((Network.pageRow itemsName item).ofJson record) reply =
      pageOf action total as := by
  obtain ⟨members, rfl, htotal, hrecords⟩ := h
  have hread : (Network.pageRow itemsName item).read (Fields.get? members) =
      if total < UInt64.size then .ok ⟨as, UInt64.ofNat total⟩
      else .error ⟨("TotalCount", .wrongValue total "u64"), []⟩ := by
    simp only [Network.pageRow, Functor.map, Seq.seq, read_totalCount htotal,
      read_items hrecords hitems]
    by_cases ht : total < UInt64.size
    · simp only [if_pos ht]
    · simp only [if_neg ht]
  rw [Api.outcomeOf, Row.ofJson, hread, pageOf]
  by_cases ht : total < UInt64.size
  · rw [if_pos ht, if_pos ht]
    rfl
  · rw [if_neg ht, if_neg ht]
    simp only [Except.mapError, Faults.firstOf_singleton]

end Page

/-! ## Requests of listings -/

/-- Whether the requests for the pages of a listing are some parameters with a page. -/
def Windowed (action : Action) (parameters : Json) (request : Cursor → Json) : Prop :=
  ∀ c, (request c).pageless = parameters ∧
    Call.window? ⟨action, request c⟩ = some (c.offset, c.limit.toNat)

theorem windowed_object {action : Action} {base : List (String × Json)}
    (hbase : ∀ m ∈ base, m.1 ≠ "Offset" ∧ m.1 ≠ "Limit") (write : Nat → Json)
    (hwrite : ∀ n, action.service.number? (write n) = some n) :
    Windowed action (Json.object base) fun c => Json.object
      (base ++ [("Offset", write c.offset), ("Limit", write c.limit.toNat)]) := by
  intro c
  let keeps : String → Bool := fun name => name ≠ "Offset" ∧ name ≠ "Limit"
  have hlimit : keeps "Limit" = false := rfl
  have hoffset : keeps "Offset" = false := rfl
  have hkeeps : ∀ f ∈ Fields.ofList base, keeps f.1 = true := fun f hf =>
    decide_eq_true (hbase f (Fields.mem_of_mem_ofList hf))
  have hrequest :
      Json.object (base ++ [("Offset", write c.offset), ("Limit", write c.limit.toNat)]) =
      .obj (((Fields.ofList base).insert "Offset" (write c.offset)).insert "Limit"
        (write c.limit.toNat)) := by
    rw [Json.object, ← Fields.ofList_append, ← Fields.ofList_append, List.append_assoc]
    rfl
  dsimp only
  rw [hrequest]
  constructor
  · exact congrArg Json.obj (((Fields.filter_insert hlimit _ _).trans
      (Fields.filter_insert hoffset _ _)).trans (List.filter_eq_self.mpr hkeeps))
  · simp [Call.window?, Json.member?, hwrite]

/-- The parameters of a listing of the entities with some ids and matching some filters. -/
def Network.parameters (idsName : String) (id : Option String)
    (filters : List (String × Option String)) : Json :=
  Json.object (unlessEmpty idsName (id.toList.map .str) ++
    unlessEmpty "Filters" (filterList filters))

theorem Network.fst_of_mem_unlessEmpty {name : String} {items : List Json} {m : String × Json}
    (h : m ∈ unlessEmpty name items) : m.1 = name := by
  rw [unlessEmpty] at h
  split at h
  · cases h
  · rw [List.mem_singleton.mp h]

theorem windowed_listRequest {action : Action} (h : action.service = .vpc) {idsName : String}
    (hids : idsName ≠ "Offset" ∧ idsName ≠ "Limit") (id : Option String)
    (filters : List (String × Option String)) :
    Windowed action (Network.parameters idsName id filters)
      (Network.listRequest idsName id filters) := by
  refine windowed_object (fun m hm => ?_) (fun n => .str (toString n)) fun n => ?_
  · rcases List.mem_append.mp hm with hm | hm
    · rw [Network.fst_of_mem_unlessEmpty hm]
      exact hids
    · rw [Network.fst_of_mem_unlessEmpty hm]
      decide
  · rw [h]
    exact Text.decimal?_toString n

theorem windowed_pageRequest {action : Action} (h : action.service = .cdb) (mysqlId : String) :
    Windowed action (Json.object [("InstanceId", .str mysqlId)]) (Mysql.pageRequest mysqlId) := by
  refine windowed_object (by simp) (fun n => .int n) fun n => ?_
  rw [h]
  simp [Service.number?]

/-! ## Remotes without a state -/

/-- A remote without a state. -/
def Dialogue.stateless {Q A : Type} (answer : Q → A) : Dialogue.Remote Unit Q A :=
  fun _ q => (answer q, ())

namespace Operation

/-- **The outcome of an operation** against a remote without a state. -/
def resultWith {Q A α : Type} (answer : Q → A) (op : Operation Q A α) : Except Error α :=
  (op.against (Dialogue.stateless answer) ()).result

theorem resultWith_eq {Q A α : Type} (answer : Q → A) (op : Operation Q A α) :
    resultWith answer op = (exec (Dialogue.stateless answer) () op).1 := rfl

section Parts

variable {Q A α β : Type} {answer : Q → A}

@[simp]
theorem resultWith_bind {op : Operation Q A α} {f : α → Operation Q A β} :
    resultWith answer (op >>= f) = resultWith answer op >>= fun a => resultWith answer (f a) := by
  rw [resultWith_eq, resultWith_eq, exec_bind]
  obtain ⟨r, _⟩ := exec (Dialogue.stateless answer) () op
  cases r with
  | error e => rfl
  | ok a => rfl

@[simp]
theorem resultWith_pure {a : α} : resultWith answer (pure a) = .ok a := rfl

@[simp]
theorem resultWith_lift {x : Except Error α} :
    resultWith answer (liftM x : Operation Q A α) = x := rfl

@[simp]
theorem resultWith_onResource {id : ResourceId} {op : Operation Q A α} :
    resultWith answer (op.onResource id) =
      (resultWith answer op).mapError fun e => e.forResource id := by
  rw [resultWith_eq, resultWith_eq, exec_onResource]

end Parts

variable {α : Type} {answer : Call → Reply}

@[simp]
theorem resultWith_unique {entity key : String} {candidates : List α} :
    resultWith answer (Lookup.unique entity key candidates) =
      Lookup.choice entity key candidates := by
  rw [resultWith_eq, Lookup.exec_unique]

@[simp]
theorem resultWith_orIfNotFound {service : Service} {op : Api α} {absent : α} :
    resultWith answer (Api.orIfNotFound service op absent) =
      Api.ifNotFound service absent (resultWith answer op) := by
  rw [resultWith_eq, resultWith_eq, Api.exec_orIfNotFound]

theorem resultWith_call {action : Action} {request : Json} {decode : Json → Except Issue α} :
    resultWith answer (Api.call action request decode) =
      Api.outcomeOf action decode (answer ⟨action, request⟩) := by
  rw [resultWith_eq, Api.exec_call]
  rfl

end Operation

/-! ## What is listed -/

/-- **The entities of an inventory** that an action lists for some parameters: one for each record,
in the order of the records. More of them than a page can count cannot be told. -/
def Inventory.entities {α : Type} (inv : Inventory) (action : Action)
    (item : Json → Except Issue α) (parameters : Json) : Except Error (List α) := do
  let found ← ((inv.select action parameters).mapM item).mapError (Api.undecodable action)
  if found.length < UInt64.size then return found
  else throw (Api.undecodable action (.wrongValue found.length "u64"))

/-- **A remote that tells what is in an inventory** when it is listed with a page size: the
entities, up to a bound, and what the inventory answers to all other calls. -/
structure Inventory.Tells (inv : Inventory) (pageSize : UInt64) (remote : Call → Reply) :
    Prop where
  listing : ∀ {α : Type} {item : Json → Except Issue α} {action : Action} {parameters : Json}
      {request : Cursor → Json} (bound : Option Nat) (record : String), action.isListing = true →
    Windowed action parameters request → (∀ j, action.IsRecord j → ∃ a, item j = .ok a) →
    resultWith remote (upTo pageSize bound fun c => Api.call action (request c)
        ((Network.pageRow action.itemsName item).ofJson record)) =
      (inv.entities action item parameters).map (cutTo bound)
  other : ∀ c, c.action.isListing = false → remote c = inv.other c

namespace Inventory

variable {inv : Inventory} {remote : Call → Reply} {α : Type} {item : Json → Except Issue α}
  {action : Action} {request : Cursor → Json} {parameters : Json} {as : List α} {limit : UInt64}
  {bound : Option Nat}

theorem exists_asItems {js : List Json} (h : ∀ j ∈ js, ∃ a, item j = .ok a) :
    ∃ as, Json.asItems item js = .ok as := by
  induction js with
  | nil => exact ⟨[], rfl⟩
  | cons j js ih =>
    obtain ⟨a, ha⟩ := h j List.mem_cons_self
    obtain ⟨as, has⟩ := ih fun j' hj' => h j' (List.mem_cons_of_mem j hj')
    exact ⟨a :: as, by rw [Json.asItems, ha, has]; rfl⟩

theorem entities_eq (has : Json.asItems item (inv.select action parameters) = .ok as) :
    inv.entities action item parameters =
      if as.length < UInt64.size then .ok as
      else .error (Api.undecodable action (.wrongValue as.length "u64")) := by
  rw [entities, ← Json.asItems_eq_mapM, has]
  rfl

theorem InPages.result_call (record : String) (h : inv.InPages remote)
    (hl : action.isListing = true) (hw : Windowed action parameters request) (c : Cursor)
    (has : Json.asItems item (inv.select action parameters) = .ok as) :
    resultWith remote (Api.call action (request c)
        ((Network.pageRow action.itemsName item).ofJson record)) =
      pageOf action as.length ((as.drop c.offset).take c.limit.toNat) := by
  have hforall := Json.asItems_eq_ok.mp has
  have hselected : inv.selected ⟨action, request c⟩ = inv.select action parameters := by
    rw [selected, (hw c).1]
  have hpage := h.page ⟨action, request c⟩ c.offset c.limit.toNat hl (hw c).2
  rw [hselected] at hpage
  rw [resultWith_eq, Api.exec_call, ← hforall.length_eq]
  exact outcomeOf_page hpage (Json.asItems_eq_ok.mpr
    (List.forall₂_take _ (List.forall₂_drop _ hforall)))

theorem AtOnce.result_call (record : String) (h : inv.AtOnce remote) (hl : action.isListing = true)
    (hw : Windowed action parameters request) (c : Cursor)
    (has : Json.asItems item (inv.select action parameters) = .ok as) :
    resultWith remote (Api.call action (request c)
        ((Network.pageRow action.itemsName item).ofJson record)) =
      pageOf action as.length as := by
  have hselected : inv.selected ⟨action, request c⟩ = inv.select action parameters := by
    rw [selected, (hw c).1]
  have hpage := h.page ⟨action, request c⟩ hl
  rw [hselected] at hpage
  rw [resultWith_eq, Api.exec_call, ← (Json.asItems_eq_ok.mp has).length_eq]
  exact outcomeOf_page hpage has

theorem result_upTo_of_error {fetch : Cursor → Api (Page α)} (hlimit : limit ≠ 0) {e : Error}
    (hfetch : resultWith remote (fetch ⟨0, limit⟩) = .error e) :
    resultWith remote (upTo limit bound fetch) = .error e := by
  change resultWith remote (fetch ⟨([] : List α).length, limit⟩) = .error e at hfetch
  rw [upTo, if_neg hlimit]
  change resultWith remote (collectFrom limit bound fetch [] ([] : List α).length) = .error e
  rw [collectFrom_eq, resultWith_bind, hfetch]
  rfl

/-- **A listing page by page** gives all that is selected. -/
theorem InPages.result_upTo (record : String) (h : inv.InPages remote) (hlimit : limit ≠ 0)
    (hl : action.isListing = true) (hw : Windowed action parameters request)
    (hitem : ∀ j, action.IsRecord j → ∃ a, item j = .ok a) :
    resultWith remote (upTo limit bound fun c => Api.call action (request c)
        ((Network.pageRow action.itemsName item).ofJson record)) =
      (inv.entities action item parameters).map (cutTo bound) := by
  obtain ⟨as, has⟩ := exists_asItems fun j hj => hitem j (inv.isRecord action parameters j hj)
  have hcall := fun c => h.result_call record hl hw c has
  have hpos : 0 < limit.toNat := Nat.pos_of_ne_zero fun h => hlimit (UInt64.toNat_inj.mp h)
  rw [entities_eq has]
  by_cases htotal : as.length < UInt64.size
  · rw [if_pos htotal]
    refine result_of_truthful (fun _ _ _ => Api.yields_call) hlimit (fun _ offset => ?_) ()
    have hpage := hcall ⟨offset, limit⟩
    rw [resultWith_eq, Api.exec_call, pageOf, if_pos htotal] at hpage
    exact ⟨_, limit.toNat, hpage, UInt64.toNat_ofNat_of_lt' htotal, rfl, le_rfl, fun _ => hpos⟩
  · rw [if_neg htotal]
    refine result_upTo_of_error hlimit ?_
    rw [hcall ⟨0, limit⟩, pageOf, if_neg htotal]

/-- **A listing all at once** gives the same. -/
theorem AtOnce.result_upTo (record : String) (h : inv.AtOnce remote) (hlimit : limit ≠ 0)
    (hl : action.isListing = true) (hw : Windowed action parameters request)
    (hitem : ∀ j, action.IsRecord j → ∃ a, item j = .ok a) :
    resultWith remote (upTo limit bound fun c => Api.call action (request c)
        ((Network.pageRow action.itemsName item).ofJson record)) =
      (inv.entities action item parameters).map (cutTo bound) := by
  obtain ⟨as, has⟩ := exists_asItems fun j hj => hitem j (inv.isRecord action parameters j hj)
  have hcall := fun c => h.result_call record hl hw c has
  rw [entities_eq has]
  by_cases htotal : as.length < UInt64.size
  · rw [if_pos htotal, upTo, if_neg hlimit]
    change resultWith remote (collectFrom limit bound _ [] ([] : List α).length) = _
    rw [collectFrom_eq, resultWith_bind, hcall, pageOf, if_pos htotal]
    have hlast : IsLast bound 0 (⟨as, UInt64.ofNat as.length⟩ : Page α) := by
      have hall : (UInt64.ofNat as.length).toNat = 0 + as.length := by
        rw [UInt64.toNat_ofNat_of_lt' htotal, Nat.zero_add]
      exact .inr (.inr (Nat.le_of_eq hall))
    change resultWith remote (if IsLast bound 0 _ then _ else _) = _
    rw [if_pos hlast]
    rfl
  · rw [if_neg htotal]
    refine result_upTo_of_error hlimit ?_
    rw [hcall ⟨0, limit⟩, pageOf, if_neg htotal]

theorem InPages.tells (h : inv.InPages remote) (hlimit : limit ≠ 0) : inv.Tells limit remote where
  listing _ record hl hw hitem := h.result_upTo record hlimit hl hw hitem
  other := h.other

theorem AtOnce.tells (h : inv.AtOnce remote) (hlimit : limit ≠ 0) : inv.Tells limit remote where
  listing _ record hl hw hitem := h.result_upTo record hlimit hl hw hitem
  other := h.other

end Inventory

end CloudProvider
