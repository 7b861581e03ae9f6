import CloudProvider.Proofs.Exec
import CloudProvider.Proofs.Identifier.Composite

/-!
# Identifiers made of names

The identifier of a route entry, an account or privileges is made of names with a separator between
them. It gives the names back, and is an address at all, just if none of them holds the separator.

* `LifecycleKind.names`: the desired names that an identifier is made of.
* `LifecycleKind.parse`: the names that an identifier gives back.
* `LifecycleKind.Writes`: whether an identifier is made of some names.
* **`LifecycleKind.Writes.parse_eq_ok`**, **`LifecycleKind.Writes.isAddress_iff`**: when it gives
  them back, and when it is an address.
-/

namespace CloudProvider

namespace LifecycleKind

/-- The attributes whose values an identifier is made of, where it is made of any. -/
def keys : LifecycleKind → List String
  | .routeEntry => ["route_table_id"]
  | .account => ["mysql_id", "name"]
  | .privilege => ["mysql_id", "account_name", "database_name"]
  | .vpc | .subnet | .routeTable | .backupPolicy => []

/-- The desired names that the identifier of a resource is made of. -/
def names (kind : LifecycleKind) (r : Resource) : List String :=
  kind.keys.map fun key => (r.text? key).getD ""

/-- What stands between the parts of an identifier. -/
def separator : LifecycleKind → Char
  | .routeEntry => '.'
  | _ => '#'

/-- **The names that an identifier gives back.** -/
def parse : LifecycleKind → String → Except Error (List String)
  | .routeEntry, s => do
    let id ← RouteEntryId.ofText s
    return [id.routeTable]
  | .account, s => do
    let (mysqlId, name) ← CompositeId.two s Mysql.Account.idShape
    return [mysqlId, name]
  | .privilege, s => do
    let (mysqlId, name, database) ← CompositeId.three s Mysql.Grant.idShape
    return [mysqlId, name, database]
  | .vpc, _ | .subnet, _ | .routeTable, _ | .backupPolicy, _ => .ok []

/-- Whether an identifier is made of some names. Other identifiers are those that the remote
gives. -/
inductive Writes : LifecycleKind → List String → String → Prop
  | routeEntry (entry : UInt64) (table : String) :
      Writes .routeEntry [table] (RouteEntryId.text ⟨entry, table⟩)
  | account (mysqlId name : String) :
      Writes .account [mysqlId, name] (Mysql.Account.idText mysqlId name)
  | privilege (mysqlId name database : String) :
      Writes .privilege [mysqlId, name, database] (Mysql.Grant.idText mysqlId name database)
  | given {kind : LifecycleKind} (hkind : kind.keys = []) (s : String) : Writes kind [] s

variable {kind : LifecycleKind} {names : List String} {s : String}

theorem isAddress_of_parse (h : kind.parse s = .ok names) : kind.IsAddress s := by
  cases kind with
  | routeEntry =>
    obtain ⟨id, hid, -⟩ := except_bind_eq_ok.mp h
    exact RouteEntryId.ofText_eq_ok hid
  | account =>
    obtain ⟨⟨a, b⟩, hid, -⟩ := except_bind_eq_ok.mp h
    exact CompositeId.two_eq_ok hid
  | privilege =>
    obtain ⟨⟨a, b, c⟩, hid, -⟩ := except_bind_eq_ok.mp h
    exact CompositeId.three_eq_ok hid
  | vpc | subnet | routeTable | backupPolicy => trivial

end LifecycleKind

/-! ## Identifiers of names -/

namespace RouteEntryId

theorem text_eq (id : RouteEntryId) :
    id.text = ".".intercalate [toString id.entry.toNat, id.routeTable] := by
  simp [text, String.append_assoc]
  rfl

theorem forall_parts_iff {id : RouteEntryId} :
    (∀ p ∈ [toString id.entry.toNat, id.routeTable], '.' ∉ p.toList) ↔
      '.' ∉ id.routeTable.toList := by
  rw [List.forall_mem_cons, List.forall_mem_singleton]
  exact and_iff_right (Text.not_mem_toString _ (by decide))

theorem length_pieces_text {id : RouteEntryId} :
    (Text.pieces '.' id.text).length = 2 ↔ '.' ∉ id.routeTable.toList := by
  rw [text_eq, ← forall_parts_iff]
  exact Text.length_pieces_intercalate rfl (by simp)

theorem ofText_text {id : RouteEntryId} (hne : id.routeTable ≠ "")
    (h : '.' ∉ id.routeTable.toList) : ofText id.text = .ok id := by
  have hpieces : Text.pieces '.' id.text = [toString id.entry.toNat, id.routeTable] := by
    rw [text_eq]
    exact Text.pieces_intercalate rfl (by simp) (forall_parts_iff.mpr h)
  have hentry : (Text.decimal? (toString id.entry.toNat).toList).filter (· < UInt64.size) =
      some id.entry.toNat := by
    rw [Text.decimal?_toString, Option.filter_some, if_pos (decide_eq_true id.entry.toNat_lt)]
  have hparse : parse id.text = .ok id := by
    rw [parse, hpieces]
    simp only [if_neg hne, hentry, UInt64.ofNat_toNat]
  rw [ofText, hparse]
  rfl

end RouteEntryId

namespace LifecycleKind.Writes

variable {kind : LifecycleKind} {names : List String} {s : String}

theorem parse_of_forall (h : kind.Writes names s) (hne : ∀ p ∈ names, p ≠ "")
    (hnames : ∀ p ∈ names, kind.separator ∉ p.toList) : kind.parse s = .ok names := by
  cases h with
  | routeEntry entry table =>
    have hid : RouteEntryId.ofText (RouteEntryId.text ⟨entry, table⟩) = .ok ⟨entry, table⟩ :=
      RouteEntryId.ofText_text (hne _ (by simp)) (hnames _ (by simp))
    simp only [parse, hid]
    rfl
  | account mysqlId name =>
    have hid : CompositeId.two (Mysql.Account.idText mysqlId name) Mysql.Account.idShape =
        .ok (mysqlId, name) :=
      CompositeId.two_text (hne _ (by simp)) (hne _ (by simp)) hnames
    simp only [parse, hid]
    rfl
  | privilege mysqlId name database =>
    have hid : CompositeId.three (Mysql.Grant.idText mysqlId name database) Mysql.Grant.idShape =
        .ok (mysqlId, name, database) :=
      CompositeId.three_text (hne _ (by simp)) (hne _ (by simp)) (hne _ (by simp)) hnames
    simp only [parse, hid]
    rfl
  | given hkind s =>
    cases kind with
    | vpc | subnet | routeTable | backupPolicy => rfl
    | routeEntry | account | privilege => cases hkind

theorem forall_of_isAddress (h : kind.Writes names s) (hs : kind.IsAddress s) :
    ∀ p ∈ names, kind.separator ∉ p.toList := by
  cases h with
  | routeEntry entry table =>
    obtain ⟨e, t, -, hpieces, -⟩ := hs
    have hlength := congrArg List.length hpieces
    exact List.forall_mem_singleton.mpr (RouteEntryId.length_pieces_text.mp hlength)
  | account mysqlId name =>
    obtain ⟨a, b, hpieces, -⟩ := hs
    have hlength := congrArg List.length hpieces
    exact (CompositeId.length_pieces_text (by simp)).mp hlength
  | privilege mysqlId name database =>
    obtain ⟨a, b, c, hpieces, -⟩ := hs
    have hlength := congrArg List.length hpieces
    exact (CompositeId.length_pieces_text (by simp)).mp hlength
  | given => simp

/-- **An identifier is an address** just if no name holds the separator. -/
theorem isAddress_iff (h : kind.Writes names s) (hne : ∀ p ∈ names, p ≠ "") :
    kind.IsAddress s ↔ ∀ p ∈ names, kind.separator ∉ p.toList :=
  ⟨h.forall_of_isAddress, fun hnames => isAddress_of_parse (h.parse_of_forall hne hnames)⟩

/-- **An identifier gives its names back** just if none holds the separator. -/
theorem parse_eq_ok (h : kind.Writes names s) (hne : ∀ p ∈ names, p ≠ "") :
    kind.parse s = .ok names ↔ ∀ p ∈ names, kind.separator ∉ p.toList :=
  ⟨fun hparse => h.forall_of_isAddress (isAddress_of_parse hparse), h.parse_of_forall hne⟩

end LifecycleKind.Writes

end CloudProvider
