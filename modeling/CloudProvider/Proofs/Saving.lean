import CloudProvider.Config
import CloudProvider.Proofs.Json.Records

/-!
# Saved configurations

A configuration that is saved is loaded back, and what an edit of its file leaves out has its
default.

* `Text.decode?_encode`: the bytes of a text are those of no other.
* `Config.Keeps`: whether the members of an object are the saved ones but for some that are left
  out, with others beside them that are not known.
* `Config.without`: a configuration with defaults for what is left out.
* **`Config.ofText_of_isEdit`**: the configuration that an edited text gives.
* **`Config.load_of_save`**: what a configuration is saved as gives it back, and so does every edit
  of it, but for what the edit leaves out.
-/

namespace CloudProvider

/-! ## Bytes -/

namespace Text

theorem toList_loop (bytes : ByteArray) (i : Nat) (seen : List UInt8) :
    ByteArray.toList.loop bytes i seen = seen.reverse ++ bytes.data.toList.drop i := by
  induction i, seen using ByteArray.toList.loop.induct bytes with
  | case1 i seen h ih =>
    have hnext : bytes.data.toList.drop i = bytes.get! i :: bytes.data.toList.drop (i + 1) := by
      rw [List.drop_eq_getElem_cons (by simpa using h)]
      simp [ByteArray.get!, h]
    rw [ByteArray.toList.loop, if_pos h, ih, hnext, List.reverse_cons, List.append_assoc]
    rfl
  | case2 i seen h =>
    rw [ByteArray.toList.loop, if_neg h, List.drop_of_length_le (Nat.not_lt.mp h), List.append_nil]

/-- **The bytes of a text give it back.** -/
theorem decode?_encode (s : String) : decode? (encode s) = some s := by
  have hbytes : ByteArray.mk (encode s).toArray = s.toByteArray := by
    rw [encode, ByteArray.toList, toList_loop]
    rfl
  rw [decode?, hbytes, String.fromUTF8?, dif_pos s.isValidUTF8]
  rfl

end Text

namespace Fields

variable {α : Type} {fs gs : Fields α}

theorem get?_filter (p : String → Bool) (fs : Fields α) (key : String) :
    get? (List.filter (fun f => p f.1) fs) key = if p key then fs.get? key else none := by
  induction fs with
  | nil => simp
  | cons f rest ih =>
    obtain ⟨k, a⟩ := f
    rw [List.filter_cons, get?_cons]
    by_cases hk : key = k
    · subst hk
      by_cases hp : p key = true <;> simp [hp, ih, get?_cons]
    · by_cases hp : p k = true <;> simp [hp, hk, ih, get?_cons]

theorem get?_of_perm (h : List.Perm fs gs) (hgs : gs.keys.Nodup) (key : String) :
    fs.get? key = gs.get? key := by
  have hfs : fs.keys.Nodup := (h.map Prod.fst).nodup_iff.mpr hgs
  ext a
  exact ⟨fun ha => get?_of_mem hgs (h.mem_iff.mp (mem_of_get? ha)),
    fun ha => get?_of_mem hfs (h.mem_iff.mpr (mem_of_get? ha))⟩

end Fields

namespace Config

/-! ## Edited members -/

/-- **Whether members are the saved ones but for some that are left out**, in any order, and with
others beside them whose names are not known. -/
def Keeps (saved : List (String × Json)) (out : List String) (members : List (String × Json)) :
    Prop :=
  (members.filter fun m => decide (m.1 ∈ Fields.keys saved)).Perm
    (saved.filter fun m => decide (m.1 ∉ out))

section Keeps

variable {saved members : List (String × Json)} {out : List String}

theorem keeps_self (saved : List (String × Json)) : Keeps saved [] saved := by
  have hall : saved.filter (fun m => decide (m.1 ∈ Fields.keys saved)) = saved :=
    List.filter_eq_self.mpr fun m hm => decide_eq_true (List.mem_map_of_mem (f := Prod.fst) hm)
  have hnone : saved.filter (fun m => decide (m.1 ∉ ([] : List String))) = saved := by simp
  rw [Keeps, hall, hnone]

theorem Keeps.nodup (h : Keeps saved out members) (hsaved : (Fields.keys saved).Nodup) :
    ((Fields.keys members).filter fun name => decide (name ∈ Fields.keys saved)).Nodup := by
  rw [Fields.keys.eq_1 members, List.filter_map]
  refine (h.map Prod.fst).nodup_iff.mpr (hsaved.sublist ?_)
  exact (List.filter_sublist (l := saved)).map Prod.fst

theorem Keeps.get? (h : Keeps saved out members) (hsaved : (Fields.keys saved).Nodup)
    {name : String} (hname : name ∈ Fields.keys saved) :
    Fields.get? members name = if name ∈ out then none else Fields.get? saved name := by
  have hkept : (Fields.keys (saved.filter fun m => decide (m.1 ∉ out))).Nodup :=
    hsaved.sublist ((List.filter_sublist (l := saved)).map Prod.fst)
  have hknown := Fields.get?_filter (fun key => decide (key ∈ Fields.keys saved)) members name
  rw [if_pos (by simpa using hname), Fields.get?_of_perm h hkept,
    Fields.get?_filter fun key => decide (key ∉ out)] at hknown
  rw [← hknown]
  by_cases hout : name ∈ out <;> simp [hout]

/-- **What a column reads**: the saved value, or the default. -/
theorem Keeps.read_column {α : Type} (h : Keeps saved out members)
    (hsaved : (Fields.keys saved).Nodup) {ms : List (Option String × Document)}
    (hms : Document.MembersSpell ms members) {name : String} {item : Document → Except Issue α}
    {absent a : α} {j : Json} (hj : Fields.get? saved name = some j)
    (hitem : ∀ d : Document, d.Spells j → item d = .ok a) :
    (Row.column name item absent).read (Row.firstUnder ms) =
      .ok (if name ∈ out then absent else a) := by
  have hname : name ∈ Fields.keys saved :=
    List.mem_map_of_mem (f := Prod.fst) (Fields.mem_of_get? hj)
  have hfirst := hms.firstUnder name
  rw [h.get? hsaved hname, hj] at hfirst
  apply Row.read_column
  generalize Row.firstUnder ms name = first at hfirst ⊢
  split_ifs at hfirst ⊢
  · cases hfirst
    rfl
  · cases hfirst with
    | some hspells => exact hitem _ hspells

end Keeps

/-! ## What is saved -/

/-- The members that poll settings are saved as. -/
def Polls.members (p : Polls) : List (String × Json) :=
  [("max_attempts", .int p.attempts.toNat), ("interval_secs", .int p.interval.toNat)]

/-- The members that a configuration is saved as, with those of its poll settings. -/
def members (c : Config) (polls : List (String × Json)) : List (String × Json) :=
  [("region", .str c.region), ("secret_id", c.secretId.elim .null .str),
    ("secret_key", c.secretKey.elim .null .str), ("endpoint", c.endpoint.elim .null .str),
    ("page_size", .int c.pageSize.toNat), ("async_poll", .obj polls)]

theorem toJson_eq (c : Config) : c.toJson = .obj (c.members c.polls.members) := rfl

/-- **Poll settings with defaults for what is left out.** -/
def Polls.without (p : Polls) (out : List String) : Polls where
  attempts := if "max_attempts" ∈ out then ({} : Polls).attempts else p.attempts
  interval := if "interval_secs" ∈ out then ({} : Polls).interval else p.interval

/-- **A configuration with defaults for what is left out**, of it and of its poll settings. -/
def without (c : Config) (out pollsOut : List String) : Config where
  region := if "region" ∈ out then ({} : Config).region else c.region
  secretId := if "secret_id" ∈ out then none else c.secretId
  secretKey := if "secret_key" ∈ out then none else c.secretKey
  endpoint := if "endpoint" ∈ out then none else c.endpoint
  pageSize := if "page_size" ∈ out then ({} : Config).pageSize else c.pageSize
  polls := if "async_poll" ∈ out then {} else c.polls.without pollsOut

/-- **Whether a text is an edit of what a configuration is saved as**: the members in `out` are left
out, and those in `pollsOut` from the poll settings. -/
def IsEdit (c : Config) (out pollsOut : List String) (text : String) : Prop :=
  ∃ members polls : List (String × Json), Keeps c.polls.members pollsOut polls ∧
    Keeps (c.members polls) out members ∧ (Json.obj members).IsText text

theorem exact_nat {n : Nat} (h : n < 0x10000000000000000) : (Json.int n).Exact :=
  .int (by omega) (by omega)

theorem exact_toJson (c : Config) : c.toJson.Exact := by
  have htext (s : Option String) : (s.elim .null .str : Json).Exact := by
    cases s with
    | none => exact .null
    | some s => exact .str s
  have hattempts : c.polls.attempts.toNat < 0x10000000000000000 :=
    Nat.lt_trans c.polls.attempts.toNat_lt (by decide)
  have hpolls : (Json.obj c.polls.members).Exact := by
    refine .obj ?_
    simp only [Polls.members, List.forall_mem_cons]
    exact ⟨exact_nat hattempts, exact_nat c.polls.interval.toNat_lt, nofun⟩
  rw [toJson_eq]
  refine .obj ?_
  simp only [members, List.forall_mem_cons]
  exact ⟨.str _, htext _, htext _, htext _, exact_nat c.pageSize.toNat_lt, hpolls, nofun⟩

theorem isEdit_text (c : Config) : c.IsEdit [] [] c.text :=
  ⟨_, _, keeps_self _, keeps_self _, Json.isText_pretty c.exact_toJson⟩

theorem without_nil (c : Config) : c.without [] [] = c := by
  simp [without, Polls.without]

/-! ## Loading -/

theorem surface_text {d : Document} {s : String} (h : d.Spells (.str s)) :
    (d.surface >>= Json.asText) = .ok s := by
  rw [h.surface nofun nofun]
  rfl

theorem surface_text? {d : Document} {s : Option String} (h : d.Spells (s.elim .null .str)) :
    (d.surface >>= Json.asOption Json.asText) = .ok s := by
  cases s with
  | none =>
    rw [Document.Spells.surface h nofun nofun]
    rfl
  | some s =>
    rw [Document.Spells.surface h nofun nofun]
    rfl

theorem surface_nat64 {d : Document} {n : UInt64} (h : d.Spells (.int n.toNat)) :
    (d.surface >>= Json.asNat64) = .ok n := by
  rw [h.surface nofun nofun]
  have := n.toNat_lt
  simp [bind, Except.bind, Json.asNat64, this]

theorem surface_nat32 {d : Document} {n : UInt32} (h : d.Spells (.int n.toNat)) :
    (d.surface >>= Json.asNat32) = .ok n := by
  rw [h.surface nofun nofun]
  have := n.toNat_lt
  simp [bind, Except.bind, Json.asNat32, this]

theorem Polls.ofDocument_of_keeps {p : Polls} {out : List String} {members : List (String × Json)}
    (h : Keeps p.members out members) {d : Document} (hd : d.Spells (.obj members)) :
    (row Document.surface).ofDocument "AsyncPollConfig" d = .ok (p.without out) := by
  obtain ⟨ms, rfl, hms⟩ := hd.exists_object
  have hsaved : (Fields.keys p.members).Nodup := by
    change ["max_attempts", "interval_secs"].Nodup
    decide
  refine Row.ofDocument_object "AsyncPollConfig" hms (h.nodup hsaved) ?_
  exact Row.read_seq (Row.read_map Polls.mk (h.read_column hsaved hms rfl fun _ => surface_nat32))
    (h.read_column hsaved hms rfl fun _ => surface_nat64)

/-- **The configuration that an edited text gives.** -/
theorem ofText_of_isEdit {c : Config} {out pollsOut : List String} {text : String}
    (h : c.IsEdit out pollsOut text) : ofText text = .ok (c.without out pollsOut) := by
  obtain ⟨members, polls, hpolls, hmembers, d, hd, hspread⟩ := h
  refine Row.ofText_of_spread hd.isWhole hspread ?_
  obtain ⟨ms, rfl, hms⟩ := hd.exists_object
  have hsaved : (Fields.keys (c.members polls)).Nodup := by
    change ["region", "secret_id", "secret_key", "endpoint", "page_size", "async_poll"].Nodup
    decide
  refine Row.ofDocument_object "ProviderConfig" hms (hmembers.nodup hsaved) ?_
  exact Row.read_seq (Row.read_seq (Row.read_seq (Row.read_seq (Row.read_seq (Row.read_map Config.mk
    (hmembers.read_column hsaved hms rfl fun _ => surface_text))
    (hmembers.read_column hsaved hms rfl fun _ => surface_text?))
    (hmembers.read_column hsaved hms rfl fun _ => surface_text?))
    (hmembers.read_column hsaved hms rfl fun _ => surface_text?))
    (hmembers.read_column hsaved hms rfl fun _ => surface_nat64))
    (hmembers.read_column hsaved hms rfl fun _ => Polls.ofDocument_of_keeps hpolls)

theorem load_of_read {c : Config} {files : Files} {path text : String}
    (hread : files.read path = .ok (Text.encode text)) (h : ofText text = .ok c) :
    load files path = .ok c := by
  simp [load, ofFile, hread, Text.decode?_encode, h, bind, Except.bind, Except.mapError]

/-- **Saved configurations load back.** What a configuration is saved as gives it back. Every edit
of it that leaves out some of its members or of those of the poll settings, and adds members that
are not known, gives it back with defaults for what is left out. -/
theorem load_of_save (c : Config) (files : Files) (path : String) :
    (∀ files', c.save files path = .ok files' → load files' path = .ok c) ∧
      ∀ (out pollsOut : List String) (text : String), c.IsEdit out pollsOut text →
        files.read path = .ok (Text.encode text) →
          load files path = .ok (c.without out pollsOut) := by
  refine ⟨fun files' hsave => ?_, fun out pollsOut text hedit hread =>
    load_of_read hread (ofText_of_isEdit hedit)⟩
  have hread : files'.read path = .ok (Text.encode c.text) := by
    rw [save] at hsave
    cases hfiles : files.save path (Text.encode c.text) with
    | error f => simp [hfiles, Except.mapError] at hsave
    | ok saved =>
      obtain rfl : saved = files' := by simpa [hfiles, Except.mapError] using hsave
      exact Files.read_save hfiles
  rw [load_of_read hread (ofText_of_isEdit c.isEdit_text), without_nil]

end Config

/-! ## An edit -/

theorem Files.save_app (content : List UInt8) :
    Files.save {} "app.json" content = .ok ⟨[], [(["app.json"], .file content)]⟩ := by
  have hparent : Files.parent "app.json" = "" := by decide
  have htarget : Files.target {} "app.json" = .ok (.entry ["app.json"] false) := by decide +kernel
  have hshort : Files.isLong ["app.json"] = false := by decide
  have hnode : Files.node? {} ["app.json"] = none := rfl
  simp [Files.save, Files.makeParent, hparent, Files.write, htarget, hshort, hnode, Files.insert,
    bind, Except.bind, pure, Except.pure]

namespace Config

/-- A configuration with a key and with few polls. -/
def sparing : Config := { secretKey := some "key", polls := ⟨3, 30⟩ }

/-- Its file with most members left out and a comment added. -/
def sparingEdit : Json :=
  .obj [("comment", .str "few polls"), ("secret_key", .str "key"),
    ("async_poll", .obj [("max_attempts", .int 3)])]

theorem isEdit_sparingEdit : sparing.IsEdit ["region", "secret_id", "endpoint", "page_size"]
    ["interval_secs"] sparingEdit.pretty := by
  refine ⟨_, [("max_attempts", .int 3)], .of_eq rfl, .of_eq rfl, Json.isText_pretty ?_⟩
  have hpolls : (Json.obj [("max_attempts", .int 3)]).Exact :=
    .obj (List.forall_mem_singleton.mpr (exact_nat (by decide)))
  refine .obj ?_
  simp only [List.forall_mem_cons]
  exact ⟨.str _, .str _, hpolls, nofun⟩

theorem load_of_save_sparing :
    ∃ saved edited : Files, sparing.save {} "app.json" = .ok saved ∧
      Files.save {} "app.json" (Text.encode sparingEdit.pretty) = .ok edited ∧
      load saved "app.json" = .ok sparing ∧
      load edited "app.json" = .ok { secretKey := some "key", polls := ⟨3, 5⟩ } := by
  have hsave : sparing.save {} "app.json" =
      .ok ⟨[], [(["app.json"], .file (Text.encode sparing.text))]⟩ := by
    rw [save, Files.save_app]
    rfl
  have hedited := Files.save_app (Text.encode sparingEdit.pretty)
  exact ⟨_, _, hsave, hedited, (load_of_save sparing _ _).1 _ hsave,
    (load_of_save sparing _ _).2 _ _ _ isEdit_sparingEdit (Files.read_save hedited)⟩

end Config

end CloudProvider
