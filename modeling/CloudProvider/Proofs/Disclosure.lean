import CloudProvider.Proofs.Secrecy

/-!
# Passwords that errors quote

The check of a text by its length quotes the text, whatever it is. So the error of a create tells
the password of an account when the password is too short or too long.

* `Text.le_iff_of_parts`: texts are ordered by the first letter in which they differ.
* `Text.intercalate_inj`: a joined text tells its parts, given how long they are.
* `Schema.violations_swap`: what is wrong with another value of the same length.
* **`Provider.complaint_eq_iff`**: which two passwords an error does not tell apart.
-/

namespace CloudProvider

open Operation Api

/-! ## Texts -/

namespace Text

theorem append_cons_lt_append_cons {q s t : List Char} {c d : Char} (hne : c ≠ d) :
    q ++ c :: s < q ++ d :: t ↔ c < d := by
  induction q with
  | nil => simp [List.cons_lt_cons_iff, hne]
  | cons a q ih => simp [ih]

/-- **Texts are ordered by their first difference.** -/
theorem le_iff_of_parts {s t : String} {q s' t' : List Char} {c d : Char} (hne : c ≠ d)
    (hs : s.toList = q ++ c :: s') (ht : t.toList = q ++ d :: t') : s ≤ t ↔ ¬ d < c := by
  rw [← String.not_lt, String.lt_iff, hs, ht, append_cons_lt_append_cons hne.symm]

theorem exists_toList {opening rest : String} {q w : List Char} {c : Char}
    (h : opening.toList = q ++ c :: w) : ∃ s, (opening ++ rest).toList = q ++ c :: s :=
  ⟨w ++ rest.toList, by rw [String.toList_append, h, List.append_assoc, List.cons_append]⟩

theorem intercalate_inj {sep : String} {l l' : List String}
    (hlength : List.Forall₂ (fun s t => s.length = t.length) l l')
    (h : sep.intercalate l = sep.intercalate l') : l = l' := by
  induction hlength with
  | nil => rfl
  | @cons s t l l' hst hrest ih =>
    cases hrest with
    | nil => simpa using h
    | @cons s₂ t₂ l l' _ _ =>
      rw [String.intercalate_cons_cons, String.intercalate_cons_cons, ← String.toList_inj] at h
      simp only [String.toList_append, List.append_assoc] at h
      obtain ⟨hs, h⟩ := List.append_inj h (by rw [String.length_toList, String.length_toList, hst])
      have hsep := List.append_cancel_left h
      rw [String.toList_inj.mp hs, ih (String.toList_inj.mp hsep)]

end Text

/-! ## What is wrong with another value -/

namespace Schema

variable {schema : Schema} {attributes : Attributes} {key : String} {v w : Value}

/-- A type error with another one in its place. -/
def swap (e e' x : TypeError) : TypeError := if x = e then e' else x

theorem missing_map_swap {inner inner' : TypeError} (attributes : Attributes) :
    (schema.missing attributes).map (swap (.attribute key inner) (.attribute key inner')) =
      schema.missing attributes := by
  refine (List.map_congr_left fun x hx => ?_).trans (List.map_id _)
  obtain ⟨d, -, hx⟩ := List.mem_filterMap.mp hx
  obtain ⟨-, hx⟩ := Option.ite_none_right_eq_some.mp hx
  obtain rfl := Option.some.inj hx
  exact if_neg nofun

theorem nonconforming_override {a : Attribute} {inner inner' : TypeError}
    (ha : schema.attributes.get? key = some a) (hv : a.type.check v = .error inner)
    (hw : a.type.check w = .error inner') (attributes : Attributes) :
    schema.nonconforming (attributes.override key w) =
      (schema.nonconforming (attributes.override key v)).map
        (swap (.attribute key inner) (.attribute key inner')) := by
  simp only [nonconforming, Fields.override, List.filterMap_map, List.map_filterMap]
  refine List.filterMap_congr fun f _ => ?_
  by_cases hf : f.1 = key
  · simp [hf, ha, hv, hw, swap]
  · dsimp only [Function.comp_apply]
    rw [if_neg hf, if_neg hf]
    cases hdeclared : schema.attributes.get? f.1 with
    | none => rfl
    | some b =>
      cases hcheck : b.type.check f.2 with
      | ok _ => simp [hcheck]
      | error e => simp [hcheck, swap, hf]

/-- **Two values of which neither conforms** make the same list of what is wrong, but for them. -/
theorem violations_swap {a : Attribute} {inner inner' : TypeError}
    (ha : schema.attributes.get? key = some a) (hv : a.type.check v = .error inner)
    (hw : a.type.check w = .error inner') (attributes : Attributes)
    (horder : ∀ x ∈ schema.violations (attributes.override key v), x ≠ .attribute key inner →
      ((TypeError.attribute key inner).message ≤ x.message ↔
        (TypeError.attribute key inner').message ≤ x.message) ∧
      (x.message ≤ (TypeError.attribute key inner).message ↔
        x.message ≤ (TypeError.attribute key inner').message)) :
    schema.violations (attributes.override key w) =
      (schema.violations (attributes.override key v)).map
        (swap (.attribute key inner) (.attribute key inner')) := by
  have hwrong : schema.missing (attributes.override key w) ++
      schema.nonconforming (attributes.override key w) =
      (schema.missing (attributes.override key v) ++
        schema.nonconforming (attributes.override key v)).map
        (swap (.attribute key inner) (.attribute key inner')) := by
    rw [List.map_append, missing_map_swap, missing_override, missing_override,
      nonconforming_override ha hv hw]
  -- Both lists are sorted alike, as the two errors stand alike among the others.
  rw [violations, violations, hwrong, List.map_mergeSort]
  intro x hx y hy
  have hmem : ∀ z ∈ schema.missing (attributes.override key v) ++
      schema.nonconforming (attributes.override key v),
      z ∈ schema.violations (attributes.override key v) := by
    intro z hz
    rw [violations, List.mem_mergeSort]
    exact hz
  refine decide_eq_decide.mpr ?_
  by_cases hxe : x = .attribute key inner
  · by_cases hye : y = .attribute key inner
    · simp [hxe, hye, swap]
    · rw [swap, swap, if_pos hxe, if_neg hye, hxe]
      exact (horder y (hmem y hy) hye).1
  · by_cases hye : y = .attribute key inner
    · rw [swap, swap, if_neg hxe, if_pos hye, hye]
      exact (horder x (hmem x hx) hxe).2
    · rw [swap, swap, if_neg hxe, if_neg hye]

end Schema

/-! ## Passwords of the wrong length -/

namespace Provider

open Catalog

variable {p p' : String}

/-- What the check of the length of a password finds. -/
def lengthError (p : String) : TypeError :=
  .outOfRange s!"length of '{p}'" (Int64.ofNat p.length) 8 64

/-- What is wrong with a password of the wrong length. -/
def lengthFault (p : String) : TypeError := .attribute "password" (lengthError p)

theorem check_of_not_isPassword (hp : ¬ IsPassword p) :
    passwordAttribute.type.check (.text p) = .error (lengthError p) := by
  have hlength : p.length < 8 ∨ 64 < p.length := by
    unfold IsPassword at hp
    omega
  exact if_pos hlength

theorem message_lengthFault (p : String) :
    (lengthFault p).message = "Attribute 'password': length of '" ++ p ++
      ("' is " ++ toString (Int64.ofNat p.length) ++ ", expected [8, 64]") := by
  have hmessage : (lengthFault p).message = "Attribute '" ++ "password" ++ "': " ++
      ("length of '" ++ p ++ "'" ++ " is " ++ toString (Int64.ofNat p.length) ++ ", expected [" ++
        toString (8 : Int64) ++ ", " ++ toString (64 : Int64) ++ "]") := rfl
  have hopening : "Attribute 'password': length of '" =
      "Attribute '" ++ "password" ++ "': " ++ "length of '" := by decide
  have hmiddle : "' is " = "'" ++ " is " := by decide
  have hclosing : ", expected [8, 64]" = ", expected [" ++ toString (8 : Int64) ++ ", " ++
      toString (64 : Int64) ++ "]" := by decide
  rw [hmessage, hopening, hmiddle, hclosing]
  simp only [String.append_assoc]

/-- Whether a message differs from those that quote a password before the quote. -/
def Apart (x : TypeError) : Prop :=
  ∃ (q : List Char) (c d : Char), c ≠ d ∧ (∃ rest, x.message.toList = q ++ d :: rest) ∧
    ∀ p, ∃ rest, (lengthFault p).message.toList = q ++ c :: rest

theorem Apart.le_iff {x : TypeError} (h : Apart x) (p p' : String) :
    ((lengthFault p).message ≤ x.message ↔ (lengthFault p').message ≤ x.message) ∧
      (x.message ≤ (lengthFault p).message ↔ x.message ≤ (lengthFault p').message) := by
  obtain ⟨q, c, d, hne, ⟨rest, hx⟩, hquote⟩ := h
  obtain ⟨s, hs⟩ := hquote p
  obtain ⟨s', hs'⟩ := hquote p'
  constructor
  · rw [Text.le_iff_of_parts hne hs hx, Text.le_iff_of_parts hne hs' hx]
  · rw [Text.le_iff_of_parts hne.symm hx hs, Text.le_iff_of_parts hne.symm hx hs']

theorem exists_quote {q w : List Char} {c : Char}
    (h : "Attribute 'password': length of '".toList = q ++ c :: w) (p : String) :
    ∃ rest, (lengthFault p).message.toList = q ++ c :: rest := by
  rw [message_lengthFault, String.append_assoc]
  exact Text.exists_toList h

theorem apart_missing (name : String) : Apart (.missing name) := by
  have hmessage : (TypeError.missing name).message =
      "Required attribute '" ++ (name ++ "' is missing") := String.append_assoc
  refine ⟨[], 'A', 'R', by decide, ?_, exists_quote rfl⟩
  rw [hmessage]
  exact Text.exists_toList rfl

theorem apart_attribute {name : String} (hname : name ∈ ["description", "mysql_id", "name"])
    (inner : TypeError) : Apart (.attribute name inner) := by
  have hmessage : (TypeError.attribute name inner).message =
      "Attribute '" ++ name ++ ("': " ++ inner.message) := String.append_assoc
  have hquote := exists_quote (q := "Attribute '".toList) (c := 'p') rfl
  refine ⟨"Attribute '".toList, 'p', name.toList.headD 'p', ?_, ?_, hquote⟩
  · revert hname
    simp only [List.mem_cons, List.not_mem_nil, or_false]
    rintro (rfl | rfl | rfl) <;> decide
  · rw [hmessage]
    simp only [List.mem_cons, List.not_mem_nil, or_false] at hname
    rcases hname with rfl | rfl | rfl
    · exact Text.exists_toList rfl
    · exact Text.exists_toList rfl
    · exact Text.exists_toList rfl

theorem apart_of_mem {attributes : Attributes} {x : TypeError} (hp : ¬ IsPassword p)
    (hx : x ∈ accountSchema.violations (attributes.override "password" (.text p)))
    (hne : x ≠ lengthFault p) : Apart x := by
  rw [Schema.violations, List.mem_mergeSort, List.mem_append] at hx
  rcases hx with hx | hx
  · obtain ⟨d, -, hx⟩ := List.mem_filterMap.mp hx
    obtain ⟨-, hx⟩ := Option.ite_none_right_eq_some.mp hx
    obtain rfl := Option.some.inj hx
    exact apart_missing d.1
  · have hothers : ∀ d ∈ accountSchema.attributes, d.1 ≠ "password" →
        d.1 ∈ ["description", "mysql_id", "name"] := by decide +kernel
    obtain ⟨f, hf, hx⟩ := List.mem_filterMap.mp hx
    obtain ⟨g, -, rfl⟩ := List.mem_map.mp hf
    dsimp only at hx
    by_cases hkey : g.1 = "password"
    · rw [if_pos hkey, hkey, get?_password] at hx
      simp only [check_of_not_isPassword hp, Option.some.injEq] at hx
      exact absurd hx.symm hne
    · cases hdeclared : accountSchema.attributes.get? g.1 with
      | none => simp [hdeclared] at hx
      | some a =>
        rw [if_neg hkey, hdeclared] at hx
        dsimp only at hx
        cases hcheck : a.type.check g.2 with
        | ok _ => simp [hcheck] at hx
        | error e =>
          simp only [hcheck, Option.some.injEq] at hx
          rw [← hx]
          exact apart_attribute (hothers _ (Fields.mem_of_get? hdeclared) hkey) e

/-! ## What a create says -/

/-- What is wrong with a desired account. -/
def wrongWith (r : Resource) : List TypeError :=
  accountSchema.violations (accountSchema.withDefaults r.attributes)

theorem lengthFault_mem (r : Resource) (hp : ¬ IsPassword p) :
    lengthFault p ∈ wrongWith (r.withPassword p) := by
  rw [wrongWith, Schema.violations, List.mem_mergeSort, List.mem_append]
  refine .inr (List.mem_filterMap.mpr ⟨("password", .text p), ?_, ?_⟩)
  · exact Fields.mem_of_get? (get?_withDefaults_withPassword r p)
  · simp only [get?_password, check_of_not_isPassword hp]
    rfl

theorem wrongWith_swap (r : Resource) (hp : ¬ IsPassword p) (hp' : ¬ IsPassword p') :
    wrongWith (r.withPassword p') =
      (wrongWith (r.withPassword p)).map (Schema.swap (lengthFault p) (lengthFault p')) := by
  have hsame := r.withDefaults_withPassword p p
  rw [wrongWith, wrongWith, r.withDefaults_withPassword p p', hsame, Fields.override_override]
  exact Schema.violations_swap get?_password (check_of_not_isPassword hp)
    (check_of_not_isPassword hp') _ fun x hx hne => (apart_of_mem hp hx hne).le_iff p p'

theorem eq_of_messages (r : Resource) (hp : ¬ IsPassword p) (hlength : p.length = p'.length)
    (h : "; ".intercalate ((wrongWith (r.withPassword p)).map TypeError.message) =
      "; ".intercalate ((wrongWith (r.withPassword p')).map TypeError.message)) : p = p' := by
  have hp' : ¬ IsPassword p' := by rwa [IsPassword, ← hlength]
  have hfaults : (lengthFault p).message.length = (lengthFault p').message.length := by
    rw [message_lengthFault, message_lengthFault, hlength]
    simp only [String.length_append, hlength]
  rw [wrongWith_swap r hp hp', List.map_map] at h
  have hmessages := Text.intercalate_inj ?_ h
  · have hquoted := List.map_inj_left.mp hmessages (lengthFault p) (lengthFault_mem r hp)
    rw [Function.comp_apply, Schema.swap, if_pos rfl, message_lengthFault, message_lengthFault,
      hlength, String.append_left_inj, String.append_right_inj] at hquoted
    exact hquoted
  · rw [List.forall₂_map_left_iff, List.forall₂_map_right_iff, List.forall₂_same]
    intro x _
    by_cases hx : x = lengthFault p
    · rw [Function.comp_apply, Schema.swap, if_pos hx, hx, hfaults]
    · rw [Function.comp_apply, Schema.swap, if_neg hx]

/-- What a run says if it fails. -/
def complaint {σ : Type} (run : Dialogue.Run σ Call Reply (Except Error State)) : Option String :=
  (errorOf? run.result).map Error.message

theorem errorOf?_eq_of_sameOutcome {α β : Type} {R : α → β → Prop} {x : Except Error α}
    {y : Except Error β} (h : SameOutcome R x y) : errorOf? x = errorOf? y := by
  cases h with
  | ok _ => rfl
  | error _ => rfl

/-- **A create with a password of the wrong length fails.** -/
theorem complaint_of_not_isPassword (settings : Settings) (r : Resource)
    (hid : r.id.type = LifecycleKind.account.name) (hp : ¬ IsPassword p) {σ : Type}
    (remote : Dialogue.Remote σ Call Reply) (start : σ) :
    complaint ((create settings (r.withPassword p)).against remote start) =
      some ("[" ++ r.id.text ++ "] " ++ ("validation failed: " ++
        "; ".intercalate ((wrongWith (r.withPassword p)).map TypeError.message))) := by
  have hprepare : prepareFor accountSchema (Lifecycle.account settings) (r.withPassword p) =
      .error (.invalid ("; ".intercalate
        ((wrongWith (r.withPassword p)).map TypeError.message))) := by
    rw [prepareFor_eq fun _ => rfl, prepare]
    dsimp only
    cases hwrong : wrongWith (r.withPassword p) with
    | nil => exact absurd (hwrong ▸ lengthFault_mem r hp) List.not_mem_nil
    | cons x rest =>
      rw [wrongWith] at hwrong
      rw [hwrong]
  have hy := yields_against remote start (create settings (r.withPassword p))
  obtain ⟨y, hy, hr⟩ := yields_onResource.mp hy
  have hy := (yields_ok_bind (lifecycleKind_of_type hid)).mp hy
  obtain ⟨-, rfl⟩ := (yields_error_bind hprepare).mp hy
  rw [complaint, hr]
  rfl

/-- **An error tells two passwords of the same length apart** unless they conform: a create that
fails quotes a password that is too short or too long, and nothing else of a password. -/
theorem complaint_eq_iff (settings : Settings) (r : Resource) (hid : r.id.type = "mysql_account")
    (p p' : String) (hlength : p.length = p'.length) (answers : Nat → Reply) :
    complaint ((create settings (r.withPassword p)).against (Dialogue.inTurn answers) 0) =
        complaint ((create settings (r.withPassword p')).against (Dialogue.inTurn answers) 0) ↔
      p = p' ∨ IsPassword p := by
  constructor
  · intro h
    by_cases hp : IsPassword p
    · exact .inr hp
    · have hp' : ¬ IsPassword p' := by rwa [IsPassword, ← hlength]
      rw [complaint_of_not_isPassword settings r hid hp,
        complaint_of_not_isPassword settings r hid hp', Option.some.injEq,
        String.append_right_inj, String.append_right_inj] at h
      exact .inl (eq_of_messages r hp hlength h)
  · rintro (rfl | hp)
    · rfl
    · have hp' : IsPassword p' := by rwa [IsPassword, ← hlength]
      have hsame := ((alike_create settings r hid hp hp').inTurn answers 0).result
      rw [complaint, complaint, errorOf?_eq_of_sameOutcome hsame]

/-- Two accounts with passwords of five letters. -/
theorem told_apart_by_five_letters :
    let r : Resource := ⟨⟨"mysql_account", "app"⟩,
      .ofList [("mysql_id", .text "cdb-1"), ("name", .text "app")], false⟩
    let answers : Nat → Reply := fun _ => .ok .null
    r.id.type = "mysql_account" ∧ "aaaaa".length = "bbbbb".length ∧
      complaint ((create ⟨"ap-guangzhou", 20, ⟨3, 1⟩⟩ (r.withPassword "aaaaa")).against
        (Dialogue.inTurn answers) 0) ≠
      complaint ((create ⟨"ap-guangzhou", 20, ⟨3, 1⟩⟩ (r.withPassword "bbbbb")).against
        (Dialogue.inTurn answers) 0) := by
  intro r answers
  refine ⟨rfl, by decide, fun h => ?_⟩
  have htold := (complaint_eq_iff _ r rfl "aaaaa" "bbbbb" (by decide) answers).mp h
  exact absurd htold (by decide)

/-- **The errors of two creates quote their passwords.** -/
theorem passwords_quoted :
    let r : Resource := ⟨⟨"mysql_account", "app"⟩,
      .ofList [("mysql_id", .text "cdb-1"), ("name", .text "app")], false⟩
    let said := fun p => complaint ((create ⟨"ap-guangzhou", 20, ⟨3, 1⟩⟩
      (r.withPassword p)).against (Dialogue.scripted fun _ => .ok .null) [])
    let quoted := fun p : String => "[mysql_account.app] validation failed: " ++
      "Attribute 'password': length of '" ++ p ++ "' is 5, expected [8, 64]"
    "aaaaa".length = "bbbbb".length ∧ said "aaaaa" = some (quoted "aaaaa") ∧
      said "bbbbb" = some (quoted "bbbbb") ∧ said "aaaaa" ≠ said "bbbbb" := by
  decide +kernel

end Provider

end CloudProvider
