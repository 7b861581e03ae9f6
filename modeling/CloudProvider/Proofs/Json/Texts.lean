import CloudProvider.Json.Document
import CloudProvider.Json.Printer
import CloudProvider.Proofs.Json.Tokens

/-!
# The JSON texts of a value

Which texts are those of a value, told without the reader.

* `Document.Spells`, `Document.tokens`: the documents of a value, and their tokens.
* `Json.IsText`: the texts of a value, however the blanks are set and the characters escaped.
* **`Document.read_of_spread`**: a text is taken apart into the document whose tokens it has.
* `Json.Exact`, **`Json.isText_pretty`**: what is written without a loss, and that it is.
-/

namespace CloudProvider

/-! ## Documents of a value -/

mutual

/-- **Whether a document is one of a value**: its members have the same names in the same order, and
its numbers stand for those of the value. -/
inductive Document.Spells : Document → Json → Prop
  | null : Spells .null .null
  | bool (b : Bool) : Spells (.bool b) (.bool b)
  | number {n : Numeral} {j : Json} (h : n.value? = some j) : Spells (.number n) j
  | text (s : String) : Spells (.text (some s)) (.str s)
  | array {ds : List Document} {js : List Json} (h : Document.ItemsSpell ds js) :
      Spells (.array ds) (.arr js)
  | object {ms : List (Option String × Document)} {members : List (String × Json)}
      (h : Document.MembersSpell ms members) : Spells (.object ms) (.obj members)

inductive Document.ItemsSpell : List Document → List Json → Prop
  | nil : ItemsSpell [] []
  | cons {d : Document} {j : Json} {ds : List Document} {js : List Json} (h : Document.Spells d j)
      (hrest : ItemsSpell ds js) : ItemsSpell (d :: ds) (j :: js)

inductive Document.MembersSpell : List (Option String × Document) → List (String × Json) → Prop
  | nil : MembersSpell [] []
  | cons {name : String} {d : Document} {j : Json} {ms : List (Option String × Document)}
      {members : List (String × Json)} (h : Document.Spells d j) (hrest : MembersSpell ms members) :
      MembersSpell ((some name, d) :: ms) ((name, j) :: members)

end

namespace Document

mutual

theorem Spells.isWhole {d : Document} {j : Json} : d.Spells j → d.isWhole = true
  | .null | .bool _ | .number _ | .text _ => rfl
  | .array h => h.itemsWhole
  | .object h => h.membersWhole

theorem ItemsSpell.itemsWhole {ds : List Document} {js : List Json} :
    ItemsSpell ds js → Document.itemsWhole ds = true
  | .nil => rfl
  | .cons h hrest => Bool.and_eq_true_iff.mpr ⟨h.isWhole, hrest.itemsWhole⟩

theorem MembersSpell.membersWhole {ms : List (Option String × Document)}
    {members : List (String × Json)} : MembersSpell ms members → Document.membersWhole ms = true
  | .nil => rfl
  | .cons h hrest => Bool.and_eq_true_iff.mpr ⟨h.isWhole, hrest.membersWhole⟩

end

/-! ## Tokens of a document -/

mutual

/-- The tokens of a document. -/
def tokens : Document → List Token
  | .null => [.null]
  | .bool b => [.bool b]
  | .number n => [.number n]
  | .text s => [.text s]
  | .array items => .openBracket :: (itemsTokens items ++ [.closeBracket])
  | .object members => .openBrace :: (membersTokens members ++ [.closeBrace])
  | .broken => [.bad]

def itemsTokens : List Document → List Token
  | [] => []
  | [d] => d.tokens
  | d :: e :: rest => d.tokens ++ .comma :: itemsTokens (e :: rest)

def membersTokens : List (Option String × Document) → List Token
  | [] => []
  | [(name, d)] => .text name :: .colon :: d.tokens
  | (name, d) :: m :: rest =>
    .text name :: .colon :: (d.tokens ++ .comma :: membersTokens (m :: rest))

end

/-- Where a value may stand. -/
def IsOpen (e : Expecting) : Prop := e = .value ∨ e = .item

theorem build_of_takeValue {frames frames' : List Frame} {e e' : Expecting} {t : Token}
    (he : IsOpen e) (hclose : t ≠ .closeBracket)
    (h : takeValue frames t = some (frames', e')) (ts : List Token) :
    build frames e (t :: ts) = build frames' e' ts := by
  have htake : take frames e t = some (frames', e') := by
    rcases he with rfl | rfl
    · cases t <;> exact h
    · cases t <;> first | exact absurd rfl hclose | exact h
  rw [build, htake]

mutual

theorem build_tokens : (d : Document) → d.isWhole = true → ∀ {e : Expecting}, IsOpen e →
    ∀ (frames : List Frame) (ts : List Token),
      build frames e (d.tokens ++ ts) = build frames (.more d) ts
  | .null, _, _, he, frames, ts => build_of_takeValue he (by nofun) rfl ts
  | .bool b, _, _, he, frames, ts => build_of_takeValue he (by nofun) rfl ts
  | .number n, _, _, he, frames, ts => build_of_takeValue he (by nofun) rfl ts
  | .text s, _, _, he, frames, ts => build_of_takeValue he (by nofun) rfl ts
  | .array [], _, _, he, frames, ts =>
    build_of_takeValue (t := .openBracket) he nofun rfl (.closeBracket :: ts)
  | .array (d :: rest), h, _, he, frames, ts => by
    rw [tokens, List.cons_append, List.append_assoc, build_of_takeValue he (by nofun) rfl,
      List.singleton_append, build_itemsTokens (d :: rest) nofun h (.inr rfl)]
    rfl
  | .object [], _, _, he, frames, ts =>
    build_of_takeValue (t := .openBrace) he nofun rfl (.closeBrace :: ts)
  | .object (m :: rest), h, _, he, frames, ts => by
    rw [tokens, List.cons_append, List.append_assoc, build_of_takeValue he (by nofun) rfl,
      List.singleton_append, build_membersTokens (m :: rest) nofun h (.inl ⟨rfl, rfl⟩)]
    rfl

theorem build_itemsTokens : (ds : List Document) → ds ≠ [] → itemsWhole ds = true →
    ∀ {e : Expecting}, IsOpen e →
    ∀ {frames : List Frame} {items : List Document} {ts : List Token},
      build (.array items :: frames) e (itemsTokens ds ++ (.closeBracket :: ts)) =
        build frames (.more (.array (items.reverse ++ ds))) ts
  | [], hne, _, _, _, _, _, _ => absurd rfl hne
  | [d], _, h, _, he, frames, items, ts => by
    have hd := (Bool.and_eq_true_iff.mp h).1
    rw [itemsTokens, build_tokens d hd he, build]
    simp [take]
  | d :: next :: rest, _, h, _, he, frames, items, ts => by
    obtain ⟨hd, hrest⟩ := Bool.and_eq_true_iff.mp h
    rw [itemsTokens, List.append_assoc, build_tokens d hd he, List.cons_append, build]
    simp only [take]
    rw [build_itemsTokens (next :: rest) nofun hrest (.inl rfl), List.reverse_cons,
      List.append_assoc]
    rfl

theorem build_membersTokens : (ms : List (Option String × Document)) → ms ≠ [] →
    membersWhole ms = true →
    ∀ {e : Expecting} {members : List (Option String × Document)},
      e = .member ∧ members = [] ∨ e = .name members →
    ∀ {frames : List Frame} {ts : List Token},
      build frames e (membersTokens ms ++ (.closeBrace :: ts)) =
        build frames (.more (.object (members.reverse ++ ms))) ts
  | [], hne, _, _, _, _, _, _ => absurd rfl hne
  | [(name, d)], _, h, e, members, he, frames, ts => by
    have hd := (Bool.and_eq_true_iff.mp h).1
    have hname : take frames e (.text name) = some (frames, .colon members name) := by
      rcases he with ⟨rfl, rfl⟩ | rfl <;> rfl
    have hcolon : take frames (.colon members name) .colon =
        some (.object members name :: frames, .value) := rfl
    rw [membersTokens, List.cons_append, build, hname]
    simp only [List.cons_append]
    rw [build, hcolon]
    simp only
    rw [build_tokens d hd (.inl rfl), build]
    simp [take]
  | (name, d) :: next :: rest, _, h, e, members, he, frames, ts => by
    obtain ⟨hd, hrest⟩ := Bool.and_eq_true_iff.mp h
    have hname : take frames e (.text name) = some (frames, .colon members name) := by
      rcases he with ⟨rfl, rfl⟩ | rfl <;> rfl
    have hcolon : take frames (.colon members name) .colon =
        some (.object members name :: frames, .value) := rfl
    rw [membersTokens, List.cons_append, build, hname]
    simp only [List.cons_append]
    rw [build, hcolon]
    simp only [List.append_assoc]
    rw [build_tokens d hd (.inl rfl), List.cons_append, build]
    simp only [take]
    rw [build_membersTokens (next :: rest) nofun hrest (.inr rfl), List.reverse_cons,
      List.append_assoc]
    rfl

end

/-- **A text is taken apart** into the document of its tokens. -/
theorem read_of_spread {d : Document} {s : String} (hd : d.isWhole = true)
    (h : Token.Spread d.tokens s.toList) : read s = ⟨d, false⟩ := by
  rw [read, Token.ofChars_of_spread h, ← List.append_nil d.tokens,
    build_tokens d hd (.inl rfl)]
  rfl

end Document

namespace Json

open Token

/-- **Whether a text is one of a value**: it has the tokens of a document of the value, with blanks
around them. -/
def IsText (j : Json) (s : String) : Prop :=
  ∃ d : Document, d.Spells j ∧ Spread d.tokens s.toList

/-! ## Texts that are written -/

/-- **Whether a value is written without a loss**: it holds no number but integers of 64 bits, with
a sign or without one. -/
inductive Exact : Json → Prop
  | null : Exact .null
  | bool (b : Bool) : Exact (.bool b)
  | int {n : Int} (hlow : -0x8000000000000000 ≤ n) (hhigh : n < 0x10000000000000000) :
      Exact (.int n)
  | str (s : String) : Exact (.str s)
  | arr {items : List Json} (h : ∀ i ∈ items, Exact i) : Exact (.arr items)
  | obj {members : List (String × Json)} (h : ∀ m ∈ members, Exact m.2) : Exact (.obj members)

/-! ### Integers -/

/-- The decimal digits of a number. -/
def digits (n : Nat) : List Nat := if n < 10 then [n] else digits (n / 10) ++ [n % 10]
  termination_by n

theorem digitChars_digits (n : Nat) : Numeral.digitChars (digits n) = Nat.toDigits 10 n := by
  induction n using digits.induct with
  | case1 n h => rw [digits, if_pos h, Nat.toDigits_of_lt_base h]; rfl
  | case2 n h ih =>
    rw [digits, if_neg h, Nat.toDigits_of_base_le (by decide) (Nat.not_lt.mp h), ← ih]
    simp [Numeral.digitChars]

theorem lt_of_mem_digits (n : Nat) : ∀ d ∈ digits n, d < 10 := by
  induction n using digits.induct with
  | case1 n h =>
    rw [digits, if_pos h]
    simpa using h
  | case2 n h ih =>
    rw [digits, if_neg h]
    intro d hd
    rcases List.mem_append.mp hd with hd | hd
    · exact ih d hd
    · rw [List.mem_singleton.mp hd]
      exact Nat.mod_lt n (by decide)

theorem exists_digits (n : Nat) : ∃ first rest, digits n = first :: rest ∧
    (first = 0 → n = 0 ∧ rest = []) := by
  induction n using digits.induct with
  | case1 n h => exact ⟨n, [], by rw [digits, if_pos h], fun hn => ⟨hn, rfl⟩⟩
  | case2 n h ih =>
    obtain ⟨first, rest, hdigits, hzero⟩ := ih
    refine ⟨first, rest ++ [n % 10], by rw [digits, if_neg h, hdigits]; rfl, fun hfirst => ?_⟩
    have := (hzero hfirst).1
    omega

theorem extend_append {n m : Nat} {ds : List Nat} (h : Numeral.extend n ds = (m, 0))
    (es : List Nat) : Numeral.extend n (ds ++ es) = Numeral.extend m es := by
  induction ds generalizing n with
  | nil =>
    obtain rfl := (Prod.mk.inj h).1
    rfl
  | cons d ds ih =>
    rw [Numeral.extend] at h
    split_ifs at h with hlt
    · rw [List.cons_append, Numeral.extend, if_pos hlt, ih h]
    · cases (Prod.mk.inj h).2

theorem extend_digits {n : Nat} (h : n < UInt64.size) :
    Numeral.extend 0 (digits n) = (n, 0) := by
  induction n using digits.induct with
  | case1 n hn =>
    rw [digits, if_pos hn, Numeral.extend, if_pos (by omega), Numeral.extend]
    simp
  | case2 n hn ih =>
    rw [digits, if_neg hn, extend_append (ih (by omega)), Numeral.extend, if_pos (by omega),
      Numeral.extend]
    congr 1
    omega

/-- The number of an integer. -/
def numeral (n : Int) : Numeral := ⟨decide (n < 0), digits n.natAbs, [], none⟩

theorem value?_numeral {n : Int} (hlow : -0x8000000000000000 ≤ n)
    (hhigh : n < 0x10000000000000000) : (numeral n).value? = some (.int n) := by
  have hsize : n.natAbs < UInt64.size := by
    have : UInt64.size = 0x10000000000000000 := rfl
    omega
  by_cases hn : n < 0
  · have habs : n.natAbs ≠ 0 ∧ n.natAbs ≤ 0x8000000000000000 := by omega
    have hneg : -(n.natAbs : Int) = n := by omega
    simp [Numeral.value?, numeral, extend_digits hsize, hn, habs, abs_of_neg hn]
  · have habs : (n.natAbs : Int) = n := by omega
    simp [Numeral.value?, numeral, extend_digits hsize, hn, habs]

theorem toList_toString (n : Int) : (toString n).toList =
    (if n < 0 then ['-'] else []) ++ Nat.toDigits 10 n.natAbs := by
  cases n with
  | ofNat m => exact Nat.toList_repr
  | negSucc m =>
    have hneg : Int.negSucc m < 0 := Int.negSucc_lt_zero m
    rw [if_pos hneg]
    change ("-" ++ Nat.repr (m + 1)).toList = _
    rw [String.toList_append, Nat.toList_repr]
    rfl

theorem spelled_numeral (n : Int) : (numeral n).Spelled (toString n).toList := by
  obtain ⟨first, rest, hdigits, hzero⟩ := exists_digits n.natAbs
  have hlt := lt_of_mem_digits n.natAbs
  have hchars : (toString n).toList = (if decide (n < 0) then ['-'] else []) ++
      (Numeral.digitChars (first :: rest) ++ ([] ++ [])) := by
    rw [toList_toString, ← hdigits, digitChars_digits]
    simp
  rw [hchars, numeral, hdigits]
  rw [hdigits] at hlt
  have hfraction : ∀ d ∈ ([] : List Nat), d < 10 := nofun
  exact .intro (decide (n < 0)) (fun h => (hzero h).2) hlt hfraction .none

/-! ### Texts -/

/-- What a character is between quotes: itself, or its code if it has no letter. -/
def unit (c : Char) : Char ⊕ Nat :=
  if c.toNat < 0x20 ∧ c ∉ ['\n', '\r', '\t', '\x08', '\x0c'] then .inr c.toNat else .inl c

theorem hexValue?_hexDigit {d : Nat} (h : d < 16) : hexValue? (Text.hexDigit d) = some d := by
  interval_cases d <;> rfl

theorem unitSpelled_escapeChar (c : Char) : UnitSpelled (unit c) (escapeChar c) := by
  by_cases hletter : c ∈ ['"', '\\', '\n', '\r', '\t', '\x08', '\x0c']
  · simp only [List.mem_cons, List.not_mem_nil, or_false] at hletter
    rcases hletter with rfl | rfl | rfl | rfl | rfl | rfl | rfl <;> exact .escape rfl
  · obtain ⟨hquote, hslash, hplain⟩ :
        c ≠ '"' ∧ c ≠ '\\' ∧ c ∉ ['\n', '\r', '\t', '\x08', '\x0c'] := by
      simpa using hletter
    have hescape : escapeChar c = if c.toNat < 0x20 then
        ['\\', 'u', '0', '0', Text.hexDigit (c.toNat / 16), Text.hexDigit (c.toNat % 16)]
        else [c] := by
      simp_all [escapeChar]
    by_cases hc : c.toNat < 0x20
    · have hzero : hexValue? '0' = some 0 := rfl
      have hhigh := hexValue?_hexDigit (d := c.toNat / 16) (by omega)
      have hlow := hexValue?_hexDigit (d := c.toNat % 16) (by omega)
      have hcode := UnitSpelled.code hzero hzero hhigh hlow
      have hvalue : 16 * (16 * (16 * 0 + 0) + c.toNat / 16) + c.toNat % 16 = c.toNat := by omega
      rw [hvalue] at hcode
      rwa [hescape, if_pos hc, unit, if_pos ⟨hc, hplain⟩]
    · rw [hescape, if_neg hc, unit, if_neg fun h => hc h.1]
      exact .plain hquote hslash (Nat.not_lt.mp hc)

theorem unitsSpelled_escapeChar (cs : List Char) :
    UnitsSpelled (cs.map unit) (cs.flatMap escapeChar) := by
  induction cs with
  | nil => exact .nil
  | cons c cs ih => exact .cons (unitSpelled_escapeChar c) ih

theorem assemble_unit (cs : List Char) : assemble (cs.map unit) = some cs := by
  induction cs with
  | nil => rfl
  | cons c cs ih =>
    rw [List.map_cons, unit]
    split_ifs with h
    · have hleading : isLeading c.toNat = false := by simp only [isLeading]; grind
      have htrailing : isTrailing c.toNat = false := by simp only [isTrailing]; grind
      rw [assemble.eq_def]
      simp [ih, hleading, htrailing]
    · simp [assemble, ih]

theorem spelled_quote (s : String) : (Token.text (some s)).Spelled (quote s) := by
  have h : (Token.text (some (String.ofList s.toList))).Spelled (quote s) :=
    .text (unitsSpelled_escapeChar s.toList) (assemble_unit s.toList)
  rwa [String.ofList_toList] at h

/-! ### Values -/

theorem spread_newline {ts : List Token} {cs : List Char} (level : Nat) (h : Spread ts cs) :
    Spread ts (newline level ++ cs) := by
  have hblanks (n : Nat) : Spread ts (List.replicate n ' ' ++ cs) := by
    induction n with
    | zero => exact h
    | succ n ih => exact .blank rfl ih
  exact .blank rfl (hblanks _)

theorem endsNumber_comma (cs : List Char) : EndsNumber (',' :: cs) := by
  rintro _ ⟨⟩
  decide

theorem endsNumber_newline (level : Nat) (cs : List Char) : EndsNumber (newline level ++ cs) := by
  rintro _ ⟨⟩
  decide

theorem spread_cons {t : Token} {ts : List Token} {own cs : List Char} (h : t.Spelled own)
    (ht : ∀ n, t ≠ .number n) (hcs : Spread ts cs) : Spread (t :: ts) (own ++ cs) :=
  .token h (fun n hn => absurd hn (ht n)) hcs

/-- Whether characters in front of others are those of some tokens in front of others. -/
def Heads (ts : List Token) (cs : List Char) : Prop :=
  ∀ {ts' : List Token} {cs' : List Char}, EndsNumber cs' → Spread ts' cs' →
    Spread (ts ++ ts') (cs ++ cs')

mutual

/-- **A value is written as a document of it.** -/
theorem exists_spells : (j : Json) → j.Exact →
    ∃ d : Document, d.Spells j ∧ ∀ level, Heads d.tokens (j.prettyChars level)
  | .null, _ => ⟨.null, .null, fun _ _ _ _ h => spread_cons .null nofun h⟩
  | .bool true, _ => ⟨.bool true, .bool true, fun _ _ _ _ h => spread_cons .yes nofun h⟩
  | .bool false, _ => ⟨.bool false, .bool false, fun _ _ _ _ h => spread_cons .no nofun h⟩
  | .int n, .int hlow hhigh => ⟨.number (numeral n), .number (value?_numeral hlow hhigh),
      fun _ _ _ hends h => .token (.number (spelled_numeral n)) (fun _ _ => hends) h⟩
  | .str s, _ => ⟨.text (some s), .text s, fun _ _ _ _ h => spread_cons (spelled_quote s) nofun h⟩
  | .arr [], _ => ⟨.array [], .array .nil, fun _ _ _ _ h =>
      (spread_cons .openBracket nofun (spread_cons .closeBracket nofun h) :
        Spread _ (['['] ++ ([']'] ++ _)))⟩
  | .arr (j :: rest), .arr h => by
    obtain ⟨ds, hds, hheads⟩ := exists_itemsSpell (j :: rest) h
    refine ⟨.array ds, .array hds, fun level ts cs hends hcs => ?_⟩
    have hclose := spread_newline level (spread_cons .closeBracket nofun hcs)
    have hitems := hheads (level + 1) (endsNumber_newline level _) hclose
    simpa [Document.tokens, prettyChars] using spread_cons .openBracket nofun hitems
  | .obj [], _ => ⟨.object [], .object .nil, fun _ _ _ _ h =>
      (spread_cons .openBrace nofun (spread_cons .closeBrace nofun h) :
        Spread _ (['\x7b'] ++ (['\x7d'] ++ _)))⟩
  | .obj (m :: rest), .obj h => by
    obtain ⟨ms, hms, hheads⟩ := exists_membersSpell (m :: rest) h
    refine ⟨.object ms, .object hms, fun level ts cs hends hcs => ?_⟩
    have hclose := spread_newline level (spread_cons .closeBrace nofun hcs)
    have hmembers := hheads (level + 1) (endsNumber_newline level _) hclose
    simpa [Document.tokens, prettyChars] using spread_cons .openBrace nofun hmembers

theorem exists_itemsSpell : (js : List Json) → (∀ j ∈ js, j.Exact) →
    ∃ ds : List Document, Document.ItemsSpell ds js ∧
      ∀ level, Heads (Document.itemsTokens ds) (prettyItems level js)
  | [], _ => ⟨[], .nil, fun _ _ _ _ h => h⟩
  | [j], h => by
    obtain ⟨d, hd, hheads⟩ := exists_spells j (h j (List.mem_singleton_self j))
    refine ⟨[d], .cons hd .nil, fun level ts cs hends hcs => ?_⟩
    rw [prettyItems, List.append_assoc]
    exact spread_newline level (hheads level hends hcs)
  | j :: k :: rest, h => by
    obtain ⟨d, hd, hheads⟩ := exists_spells j (h j List.mem_cons_self)
    obtain ⟨ds, hds, hrest⟩ := exists_itemsSpell (k :: rest) fun i hi => h i (.tail _ hi)
    refine ⟨d :: ds, .cons hd hds, fun level ts cs hends hcs => ?_⟩
    have hcomma := spread_cons .comma nofun (hrest level hends hcs)
    have hitem := hheads level (endsNumber_comma _) hcomma
    cases hds
    simpa [Document.itemsTokens, prettyItems] using spread_newline level hitem

theorem exists_membersSpell : (members : List (String × Json)) → (∀ m ∈ members, m.2.Exact) →
    ∃ ms : List (Option String × Document), Document.MembersSpell ms members ∧
      ∀ level, Heads (Document.membersTokens ms) (prettyMembers level members)
  | [], _ => ⟨[], .nil, fun _ _ _ _ h => h⟩
  | [(name, j)], h => by
    obtain ⟨d, hd, hheads⟩ := exists_spells j (h (name, j) (List.mem_singleton_self _))
    refine ⟨[(some name, d)], .cons hd .nil, fun level ts cs hends hcs => ?_⟩
    have hcolon := spread_cons .colon nofun (.blank (c := ' ') rfl (hheads level hends hcs))
    simpa [Document.membersTokens, prettyMembers] using
      spread_newline level (spread_cons (spelled_quote name) nofun hcolon)
  | (name, j) :: m :: rest, h => by
    obtain ⟨d, hd, hheads⟩ := exists_spells j (h (name, j) List.mem_cons_self)
    obtain ⟨ms, hms, hrest⟩ := exists_membersSpell (m :: rest) fun i hi => h i (.tail _ hi)
    refine ⟨(some name, d) :: ms, .cons hd hms, fun level ts cs hends hcs => ?_⟩
    have hcomma := spread_cons .comma nofun (hrest level hends hcs)
    have hvalue := hheads level (endsNumber_comma _) hcomma
    have hcolon := spread_cons .colon nofun (.blank (c := ' ') rfl hvalue)
    cases hms
    simpa [Document.membersTokens, prettyMembers] using
      spread_newline level (spread_cons (spelled_quote name) nofun hcolon)

end

/-- **What is written is a text of its value.** -/
theorem isText_pretty {j : Json} (h : j.Exact) : j.IsText j.pretty := by
  obtain ⟨d, hd, hheads⟩ := exists_spells j h
  refine ⟨d, hd, ?_⟩
  have hspread : Spread (d.tokens ++ []) (j.prettyChars 0 ++ []) := hheads 0 nofun .nil
  rwa [List.append_nil, List.append_nil, ← String.toList_ofList (l := j.prettyChars 0)] at hspread

end Json

end CloudProvider
