import CloudProvider.Json.Token
import Mathlib.Tactic.IntervalCases
import Mathlib.Tactic.SplitIfs

/-!
# The grammar of tokens

How tokens are written, told without the automaton that reads them: a token has one spelling or
several, and blanks may stand between two tokens.

* `Numeral.Spelled`, `Token.UnitSpelled`, `Token.Spelled`: the spellings of numbers, of what stands
  between quotes, and of tokens.
* `Token.Spread`: tokens with blanks between them.
* **`Token.ofChars_of_spread`**: a text is cut into the tokens that it spells.
-/

namespace CloudProvider

/-! ## Spellings -/

namespace Numeral

/-- The characters of some digits. -/
def digitChars (ds : List Nat) : List Char := ds.map Nat.digitChar

/-- How an exponent is written: a plus sign may stand in front of it. -/
inductive PowerSpelled : Option (Bool × List Nat) → List Char → Prop
  | none : PowerSpelled none []
  | plain {mark : Char} {ds : List Nat} (hmark : mark = 'e' ∨ mark = 'E') (hne : ds ≠ [])
      (hds : ∀ d ∈ ds, d < 10) : PowerSpelled (some (false, ds)) (mark :: digitChars ds)
  | signed {mark : Char} {ds : List Nat} (hmark : mark = 'e' ∨ mark = 'E') (below : Bool)
      (hne : ds ≠ []) (hds : ∀ d ∈ ds, d < 10) :
      PowerSpelled (some (below, ds)) (mark :: (if below then '-' else '+') :: digitChars ds)

/-- **How a number is written.** It does not begin with a superfluous zero. -/
inductive Spelled : Numeral → List Char → Prop
  | intro (negative : Bool) {first : Nat} {whole fraction : List Nat}
      {exponent : Option (Bool × List Nat)} {power : List Char}
      (hzero : first = 0 → whole = []) (hwhole : ∀ d ∈ first :: whole, d < 10)
      (hfraction : ∀ d ∈ fraction, d < 10) (hpower : PowerSpelled exponent power) :
      Spelled ⟨negative, first :: whole, fraction, exponent⟩
        ((if negative then ['-'] else []) ++ (digitChars (first :: whole) ++
          ((if fraction = [] then [] else '.' :: digitChars fraction) ++ power)))

end Numeral

namespace Token

/-- How a character or an escaped UTF-16 unit is written between quotes. -/
inductive UnitSpelled : Char ⊕ Nat → List Char → Prop
  | plain {c : Char} (hquote : c ≠ '"') (hslash : c ≠ '\\') (hc : 0x20 ≤ c.toNat) :
      UnitSpelled (.inl c) [c]
  | escape {letter c : Char} (h : unescape? letter = some c) : UnitSpelled (.inl c) ['\\', letter]
  | code {c₁ c₂ c₃ c₄ : Char} {d₁ d₂ d₃ d₄ : Nat} (h₁ : hexValue? c₁ = some d₁)
      (h₂ : hexValue? c₂ = some d₂) (h₃ : hexValue? c₃ = some d₃) (h₄ : hexValue? c₄ = some d₄) :
      UnitSpelled (.inr (16 * (16 * (16 * d₁ + d₂) + d₃) + d₄)) ['\\', 'u', c₁, c₂, c₃, c₄]

/-- How characters and escaped units are written one after the other. -/
inductive UnitsSpelled : List (Char ⊕ Nat) → List Char → Prop
  | nil : UnitsSpelled [] []
  | cons {u : Char ⊕ Nat} {us : List (Char ⊕ Nat)} {own cs : List Char} (h : UnitSpelled u own)
      (hus : UnitsSpelled us cs) : UnitsSpelled (u :: us) (own ++ cs)

/-- **How a token is written.** -/
inductive Spelled : Token → List Char → Prop
  | openBrace : Spelled .openBrace ['\x7b']
  | closeBrace : Spelled .closeBrace ['\x7d']
  | openBracket : Spelled .openBracket ['[']
  | closeBracket : Spelled .closeBracket [']']
  | comma : Spelled .comma [',']
  | colon : Spelled .colon [':']
  | null : Spelled .null ['n', 'u', 'l', 'l']
  | yes : Spelled (.bool true) ['t', 'r', 'u', 'e']
  | no : Spelled (.bool false) ['f', 'a', 'l', 's', 'e']
  | number {n : Numeral} {cs : List Char} (h : n.Spelled cs) : Spelled (.number n) cs
  | text {units : List (Char ⊕ Nat)} {cs s : List Char} (h : UnitsSpelled units cs)
      (hs : assemble units = some s) :
      Spelled (.text (some (String.ofList s))) ('"' :: (cs ++ ['"']))

/-- Whether a number that stands in front of some characters does not go on with them. -/
def EndsNumber (cs : List Char) : Prop :=
  ∀ c ∈ cs.head?, Text.digit? c = none ∧ c ≠ '.' ∧ c ≠ 'e' ∧ c ≠ 'E'

/-- **Whether characters are those of some tokens**, with blanks around them. -/
inductive Spread : List Token → List Char → Prop
  | nil : Spread [] []
  | blank {ts : List Token} {c : Char} {cs : List Char} (hc : isSpace c = true)
      (h : Spread ts cs) : Spread ts (c :: cs)
  | token {t : Token} {ts : List Token} {own cs : List Char} (h : t.Spelled own)
      (hends : ∀ n, t = .number n → EndsNumber cs) (hcs : Spread ts cs) :
      Spread (t :: ts) (own ++ cs)

end Token

/-! ## Numbers -/

namespace Numeral

open Token

theorem digit?_digitChar {d : Nat} (h : d < 10) : Text.digit? d.digitChar = some d := by
  interval_cases d <;> rfl

/-- Whether a number that was read so far goes on with some characters. -/
def Reaches (phase : Phase) (n : Numeral) (cs : List Char) (phase' : Phase) (n' : Numeral) : Prop :=
  ∀ rest, scan (.number phase n) (cs ++ rest) = scan (.number phase' n') rest

variable {phase phase' phase'' : Phase} {n n' n'' : Numeral} {cs cs' : List Char}

theorem Reaches.trans (h : Reaches phase n cs phase' n') (h' : Reaches phase' n' cs' phase'' n'') :
    Reaches phase n (cs ++ cs') phase'' n'' := by
  intro rest
  rw [List.append_assoc, h, h']

theorem reaches_nil : Reaches phase n [] phase n := fun _ => rfl

theorem Reaches.cons {c : Char} (hc : continueNumber? phase n c = some (phase', n'))
    (h : Reaches phase' n' cs phase'' n'') : Reaches phase n (c :: cs) phase'' n'' := by
  intro rest
  rw [← h rest, List.cons_append, scan, step, hc]
  rfl

theorem reaches_digits (put : Numeral → List Nat → Numeral) (hnil : ∀ n, put n [] = n)
    (hcons : ∀ n d ds, put (put n [d]) ds = put n (d :: ds))
    (hput : ∀ n d, d < 10 → continueNumber? phase n d.digitChar = some (phase, put n [d]))
    {ds : List Nat} (hds : ∀ d ∈ ds, d < 10) (n : Numeral) :
    Reaches phase n (digitChars ds) phase (put n ds) := by
  induction ds generalizing n with
  | nil =>
    rw [hnil]
    exact reaches_nil
  | cons d ds ih =>
    obtain ⟨hd, hds⟩ := List.forall_mem_cons.mp hds
    rw [← hcons]
    exact .cons (hput n d hd) (ih hds _)

theorem reaches_whole {ds : List Nat} (hds : ∀ d ∈ ds, d < 10) (n : Numeral) :
    Reaches .whole n (digitChars ds) .whole { n with whole := n.whole ++ ds } :=
  reaches_digits (fun n ds => { n with whole := n.whole ++ ds }) (by simp) (by simp)
    (fun n d hd => by simp [continueNumber?, digit?_digitChar hd]) hds n

theorem reaches_fraction {ds : List Nat} (hds : ∀ d ∈ ds, d < 10) (n : Numeral) :
    Reaches .fraction n (digitChars ds) .fraction { n with fraction := n.fraction ++ ds } :=
  reaches_digits (fun n ds => { n with fraction := n.fraction ++ ds }) (by simp) (by simp)
    (fun n d hd => by simp [continueNumber?, digit?_digitChar hd]) hds n

theorem reaches_exponent {ds : List Nat} (hds : ∀ d ∈ ds, d < 10) (n : Numeral) :
    Reaches .exponent n (digitChars ds) .exponent
      { n with exponent := n.exponent.map fun e => (e.1, e.2 ++ ds) } :=
  reaches_digits (fun n ds => { n with exponent := n.exponent.map fun e => (e.1, e.2 ++ ds) })
    (by simp) (by simp [Function.comp_def])
    (fun n d hd => by simp [continueNumber?, digit?_digitChar hd, withExponentDigit]) hds n

/-- The phase of a number after its first digit. -/
def firstPhase (first : Nat) : Phase := if first = 0 then .zero else .whole

theorem reaches_rest {negative : Bool} {first : Nat} {whole : List Nat}
    (hzero : first = 0 → whole = []) (hwhole : ∀ d ∈ whole, d < 10) :
    Reaches (firstPhase first) ⟨negative, [first], [], none⟩ (digitChars whole) (firstPhase first)
      ⟨negative, first :: whole, [], none⟩ := by
  by_cases hfirst : first = 0
  · rw [hzero hfirst]
    exact reaches_nil
  · rw [firstPhase, if_neg hfirst]
    exact reaches_whole hwhole _

/-- The phase of a number after its fraction, if it has one. -/
def fractionPhase (first : Nat) (fraction : List Nat) : Phase :=
  if fraction = [] then firstPhase first else .fraction

theorem reaches_point {negative : Bool} {first : Nat} {whole fraction : List Nat}
    (hfraction : ∀ d ∈ fraction, d < 10) :
    Reaches (firstPhase first) ⟨negative, first :: whole, [], none⟩
      (if fraction = [] then [] else '.' :: digitChars fraction) (fractionPhase first fraction)
      ⟨negative, first :: whole, fraction, none⟩ := by
  cases fraction with
  | nil => exact reaches_nil
  | cons d ds =>
    obtain ⟨hd, hds⟩ := List.forall_mem_cons.mp hfraction
    have hpoint : continueNumber? (firstPhase first) ⟨negative, first :: whole, [], none⟩ '.' =
        some (.point, ⟨negative, first :: whole, [], none⟩) := by
      rw [firstPhase]
      split_ifs <;> rfl
    have hdigit : continueNumber? .point ⟨negative, first :: whole, [], none⟩ d.digitChar =
        some (.fraction, ⟨negative, first :: whole, [d], none⟩) := by
      simp [continueNumber?, digit?_digitChar hd]
    exact .cons hpoint (.cons hdigit (reaches_fraction hds _))

theorem continueNumber?_mark {first : Nat} {fraction : List Nat} {mark : Char}
    (hmark : mark = 'e' ∨ mark = 'E') (n : Numeral) :
    continueNumber? (fractionPhase first fraction) n mark =
      some (.mark, { n with exponent := some (false, []) }) := by
  rw [fractionPhase, firstPhase]
  rcases hmark with rfl | rfl <;> split_ifs <;> rfl

/-- The phase in which a number ends. -/
def lastPhase (n : Numeral) : Phase :=
  if n.exponent = none then fractionPhase (n.whole.headD 0) n.fraction else .exponent

theorem reaches_powerDigits {phase : Phase} (hphase : phase = .mark ∨ phase = .exponentSign)
    {below : Bool} {ds : List Nat} (hne : ds ≠ []) (hds : ∀ d ∈ ds, d < 10) (n : Numeral) :
    Reaches phase { n with exponent := some (below, []) } (digitChars ds) .exponent
      { n with exponent := some (below, ds) } := by
  obtain ⟨d, ds, rfl⟩ := List.exists_cons_of_ne_nil hne
  obtain ⟨hd, hds⟩ := List.forall_mem_cons.mp hds
  have hdigit : continueNumber? phase { n with exponent := some (below, []) } d.digitChar =
      some (.exponent, { n with exponent := some (below, [d]) }) := by
    rcases hphase with rfl | rfl <;>
      simp [continueNumber?, digit?_digitChar hd, withExponentDigit]
  exact .cons hdigit (reaches_exponent hds { n with exponent := some (below, [d]) })

theorem reaches_power {n : Numeral} (hn : n.exponent = none)
    {exponent : Option (Bool × List Nat)} {power : List Char} (h : PowerSpelled exponent power) :
    Reaches (lastPhase n) n power (lastPhase { n with exponent }) { n with exponent } := by
  have hphase : lastPhase n = fractionPhase (n.whole.headD 0) n.fraction := if_pos hn
  cases h with
  | none =>
    rw [← hn]
    exact reaches_nil
  | plain hmark hne hds =>
    rw [hphase]
    exact .cons (continueNumber?_mark hmark n) (reaches_powerDigits (.inl rfl) hne hds n)
  | signed hmark below hne hds =>
    have hsign : continueNumber? .mark { n with exponent := some (false, []) }
        (if below then '-' else '+') =
          some (.exponentSign, { n with exponent := some (below, []) }) := by
      cases below <;> rfl
    rw [hphase]
    exact .cons (continueNumber?_mark hmark n)
      (.cons hsign (reaches_powerDigits (.inr rfl) hne hds n))

theorem scan_number_of_ends {n : Numeral} {cs : List Char} (h : EndsNumber cs) :
    scan (.number (lastPhase n) n) cs = .number n :: scan .between cs := by
  have hphase : lastPhase n = .zero ∨ lastPhase n = .whole ∨ lastPhase n = .fraction ∨
      lastPhase n = .exponent := by
    rw [lastPhase, fractionPhase, firstPhase]
    split_ifs <;> simp
  cases cs with
  | nil => rcases hphase with hp | hp | hp | hp <;> rw [hp] <;> rfl
  | cons c cs =>
    obtain ⟨hdigit, hpoint, he, hE⟩ := h c rfl
    have hstep : step (.number (lastPhase n) n) c = (.number n :: (start c).1, (start c).2) := by
      rcases hphase with hp | hp | hp | hp <;>
        simp [hp, step, continueNumber?, hdigit, hpoint, he, hE, Phase.final]
    rw [scan, hstep, scan, step]
    rfl

theorem scan_first {negative : Bool} {first : Nat} (hfirst : first < 10) (cs : List Char) :
    scan .between ((if negative then ['-'] else []) ++ (first.digitChar :: cs)) =
      scan (.number (firstPhase first) ⟨negative, [first], [], none⟩) cs := by
  cases negative with
  | false => interval_cases first <;> rfl
  | true => interval_cases first <;> rfl

theorem Spelled.scan {n : Numeral} {own cs : List Char} (h : n.Spelled own)
    (hends : EndsNumber cs) :
    Token.scan .between (own ++ cs) = .number n :: Token.scan .between cs := by
  obtain ⟨negative, hzero, hwhole, hfraction, hpower⟩ := h
  rename_i first whole fraction exponent power
  obtain ⟨hfirst, hwhole⟩ := List.forall_mem_cons.mp hwhole
  let n : Numeral := ⟨negative, first :: whole, fraction, none⟩
  have hparts := ((reaches_rest hzero hwhole).trans (reaches_point hfraction)).trans
    (reaches_power (n := n) rfl hpower)
  rw [← scan_number_of_ends hends, List.append_assoc, digitChars, List.map_cons,
    List.cons_append, List.cons_append, scan_first hfirst, ← hparts cs]
  simp [digitChars]

end Numeral

/-! ## Texts -/

namespace Token

theorem UnitSpelled.scan {u : Char ⊕ Nat} {own : List Char} (h : UnitSpelled u own)
    (units : List (Char ⊕ Nat)) (cs : List Char) :
    Token.scan (.quoted units) (own ++ cs) = Token.scan (.quoted (u :: units)) cs := by
  cases h with
  | plain hquote hslash hc =>
    simp [Token.scan, step, hquote, hslash, Nat.not_lt.mpr hc]
  | @escape letter c h =>
    have hu : letter ≠ 'u' := by
      rintro rfl
      cases h
    simp [Token.scan, step, hu, h]
  | code h₁ h₂ h₃ h₄ => simp [Token.scan, step, h₁, h₂, h₃, h₄]

theorem UnitsSpelled.scan {us : List (Char ⊕ Nat)} {own : List Char} (h : UnitsSpelled us own)
    (units : List (Char ⊕ Nat)) (cs : List Char) :
    Token.scan (.quoted units) (own ++ cs) = Token.scan (.quoted (us.reverse ++ units)) cs := by
  induction h generalizing units with
  | nil => rfl
  | cons h _ ih => rw [List.append_assoc, h.scan, ih, List.reverse_cons, List.append_assoc]; rfl

/-! ## Tokens -/

theorem Spelled.scan {t : Token} {own cs : List Char} (h : t.Spelled own)
    (hends : ∀ n, t = .number n → EndsNumber cs) :
    Token.scan .between (own ++ cs) = t :: Token.scan .between cs := by
  cases h with
  | openBrace | closeBrace | openBracket | closeBracket | comma | colon => rfl
  | null | yes | no => rfl
  | number h => exact h.scan (hends _ rfl)
  | text h hs =>
    have hopen (cs : List Char) :
        Token.scan .between ('"' :: cs) = Token.scan (.quoted []) cs := rfl
    rw [List.cons_append, hopen, List.append_assoc, h.scan, List.append_nil]
    simp [Token.scan, step, hs]

theorem scan_of_spread {ts : List Token} {cs : List Char} (h : Spread ts cs) :
    scan .between cs = ts := by
  induction h with
  | nil => rfl
  | blank hc _ ih => simpa [scan, step, start, hc] using ih
  | token h hends _ ih => rw [h.scan hends, ih]

/-- **A text is cut into the tokens that it spells.** -/
theorem ofChars_of_spread {ts : List Token} {cs : List Char} (h : Spread ts cs) :
    ofChars cs = ts := scan_of_spread h

end Token

end CloudProvider
