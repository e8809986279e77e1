import LayerTransfer.Json.Token
import Mathlib.Data.List.Chain

namespace LayerTransfer.Json

open Token (scan feed start)

/-! ### Strings -/

/-- A character of a string as it is written: an octet for itself, a short escape, or a 16-bit unit
in hexadecimal. -/
inductive Glyph
  | plain (b : UInt8) (h : 0x20 ≤ b ∧ b ≠ 0x22 ∧ b ≠ 0x5c)
  | escape (b c : UInt8) (h : Token.escaped? b = some c)
  | unit (a b c d : UInt8) (u : Nat) (h : Token.unit? [a, b, c, d] = some u)

def Glyph.octets : Glyph → Bytes
  | plain b _ => [b]
  | escape b _ _ => [0x5c, b]
  | unit a b c d _ _ => [0x5c, 0x75, a, b, c, d]

def Glyph.piece : Glyph → Piece
  | plain b _ => .octet b
  | escape _ c _ => .octet c
  | unit _ _ _ _ u _ => .unit u

theorem scan_glyph (g : Glyph) (acc : List Piece) (r : Bytes) :
    scan (.text acc) (g.octets ++ r) = scan (.text (g.piece :: acc)) r := by
  cases g with
  | plain b h =>
    have hb : ¬ b < 0x20 := UInt8.not_lt.2 h.1
    simp [Glyph.octets, Glyph.piece, scan, feed, h.2.1, h.2.2, hb]
  | escape b c h =>
    have hu : b ≠ 0x75 := by
      rintro rfl
      cases h
    simp [Glyph.octets, Glyph.piece, scan, feed, hu, h]
  | unit a b c d u h => simp [Glyph.octets, Glyph.piece, scan, feed, h]

theorem scan_glyphs (gs : List Glyph) (acc : List Piece) (r : Bytes) :
    scan (.text acc) (gs.flatMap Glyph.octets ++ r) =
      scan (.text ((gs.map Glyph.piece).reverse ++ acc)) r := by
  induction gs generalizing acc with
  | nil => rfl
  | cons g gs ih =>
    rw [List.flatMap_cons, List.append_assoc, scan_glyph, ih]
    simp

/-! ### Numbers -/

def digitOctet (d : Fin 10) : UInt8 := UInt8.ofNat (0x30 + d)

structure Exponent where
  capital : Bool
  sign : Option Bool
  lead : Fin 10
  more : List (Fin 10)

structure Literal where
  negative : Bool
  lead : Fin 10
  more : List (Fin 10)
  lead_valid : lead.val = 0 → more = []
  fraction : List (Fin 10)
  exponent : Option Exponent

namespace Exponent

def octets (e : Exponent) : Bytes :=
  (if e.capital then 0x45 else 0x65) ::
    (e.sign.elim [] fun minus => [if minus then 0x2d else 0x2b]) ++
      (e.lead :: e.more).map digitOctet

def value (e : Exponent) : Bool × List Nat :=
  (e.sign.getD false, (e.lead :: e.more).map Fin.val)

end Exponent

namespace Literal

def wholeOctets (l : Literal) : Bytes :=
  (if l.negative then [0x2d] else []) ++ (l.lead :: l.more).map digitOctet

def fractionOctets (l : Literal) : Bytes :=
  if l.fraction = [] then [] else 0x2e :: l.fraction.map digitOctet

def octets (l : Literal) : Bytes :=
  l.wholeOctets ++ l.fractionOctets ++ l.exponent.elim [] Exponent.octets

def numeral (l : Literal) : Numeral where
  negative := l.negative
  whole := (l.lead :: l.more).map Fin.val
  fraction := l.fraction.map Fin.val
  exponent := l.exponent.map Exponent.value

end Literal

/-! ### Reading numbers -/

theorem digit?_digitOctet : ∀ d : Fin 10, Token.digit? (digitOctet d) = some d.val := by
  decide

theorem start_digitOctet : ∀ d : Fin 10, start (digitOctet d) =
    ([], .number (if d = 0 then .zero else .whole) { whole := [d.val] }) := by
  decide

theorem extend?_sign : ∀ d : Fin 10, Token.extend? .sign { negative := true } (digitOctet d) =
    some (if d = 0 then .zero else .whole, { negative := true, whole := [d.val] }) := by
  decide

theorem scan_extend {p q : Token.Place} {n m : Numeral} {b : UInt8}
    (h : Token.extend? p n b = some (q, m)) (r : Bytes) :
    scan (.number p n) (b :: r) = scan (.number q m) r := by
  simp [scan, feed, h]

theorem scan_digits {p : Token.Place} {n : List Nat → Numeral}
    (h : ∀ (ds : List Nat) (d : Fin 10),
      Token.extend? p (n ds) (digitOctet d) = some (p, n (ds ++ [d.val])))
    (ds : List Nat) (more : List (Fin 10)) (r : Bytes) :
    scan (.number p (n ds)) (more.map digitOctet ++ r) =
      scan (.number p (n (ds ++ more.map Fin.val))) r := by
  induction more generalizing ds with
  | nil => rw [List.map_nil, List.map_nil, List.append_nil, List.nil_append]
  | cons d more ih =>
    rw [List.map_cons, List.cons_append, scan_extend (h ds d), ih, List.append_assoc,
      List.singleton_append, List.map_cons]

def Literal.wholePlace (l : Literal) : Token.Place := if l.lead = 0 then .zero else .whole

theorem scan_whole (l : Literal) (r : Bytes) :
    scan .between (l.wholeOctets ++ r) =
      scan (.number l.wholePlace
        { negative := l.negative, whole := (l.lead :: l.more).map Fin.val }) r := by
  have hlead (r : Bytes) :
      scan .between ((if l.negative then [0x2d] else []) ++ digitOctet l.lead :: r) =
        scan (.number l.wholePlace { negative := l.negative, whole := [l.lead.val] }) r := by
    cases l.negative with
    | false => simp [scan, feed, start_digitOctet, Literal.wholePlace]
    | true => exact scan_extend (extend?_sign l.lead) r
  have hmore (ds : List Nat) (d : Fin 10) :
      Token.extend? .whole { negative := l.negative, whole := ds } (digitOctet d) =
        some (.whole, { negative := l.negative, whole := ds ++ [d.val] }) := by
    simp only [Token.extend?, digit?_digitOctet]
  rw [Literal.wholeOctets, List.map_cons, List.append_assoc, List.cons_append, hlead]
  by_cases h0 : l.lead = 0
  · rw [l.lead_valid (congrArg Fin.val h0)]
    rfl
  · have hp : l.wholePlace = .whole := if_neg h0
    rw [hp]
    exact scan_digits hmore [l.lead.val] l.more r

inductive Complete : Token.Place → Prop
  | zero : Complete .zero
  | whole : Complete .whole
  | fraction : Complete .fraction
  | exponent : Complete .exponent

theorem scan_fraction (l : Literal) (r : Bytes) :
    ∃ p, (p = .zero ∨ p = .whole ∨ p = .fraction) ∧
      scan .between (l.wholeOctets ++ (l.fractionOctets ++ r)) =
        scan (.number p { l.numeral with exponent := none }) r := by
  have hw : l.wholePlace = .zero ∨ l.wholePlace = .whole := by
    rw [Literal.wholePlace]
    split
    · exact .inl rfl
    · exact .inr rfl
  rw [scan_whole, Literal.fractionOctets, Literal.numeral]
  cases l.fraction with
  | nil => exact ⟨l.wholePlace, by tauto, rfl⟩
  | cons d more =>
    have hpoint (n : Numeral) : Token.extend? l.wholePlace n 0x2e = some (.point, n) := by
      rcases hw with hp | hp <;> rw [hp] <;> rfl
    have hdigit {p : Token.Place} (hp : p = .point ∨ p = .fraction) (ds : List Nat) (d : Fin 10) :
        Token.extend? p
            { negative := l.negative, whole := (l.lead :: l.more).map Fin.val, fraction := ds }
            (digitOctet d) =
          some (.fraction, { negative := l.negative, whole := (l.lead :: l.more).map Fin.val,
                             fraction := ds ++ [d.val] }) := by
      rcases hp with rfl | rfl <;> simp only [Token.extend?, digit?_digitOctet]
    refine ⟨.fraction, .inr (.inr rfl), ?_⟩
    rw [if_neg (List.cons_ne_nil d more), List.cons_append, scan_extend (hpoint _),
      List.map_cons (f := digitOctet), List.cons_append, scan_extend (hdigit (.inl rfl) [] d)]
    exact scan_digits (hdigit (.inr rfl)) [d.val] more r

theorem scan_exponent (e : Exponent) {p : Token.Place}
    (hp : p = .zero ∨ p = .whole ∨ p = .fraction) (n : Numeral) (hn : n.exponent = none)
    (r : Bytes) :
    scan (.number p n) (e.octets ++ r) =
      scan (.number .exponent { n with exponent := some e.value }) r := by
  have hmark : Token.extend? p n (if e.capital then 0x45 else 0x65) = some (.mark, n) := by
    rcases hp with rfl | rfl | rfl <;> cases e.capital <;> rfl
  have hdigit {p : Token.Place} (hp : p = .markSign ∨ p = .exponent) (down : Bool) (ds : List Nat)
      (d : Fin 10) : Token.extend? p { n with exponent := some (down, ds) } (digitOctet d) =
        some (.exponent, { n with exponent := some (down, ds ++ [d.val]) }) := by
    rcases hp with rfl | rfl <;> simp only [Token.extend?, digit?_digitOctet, Token.addExponent]
  have hmore (down : Bool) := scan_digits (hdigit (.inr rfl) down) [e.lead.val] e.more r
  rw [Exponent.octets, Exponent.value, List.cons_append, List.cons_append, scan_extend hmark,
    List.append_assoc, List.map_cons, List.cons_append]
  cases e.sign with
  | none =>
    have hfirst : Token.extend? .mark n (digitOctet e.lead) =
        some (.exponent, { n with exponent := some (false, [e.lead.val]) }) := by
      simp only [Token.extend?, digit?_digitOctet, Token.addExponent, hn]
    exact (scan_extend hfirst _).trans (hmore false)
  | some minus =>
    have hsign : Token.extend? .mark n (if minus then 0x2d else 0x2b) =
        some (.markSign, { n with exponent := some (minus, []) }) := by
      cases minus <;> rfl
    exact (scan_extend hsign _).trans
      ((scan_extend (hdigit (.inl rfl) minus [] e.lead) _).trans (hmore minus))

def EndsNumeral (b : UInt8) : Prop :=
  Token.digit? b = none ∧ b ≠ 0x2e ∧ b ≠ 0x65 ∧ b ≠ 0x45

instance : DecidablePred EndsNumeral := fun b =>
  inferInstanceAs (Decidable (Token.digit? b = none ∧ b ≠ 0x2e ∧ b ≠ 0x65 ∧ b ≠ 0x45))

def Follows (r : Bytes) : Prop :=
  ∀ c ∈ r.head?, EndsNumeral c

theorem scan_complete {p : Token.Place} (hp : Complete p) (n : Numeral) {r : Bytes}
    (hr : Follows r) : scan (.number p n) r = .number n :: scan .between r := by
  cases r with
  | nil => cases hp <;> rfl
  | cons c r =>
    obtain ⟨hdigit, hpoint, he, hE⟩ := hr c rfl
    have hx : Token.extend? p n c = none := by
      cases hp <;> simp [Token.extend?, hdigit, hpoint, he, hE]
    have hends : Token.ends p c = true := by
      cases hp <;> simp [Token.ends, hdigit]
    simp [scan, feed, hx, hends]

/-- A number is read as its numeral, unless an octet behind it continues it. -/
theorem scan_literal (l : Literal) {r : Bytes} (hr : Follows r) :
    scan .between (l.octets ++ r) = .number l.numeral :: scan .between r := by
  rw [Literal.octets, List.append_assoc, List.append_assoc]
  obtain ⟨p, hp, hscan⟩ := scan_fraction l (l.exponent.elim [] Exponent.octets ++ r)
  rw [hscan]
  cases he : l.exponent with
  | none =>
    have hn : { l.numeral with exponent := none } = l.numeral := by simp [Literal.numeral, he]
    have hc : Complete p := by
      rcases hp with rfl | rfl | rfl
      · exact .zero
      · exact .whole
      · exact .fraction
    rw [hn]
    exact scan_complete hc l.numeral hr
  | some e =>
    have hn : { l.numeral with exponent := some e.value } = l.numeral := by
      simp [Literal.numeral, he]
    exact (scan_exponent e hp _ rfl r).trans (by rw [hn]; exact scan_complete .exponent l.numeral hr)

/-! ### Tokens -/

def Word.octets : Word → Bytes
  | null => [0x6e, 0x75, 0x6c, 0x6c]
  | true => [0x74, 0x72, 0x75, 0x65]
  | false => [0x66, 0x61, 0x6c, 0x73, 0x65]

inductive Spelled : Token → Bytes → Prop
  | braceOpen : Spelled .braceOpen [0x7b]
  | braceClose : Spelled .braceClose [0x7d]
  | bracketOpen : Spelled .bracketOpen [0x5b]
  | bracketClose : Spelled .bracketClose [0x5d]
  | colon : Spelled .colon [0x3a]
  | comma : Spelled .comma [0x2c]
  | word (w : Word) : Spelled (.word w) w.octets
  | number (l : Literal) : Spelled (.number l.numeral) l.octets
  | text (gs : List Glyph) :
    Spelled (.text (gs.map Glyph.piece)) (0x22 :: gs.flatMap Glyph.octets ++ [0x22])

def Token.isMark : Token → Bool
  | braceOpen | braceClose | bracketOpen | bracketClose | colon | comma => true
  | _ => false

theorem follows_of_mark {t : Token} {b : Bytes} (h : Spelled t b) (ht : t.isMark = true)
    (r : Bytes) : Follows (b ++ r) := by
  intro c hc
  cases h <;> first
    | (cases hc; decide)
    | cases ht

theorem scan_spelled {t : Token} {b r : Bytes} (h : Spelled t b)
    (hr : t.isMark = true ∨ Follows r) : scan .between (b ++ r) = t :: scan .between r := by
  cases h with
  | braceOpen | braceClose | bracketOpen | bracketClose | colon | comma => rfl
  | word w => cases w <;> rfl
  | number l =>
    obtain ht | hr := hr
    · cases ht
    · exact scan_literal l hr
  | text gs =>
    have hquote (acc : List Piece) :
        scan (.text acc) (0x22 :: r) = .text acc.reverse :: scan .between r := rfl
    have hopen (r : Bytes) : scan .between (0x22 :: r) = scan (.text []) r := rfl
    rw [List.cons_append, List.cons_append, List.append_assoc, hopen, scan_glyphs,
      List.singleton_append, hquote, List.append_nil, List.reverse_reverse]

/-! ### Texts -/

def IsBlank (ws : Bytes) : Prop :=
  ∀ b ∈ ws, Token.isBlank b = true

instance : DecidablePred IsBlank := fun ws =>
  decidable_of_iff (ws.all Token.isBlank = true) List.all_eq_true

/-- Texts of tokens, with any blanks around them. -/
inductive Spells : List Token → Bytes → Prop
  | nil {ws : Bytes} (hws : IsBlank ws) : Spells [] ws
  | cons {ws b r : Bytes} {t : Token} {ts : List Token} (hws : IsBlank ws) (ht : Spelled t b)
      (hr : Spells ts r) : Spells (t :: ts) (ws ++ (b ++ r))

/-- Tokens among which no two stand side by side without a punctuation mark, as in all values. -/
def Parted (ts : List Token) : Prop :=
  ts.IsChain fun t u => t.isMark = true ∨ u.isMark = true

theorem endsNumeral_of_isBlank {b : UInt8} (h : Token.isBlank b = true) : EndsNumeral b := by
  simp only [Token.isBlank, Bool.or_eq_true, beq_iff_eq] at h
  obtain ((rfl | rfl) | rfl) | rfl := h <;> decide

theorem follows_of_isBlank {ws r : Bytes} (h : IsBlank ws) (hr : Follows r) : Follows (ws ++ r) := by
  cases ws with
  | nil => exact hr
  | cons b ws =>
    intro c hc
    cases hc
    exact endsNumeral_of_isBlank (h b (List.mem_cons_self ..))

theorem follows_of_spells {ts : List Token} {b : Bytes} (h : Spells ts b)
    (ht : ∀ t ∈ ts.head?, t.isMark = true) : Follows b := by
  cases h with
  | nil hws =>
    rw [← List.append_nil b]
    exact follows_of_isBlank hws fun c hc => by cases hc
  | cons hws hb hr => exact follows_of_isBlank hws (follows_of_mark hb (ht _ rfl) _)

theorem ofBytes_of_spells {ts : List Token} {b : Bytes} (h : Spells ts b) (hts : Parted ts) :
    Token.ofBytes b = ts := by
  induction h with
  | @nil ws hws =>
    have hb := Token.scan_blanks ws [] hws
    rw [List.append_nil] at hb
    exact hb
  | @cons ws b r t ts hws ht hr ih =>
    have hfollows : t.isMark = true ∨ Follows r := by
      by_cases hm : t.isMark = true
      · exact .inl hm
      · exact .inr (follows_of_spells hr fun u hu => (hts.rel_head? hu).resolve_left hm)
    rw [Token.ofBytes, Token.scan_blanks _ _ hws, scan_spelled ht hfollows]
    exact congrArg (t :: ·) (ih hts.tail)

theorem Spells.blanks {ws b : Bytes} {ts : List Token} (hws : IsBlank ws) (h : Spells ts b) :
    Spells ts (ws ++ b) := by
  have happ {v : Bytes} (hv : IsBlank v) : IsBlank (ws ++ v) := fun c hc =>
    (List.mem_append.1 hc).elim (hws c) (hv c)
  cases h with
  | nil hv => exact .nil (happ hv)
  | cons hv ht hr =>
    rw [← List.append_assoc]
    exact .cons (happ hv) ht hr

theorem Spells.append {a b : Bytes} {ts us : List Token} (h : Spells ts a) (hu : Spells us b) :
    Spells (ts ++ us) (a ++ b) := by
  induction h with
  | nil hws => exact hu.blanks hws
  | cons hws ht _ ih =>
    rw [List.append_assoc, List.append_assoc]
    exact .cons hws ht ih

theorem Spelled.spells {t : Token} {b : Bytes} (h : Spelled t b) : Spells [t] b := by
  have hnil : IsBlank [] := by decide
  rw [← List.append_nil b]
  exact .cons hnil h (.nil hnil)

end LayerTransfer.Json
