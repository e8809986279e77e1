import LayerTransfer.Json.Reader
import LayerTransfer.Proofs.Json.Value

namespace LayerTransfer.Json

/-- Tokens that a reader takes for a value, whatever stands behind them. -/
def Reads {α : Type} (read : Reader α) (ts : List Token) (a : α) : Prop :=
  ∀ r, read (ts ++ r) = .ok (a, r)

theorem utf8EncodeChar_control : ∀ n < 32, String.utf8EncodeChar (Char.ofNat n) = [UInt8.ofNat n] := by
  decide

theorem octets_piece (b : UInt8) (ps : List Piece) :
    octets none (piece b :: ps) = (octets none ps).map (b :: ·) := by
  rw [piece]
  split
  next h =>
    have hb : b.toNat < 32 := UInt8.lt_iff_toNat_lt.1 h.1
    have ht : isTrailing b.toNat = false := by
      simp only [isTrailing, Bool.and_eq_false_iff, decide_eq_false_iff_not]
      omega
    have hl : isLeading b.toNat = false := by
      simp only [isLeading, Bool.and_eq_false_iff, decide_eq_false_iff_not]
      omega
    rw [octets.eq_def]
    simp only [ht, hl, Bool.false_eq_true, if_false, utf8EncodeChar_control _ hb,
      UInt8.ofNat_toNat]
    rfl
  next => rfl

theorem octets_pieces (b : Bytes) : octets none (b.map piece) = .ok b := by
  induction b with
  | nil => rfl
  | cons c b ih =>
    rw [List.map_cons, octets_piece, ih]
    rfl

theorem string_pieces (s : String) : string none ((Bytes.ofText s).map piece) = .ok s := by
  rw [string, octets_pieces]
  simp [Except.bind]

theorem reads_text (s : String) : Reads readText (Value.ofText s).tokens s := by
  intro r
  simp only [Value.ofText, Value.tokens, List.singleton_append, readText, string_pieces]
  rfl

theorem number_decimals {n : Nat} (h : n < UInt64.size) :
    Numeral.number { whole := decimals n } = some (.natural n) := by
  simp [Numeral.number, digitsValue_decimals, h]

theorem reads_natural {bound n : Nat} (expected : String) (hb : n < bound) (h : n < UInt64.size) :
    Reads (readNatural bound expected) (Value.ofNatural n).tokens n := by
  intro r
  simp only [Value.ofNatural, Value.tokens, List.singleton_append, readNatural, number_decimals h,
    hb, if_true]

theorem reads_digest (d : Digest) : Reads readDigest (Value.ofText d.text).tokens d := by
  intro r
  rw [readDigest, reads_text]
  simp only [Except.bind, Digest.parse_text]

theorem pass_items {items : List Value} {frames : List Frame}
    (h : ∀ v ∈ items, ∀ r, pass .value (.list :: frames) (v.tokens ++ r) =
      pass .after (.list :: frames) r) (r : List Token) :
    pass .after (.list :: frames) (upcoming false .bracketClose (items.map Value.tokens) r) =
      pass .after frames r := by
  have hcomma (ts : List Token) : pass .after (.list :: frames) (.comma :: ts) =
      pass .value (.list :: frames) ts := rfl
  induction items with
  | nil => rfl
  | cons v items ih =>
    obtain ⟨hv, hitems⟩ := List.forall_mem_cons.1 h
    rw [List.map_cons, upcoming_later, hcomma, hv, ih hitems]

theorem pass_member {m : Member} {frames : List Frame} {gap : Gap}
    (hgap : gap = .opened ∨ gap = .key)
    (h : ∀ r, pass .value (.object :: frames) (m.2.tokens ++ r) =
      pass .after (.object :: frames) r) (r : List Token) :
    pass gap (.object :: frames) (m.tokens ++ r) = pass .after (.object :: frames) r := by
  have hkey (ts : List Token) : pass gap (.object :: frames) (.text m.1 :: .colon :: ts) =
      pass .value (.object :: frames) ts := by
    rcases hgap with rfl | rfl <;> rfl
  exact (hkey _).trans (h r)

theorem pass_members {ms : List Member} {frames : List Frame}
    (h : ∀ m ∈ ms, ∀ r, pass .value (.object :: frames) (m.2.tokens ++ r) =
      pass .after (.object :: frames) r) (r : List Token) :
    pass .after (.object :: frames) (upcoming false .braceClose (ms.map Member.tokens) r) =
      pass .after frames r := by
  have hcomma (ts : List Token) : pass .after (.object :: frames) (.comma :: ts) =
      pass .key (.object :: frames) ts := rfl
  induction ms with
  | nil => rfl
  | cons m ms ih =>
    obtain ⟨hm, hms⟩ := List.forall_mem_cons.1 h
    rw [List.map_cons, upcoming_later, hcomma, pass_member (.inr rfl) hm, ih hms]

theorem pass_opened {v : Value} {frames : List Frame} (r : List Token) :
    pass .opened (.list :: frames) (v.tokens ++ r) = pass .value (.list :: frames) (v.tokens ++ r) := by
  obtain ⟨t, ts, hts, ht⟩ := v.exists_tokens_eq
  rw [hts, List.cons_append]
  cases t <;> first | rfl | exact absurd rfl ht

/-- Any value is passed over, however deep it nests and whatever is open around it. -/
theorem pass_tokens (v : Value) (frames : List Frame) (r : List Token) :
    pass .value frames (v.tokens ++ r) = pass .after frames r := by
  induction v generalizing frames r with
  | word w | number n | text ps =>
    rw [Value.tokens]
    rfl
  | list items ih =>
    have hopen (ts : List Token) :
        pass .value frames (.bracketOpen :: ts) = pass .opened (.list :: frames) ts := rfl
    rw [Value.tokens_list, hopen]
    cases items with
    | nil => rfl
    | cons v items =>
      obtain ⟨hv, hitems⟩ := List.forall_mem_cons.1 ih
      rw [List.map_cons, upcoming_first, pass_opened, hv, pass_items fun w hw r => hitems w hw _ r]
  | object ms ih =>
    have hopen (ts : List Token) :
        pass .value frames (.braceOpen :: ts) = pass .opened (.object :: frames) ts := rfl
    rw [Value.tokens_object, hopen]
    cases ms with
    | nil => rfl
    | cons m ms =>
      obtain ⟨hm, hms⟩ := List.forall_mem_cons.1 ih
      rw [List.map_cons, upcoming_first, pass_member (.inl rfl) (hm _),
        pass_members fun n hn r => hms n hn _ r]

theorem reads_passAny (v : Value) : Reads passAny v.tokens () := by
  intro r
  rw [passAny, pass_tokens]
  cases r <;> rfl

theorem readDocument_of_reads {α : Type} {read : Reader α} {v : Value} {b : Bytes} {a : α}
    (h : v.IsText b) (hr : Reads read v.tokens a) : readDocument read b = .ok a := by
  have hnil := hr []
  rw [List.append_nil] at hnil
  rw [readDocument, v.ofBytes_of_isText h, hnil]
  rfl

end LayerTransfer.Json
