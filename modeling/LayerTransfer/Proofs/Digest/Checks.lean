import LayerTransfer.Digest
import LayerTransfer.Json.Token
import LayerTransfer.TransferError

namespace LayerTransfer

/-! ### Octets of texts -/

namespace Bytes

theorem le_of_mem_utf8EncodeChar {c : Char} (hc : 0x80 ≤ c.toNat) {b : UInt8}
    (hb : b ∈ String.utf8EncodeChar c) : 0x80 ≤ b := by
  have hc' : ¬c.val.toNat ≤ 0x7f := Nat.not_le_of_lt hc
  unfold String.utf8EncodeChar at hb
  simp only [hc', if_false] at hb
  obtain ⟨n, rfl, hn⟩ : ∃ n, b = UInt8.ofNat n ∧ 0x80 ≤ n ∧ n < 0x100 := by
    split at hb
    · simp only [List.mem_cons, List.not_mem_nil, or_false] at hb
      rcases hb with rfl | rfl <;> exact ⟨_, rfl, by omega⟩
    · split at hb
      · simp only [List.mem_cons, List.not_mem_nil, or_false] at hb
        rcases hb with rfl | rfl | rfl <;> exact ⟨_, rfl, by omega⟩
      · simp only [List.mem_cons, List.not_mem_nil, or_false] at hb
        rcases hb with rfl | rfl | rfl | rfl <;> exact ⟨_, rfl, by omega⟩
  rw [UInt8.le_iff_toNat_le, UInt8.toNat_ofNat', Nat.mod_eq_of_lt hn.2]
  exact hn.1

theorem mem_of_mem_ofText {s : String} {b : UInt8} (hb : b ∈ ofText s) (h : b < 0x80) :
    Char.ofNat b.toNat ∈ s.toList := by
  rw [ofText_eq_flatMap, List.mem_flatMap] at hb
  obtain ⟨c, hc, hb⟩ := hb
  by_cases hn : c.toNat < 0x80
  · rw [utf8EncodeChar_of_ascii hn, List.mem_singleton] at hb
    have hv : b.toNat = c.toNat := by
      rw [hb, UInt8.toNat_ofNat', Nat.mod_eq_of_lt (by omega)]
    rw [hv, Char.ofNat_toNat]
    exact hc
  · have hle := UInt8.le_iff_toNat_le.1 (le_of_mem_utf8EncodeChar (Nat.le_of_not_lt hn) hb)
    exact absurd (UInt8.lt_iff_toNat_lt.1 h) (Nat.not_lt_of_le hle)

end Bytes

/-! ### Digits of digests -/

def digits : List Char := "0123456789abcdef".toList

theorem isHexDigit_iff {c : Char} : isHexDigit c = true ↔ c ∈ digits := by
  constructor
  · intro h
    have hn : c.val.toNat = c.toNat := rfl
    simp only [isHexDigit, Bool.or_eq_true, Bool.and_eq_true, decide_eq_true_eq, Char.le_def,
      UInt32.le_iff_toNat_le, hn] at h
    have hall : ∀ n < 103, 48 ≤ n ∧ n ≤ 57 ∨ 97 ≤ n ∧ n ≤ 102 → Char.ofNat n ∈ digits := by decide
    rw [← Char.ofNat_toNat c]
    exact hall c.toNat (by simp at h; omega) h
  · have hall : digits.all isHexDigit = true := by decide
    exact List.all_eq_true.1 hall c

namespace Digest

open Json.Token (hexDigit?)

def decodeFrom : Nat → Bytes → Except Fault Bytes
  | i, b :: c :: r =>
    match hexDigit? b, hexDigit? c with
    | none, _ => .error (.character b i)
    | some _, none => .error (.character c (i + 1))
    | some high, some low => (decodeFrom (i + 2) r).map (UInt8.ofNat (16 * high + low) :: ·)
  | _, [] => .ok []
  | _, [_] => .error .oddLength

def decode (b : Bytes) : Except Fault Bytes :=
  if b.length % 2 = 1 then .error .oddLength else decodeFrom 0 b

def checkHex (a : Algorithm) (cs : List Char) : Except Fault Unit :=
  if cs.any Char.isUpper then .error .uppercase
  else
    let octets := Bytes.ofText (String.ofList cs)
    (decode octets).bind fun decoded =>
      if decoded.length = a.width / 2 then .ok () else .error (.length a.width octets.length)

/-- A text checked one thing after the other: the parts of the digest it stands for, or the fault of
the first check that fails. -/
def check (s : String) : Except Fault (Algorithm × String) :=
  match Text.Cut.atFirst ':' s.toList with
  | none => .error .separator
  | some (name, hex) =>
    match Algorithm.ofName? (String.ofList name) with
    | none => .error (if name.isEmpty then .missingAlgorithm else .unsupportedAlgorithm)
    | some a => (checkHex a hex).map fun _ => (a, String.ofList hex)

theorem hexDigit?_isSome {b : UInt8} (h : ¬(0x41 ≤ b ∧ b ≤ 0x46)) :
    (hexDigit? b).isSome = isHexDigit (Char.ofNat b.toNat) := by
  have hall : ∀ n < 256, ¬(0x41 ≤ UInt8.ofNat n ∧ UInt8.ofNat n ≤ 0x46) →
      (hexDigit? (UInt8.ofNat n)).isSome = isHexDigit (Char.ofNat (UInt8.ofNat n).toNat) := by
    decide +kernel
  have hb := hall b.toNat b.toNat_lt
  rw [UInt8.ofNat_toNat] at hb
  exact hb h

theorem firstStray_of_digit {b : UInt8} {v : Nat} (h : ¬(0x41 ≤ b ∧ b ≤ 0x46))
    (hb : hexDigit? b = some v) (i : Nat) (r : Bytes) :
    firstStray i (b :: r) = firstStray (i + 1) r := by
  rw [firstStray, ← hexDigit?_isSome h, hb]
  rfl

theorem firstStray_of_stray {b : UInt8} (h : ¬(0x41 ≤ b ∧ b ≤ 0x46)) (hb : hexDigit? b = none)
    (i : Nat) (r : Bytes) : firstStray i (b :: r) = some (b, i) := by
  rw [firstStray, ← hexDigit?_isSome h, hb]
  rfl

/-- Without capitals, the first octet that is no digit ends the decoding. -/
theorem decodeFrom_eq (i : Nat) (b : Bytes) (heven : b.length % 2 = 0)
    (hlower : ∀ c ∈ b, ¬((0x41 : UInt8) ≤ c ∧ c ≤ 0x46)) :
    match firstStray i b with
    | some (c, k) => decodeFrom i b = .error (.character c k)
    | none => ∃ decoded, decodeFrom i b = .ok decoded ∧ decoded.length = b.length / 2 := by
  fun_induction decodeFrom i b with
  | case1 i b c r hb => rw [firstStray_of_stray (hlower b (by simp)) hb]
  | case2 i b c r high hc hb =>
    rw [firstStray_of_digit (hlower b (by simp)) hb, firstStray_of_stray (hlower c (by simp)) hc]
  | case3 i b c r high low hc hb ih =>
    rw [firstStray_of_digit (hlower b (by simp)) hb, firstStray_of_digit (hlower c (by simp)) hc]
    rw [List.length_cons, List.length_cons] at heven
    have hr := ih (by omega) fun d hd => hlower d (by simp [hd])
    revert hr
    cases firstStray (i + 2) r with
    | some x =>
      intro hr
      simp only [hr]
      rfl
    | none =>
      rintro ⟨decoded, hd, hl⟩
      refine ⟨UInt8.ofNat (16 * high + low) :: decoded, by rw [hd]; rfl, ?_⟩
      simp only [List.length_cons, hl]
      omega
  | case4 i => exact ⟨[], rfl, rfl⟩
  | case5 i b => simp at heven

theorem firstStray_eq_none_iff {i : Nat} {b : Bytes} :
    firstStray i b = none ↔ ∀ c ∈ b, isHexDigit (Char.ofNat c.toNat) = true := by
  induction b generalizing i with
  | nil => simp [firstStray]
  | cons c r ih =>
    rw [firstStray]
    split
    next h => simp [h, ih]
    next h => simp [h]

theorem toNat_lt_of_isHexDigit {c : Char} (h : isHexDigit c = true) : c.toNat < 0x80 := by
  have hall : digits.all (·.toNat < 0x80) = true := by decide
  exact of_decide_eq_true (List.all_eq_true.1 hall c (isHexDigit_iff.1 h))

theorem toNat_ofNat_octet {n : Nat} (h : n < 256) : (Char.ofNat n).toNat = n := by
  have hall : ∀ n < 256, (Char.ofNat n).toNat = n := by decide +kernel
  exact hall n h

theorem octets_hex_iff {cs : List Char} :
    (∀ b ∈ Bytes.ofText (String.ofList cs), isHexDigit (Char.ofNat b.toNat) = true) ↔
      ∀ c ∈ cs, isHexDigit c = true := by
  rw [Bytes.ofText_eq_flatMap, String.toList_ofList]
  constructor
  · intro h c hc
    by_cases hn : c.toNat < 0x80
    · have hb := h (UInt8.ofNat c.toNat) (List.mem_flatMap.2
        ⟨c, hc, by rw [Bytes.utf8EncodeChar_of_ascii hn]; exact List.mem_singleton_self _⟩)
      rwa [UInt8.toNat_ofNat', Nat.mod_eq_of_lt (by omega), Char.ofNat_toNat] at hb
    · obtain ⟨b, r, he, -, -⟩ := Bytes.utf8EncodeChar_eq_cons c
      have hb : b ∈ String.utf8EncodeChar c := he ▸ List.mem_cons_self
      have hlt := toNat_lt_of_isHexDigit (h b (List.mem_flatMap.2 ⟨c, hc, hb⟩))
      have hle := UInt8.le_iff_toNat_le.1 (Bytes.le_of_mem_utf8EncodeChar (Nat.le_of_not_lt hn) hb)
      rw [toNat_ofNat_octet b.toNat_lt] at hlt
      exact absurd hlt (Nat.not_lt_of_le hle)
  · intro h b hb
    obtain ⟨c, hc, hb⟩ := List.mem_flatMap.1 hb
    have hn := toNat_lt_of_isHexDigit (h c hc)
    rw [Bytes.utf8EncodeChar_of_ascii hn, List.mem_singleton] at hb
    rw [hb, UInt8.toNat_ofNat', Nat.mod_eq_of_lt (by omega), Char.ofNat_toNat]
    exact h c hc

theorem accepts_iff {a : Algorithm} {cs : List Char} :
    a.accepts cs = true ↔ cs.length = a.width ∧ ∀ c ∈ cs, isHexDigit c = true := by
  simp [Algorithm.accepts]

theorem length_octets_of_hex {cs : List Char} (h : ∀ c ∈ cs, isHexDigit c = true) :
    (Bytes.ofText (String.ofList cs)).length = cs.length := by
  rw [Bytes.ofText_of_ascii, List.length_map, String.toList_ofList]
  intro c hc
  rw [String.toList_ofList] at hc
  exact toNat_lt_of_isHexDigit (h c hc)

theorem not_isUpper_of_isHexDigit {c : Char} (h : isHexDigit c = true) : c.isUpper = false := by
  have hall : digits.any Char.isUpper = false := by decide
  exact Bool.eq_false_iff.2 (List.any_eq_false.1 hall c (isHexDigit_iff.1 h))

theorem isUpper_of_capital {b : UInt8} (h : 0x41 ≤ b ∧ b ≤ 0x46) :
    (Char.ofNat b.toNat).isUpper = true := by
  have hall : ∀ n < 0x47, 0x41 ≤ n → (Char.ofNat n).isUpper = true := by decide
  have h1 := UInt8.le_iff_toNat_le.1 h.1
  have h2 := UInt8.le_iff_toNat_le.1 h.2
  exact hall b.toNat (Nat.lt_succ_of_le h2) h1

theorem checkHex_eq (a : Algorithm) (cs : List Char) :
    checkHex a cs = if a.accepts cs then .ok () else .error (hexFault a cs) := by
  have hwidth : a.width % 2 = 0 := by cases a <;> rfl
  unfold checkHex hexFault
  by_cases hu : cs.any Char.isUpper = true
  · have ha : ¬a.accepts cs = true := by
      intro ha
      obtain ⟨c, hc, hupper⟩ := List.any_eq_true.1 hu
      exact absurd hupper (by simp [not_isUpper_of_isHexDigit ((accepts_iff.1 ha).2 c hc)])
    rw [if_neg ha, if_pos hu, if_pos hu]
  · have hlower : ∀ b ∈ Bytes.ofText (String.ofList cs), ¬((0x41 : UInt8) ≤ b ∧ b ≤ 0x46) := by
      intro b hb hcapital
      have hchar := Bytes.mem_of_mem_ofText hb (UInt8.lt_of_le_of_lt hcapital.2 (by decide))
      rw [String.toList_ofList] at hchar
      exact hu (List.any_eq_true.2 ⟨_, hchar, isUpper_of_capital hcapital⟩)
    rw [if_neg hu, if_neg hu]
    by_cases hodd : (Bytes.ofText (String.ofList cs)).length % 2 = 1
    · have ha : ¬a.accepts cs = true := by
        intro ha
        obtain ⟨hl, hh⟩ := accepts_iff.1 ha
        rw [length_octets_of_hex hh, hl] at hodd
        omega
      simp only [decode, hodd, if_true, if_neg ha]
      rfl
    · have hdecode := decodeFrom_eq 0 (Bytes.ofText (String.ofList cs)) (by omega) hlower
      simp only [decode, hodd, if_false]
      cases hs : firstStray 0 (Bytes.ofText (String.ofList cs)) with
      | some x =>
        have ha : ¬a.accepts cs = true := by
          intro ha
          rw [firstStray_eq_none_iff.2 (octets_hex_iff.2 (accepts_iff.1 ha).2)] at hs
          cases hs
        rw [hs] at hdecode
        simp only [hdecode, if_neg ha]
        rfl
      | none =>
        rw [hs] at hdecode
        obtain ⟨decoded, hd, hl⟩ := hdecode
        have hh := octets_hex_iff.1 (firstStray_eq_none_iff.1 hs)
        have hiff : decoded.length = a.width / 2 ↔ a.accepts cs = true := by
          rw [accepts_iff, and_iff_left hh, hl]
          rw [length_octets_of_hex hh] at hodd ⊢
          omega
        simp only [hd, Except.bind, hiff]

/-- The steps accept the digests that are read, and stop with the fault of any other text. -/
theorem check_eq (s : String) : check s = (parse s).map fun d => (d.algorithm, d.hex) := by
  unfold check parse
  cases Text.Cut.atFirst ':' s.toList with
  | none => rfl
  | some p =>
    obtain ⟨name, hex⟩ := p
    dsimp only
    cases Algorithm.ofName? (String.ofList name) with
    | none => rfl
    | some a =>
      dsimp only
      rw [checkHex_eq]
      by_cases h : a.accepts hex = true
      · rw [if_pos h, dif_pos h]
        rfl
      · rw [if_neg h, dif_neg h]
        rfl

end Digest

end LayerTransfer
