import LayerTransfer.Json.Printer
import LayerTransfer.Proofs.Json.Spelling

namespace LayerTransfer.Json

def piece (b : UInt8) : Piece :=
  if b < 0x20 ∧ b ≠ 0x08 ∧ b ≠ 0x0c ∧ b ≠ 0x0a ∧ b ≠ 0x0d ∧ b ≠ 0x09 then .unit b.toNat
  else .octet b

def hexOctets (n : Nat) : Bytes :=
  [UInt8.ofNat (Nat.digitChar (n / 16)).toNat, UInt8.ofNat (Nat.digitChar (n % 16)).toNat]

theorem unicodeEscape_eq : ∀ n < 32,
    Bytes.ofText "\\u00" ++ Bytes.ofText (String.ofList (Bytes.hexByte (UInt8.ofNat n))) =
        [0x5c, 0x75, 0x30, 0x30] ++ hexOctets n ∧
      Token.unit? ([0x30, 0x30] ++ hexOctets n) = some n := by
  decide

theorem exists_glyph (b : UInt8) : ∃ g : Glyph, g.octets = escapeOctet b ∧ g.piece = piece b := by
  rw [escapeOctet]
  by_cases h1 : b = 0x22
  · subst h1; exact ⟨.escape 0x22 0x22 rfl, rfl, rfl⟩
  by_cases h2 : b = 0x5c
  · subst h2; exact ⟨.escape 0x5c 0x5c rfl, rfl, rfl⟩
  by_cases h3 : b = 0x08
  · subst h3; exact ⟨.escape 0x62 0x08 rfl, rfl, rfl⟩
  by_cases h4 : b = 0x0c
  · subst h4; exact ⟨.escape 0x66 0x0c rfl, rfl, rfl⟩
  by_cases h5 : b = 0x0a
  · subst h5; exact ⟨.escape 0x6e 0x0a rfl, rfl, rfl⟩
  by_cases h6 : b = 0x0d
  · subst h6; exact ⟨.escape 0x72 0x0d rfl, rfl, rfl⟩
  by_cases h7 : b = 0x09
  · subst h7; exact ⟨.escape 0x74 0x09 rfl, rfl, rfl⟩
  by_cases h8 : b < 0x20
  · obtain ⟨he, hu⟩ := unicodeEscape_eq b.toNat (UInt8.lt_iff_toNat_lt.1 h8)
    rw [UInt8.ofNat_toNat] at he
    refine ⟨.unit 0x30 0x30 _ _ b.toNat hu, ?_, ?_⟩
    · simp only [h1, h2, h3, h4, h5, h6, h7, h8, if_true, if_false, he]
      rfl
    · simp [Glyph.piece, piece, h3, h4, h5, h6, h7, h8]
  · refine ⟨.plain b ⟨UInt8.not_lt.1 h8, h1, h2⟩, ?_, ?_⟩
    · simp [Glyph.octets, h1, h2, h3, h4, h5, h6, h7, h8]
    · simp [Glyph.piece, piece, h8]

theorem spelled_printText (s : String) :
    Spelled (.text ((Bytes.ofText s).map piece)) (printText s) := by
  have hglyphs (b : Bytes) : ∃ gs : List Glyph,
      gs.flatMap Glyph.octets = b.flatMap escapeOctet ∧ gs.map Glyph.piece = b.map piece := by
    induction b with
    | nil => exact ⟨[], rfl, rfl⟩
    | cons c b ih =>
      obtain ⟨g, ho, hp⟩ := exists_glyph c
      obtain ⟨gs, hos, hps⟩ := ih
      exact ⟨g :: gs, by simp [ho, hos], by simp [hp, hps]⟩
  obtain ⟨gs, ho, hp⟩ := hglyphs (Bytes.ofText s)
  rw [printText, ← ho, ← hp]
  exact .text gs

def decimals (n : Nat) : List Nat := (Nat.toDigits 10 n).map fun c => c.toNat - '0'.toNat

theorem digitChar_toNat {d : Nat} (h : d < 10) : (Nat.digitChar d).toNat = 0x30 + d := by
  revert d
  decide

theorem printNatural_eq (n : Nat) :
    printNatural n = (Nat.toDigits 10 n).map fun c => UInt8.ofNat c.toNat := by
  have hd : (toString n).toList = Nat.toDigits 10 n := Nat.toList_repr
  rw [printNatural, Bytes.ofText_of_ascii, hd]
  intro c hc
  rw [hd] at hc
  have hdigit := Nat.isDigit_of_mem_toDigits (by decide) (by decide) hc
  simp only [Char.isDigit, Bool.and_eq_true, decide_eq_true_eq] at hdigit
  have hle : c.val.toNat ≤ 57 := UInt32.le_iff_toNat_le.1 hdigit.2
  exact Nat.lt_of_le_of_lt hle (by decide)

theorem decimals_of_lt {n : Nat} (h : n < 10) : decimals n = [n] := by
  rw [decimals, Nat.toDigits_of_lt_base h, List.map_singleton, digitChar_toNat h]
  simp

theorem decimals_of_le {n : Nat} (h : 10 ≤ n) : decimals n = decimals (n / 10) ++ [n % 10] := by
  have hm : n % 10 < 10 := Nat.mod_lt n (by decide)
  rw [decimals, Nat.toDigits_of_base_le (by decide) h, List.map_append, List.map_singleton,
    digitChar_toNat hm, decimals]
  simp

theorem printNatural_of_lt {n : Nat} (h : n < 10) : printNatural n = [UInt8.ofNat (0x30 + n)] := by
  rw [printNatural_eq, Nat.toDigits_of_lt_base h, List.map_singleton, digitChar_toNat h]

theorem printNatural_of_le {n : Nat} (h : 10 ≤ n) :
    printNatural n = printNatural (n / 10) ++ [UInt8.ofNat (0x30 + n % 10)] := by
  have hm : n % 10 < 10 := Nat.mod_lt n (by decide)
  rw [printNatural_eq, Nat.toDigits_of_base_le (by decide) h, List.map_append, List.map_singleton,
    digitChar_toNat hm, printNatural_eq]

theorem digitsValue_decimals (n : Nat) : Numeral.digitsValue (decimals n) = n := by
  have h := Nat.ofDigitChars_ten_toDigits (n := n)
  rw [Nat.ofDigitChars_eq_foldl] at h
  rw [Numeral.digitsValue, decimals, List.foldl_map]
  exact h

theorem exists_digits (n : Nat) : ∃ (lead : Fin 10) (more : List (Fin 10)),
    (lead.val = 0 → n = 0 ∧ more = []) ∧ printNatural n = (lead :: more).map digitOctet ∧
      decimals n = (lead :: more).map Fin.val := by
  induction n using Nat.strongRecOn with
  | _ n ih =>
    by_cases h : n < 10
    · refine ⟨⟨n, h⟩, [], fun h0 => ⟨h0, rfl⟩, ?_, ?_⟩
      · exact printNatural_of_lt h
      · exact decimals_of_lt h
    · have h10 : 10 ≤ n := Nat.le_of_not_lt h
      obtain ⟨lead, more, hlead, hprint, hdigits⟩ := ih (n / 10) (by omega)
      refine ⟨lead, more ++ [⟨n % 10, Nat.mod_lt n (by decide)⟩], fun h0 => ?_, ?_, ?_⟩
      · have hzero := (hlead h0).1
        omega
      · rw [printNatural_of_le h10, hprint, ← List.cons_append, List.map_append]
        rfl
      · rw [decimals_of_le h10, hdigits, ← List.cons_append, List.map_append]
        rfl

theorem spelled_printNatural (n : Nat) :
    Spelled (.number { whole := decimals n }) (printNatural n) := by
  obtain ⟨lead, more, hlead, hprint, hdigits⟩ := exists_digits n
  have h := Spelled.number ⟨false, lead, more, fun h0 => (hlead h0).2, [], none⟩
  simp only [Literal.octets, Literal.wholeOctets, Literal.fractionOctets, Literal.numeral, if_true,
    Bool.false_eq_true, if_false, List.nil_append, List.append_nil, Option.elim_none,
    Option.map_none, List.map_nil, ← hprint, ← hdigits] at h
  exact h

end LayerTransfer.Json
