import LayerTransfer.Url.Basic

namespace LayerTransfer.Url

open Encode Text.Cut

/-- A key or a value of a web form: a plus sign is a space, and `%XX` is an octet. -/
def unform (cs : List Char) : Bytes :=
  decode (cs.map fun c => if c = '+' then ' ' else c)

def readPair (cs : List Char) : Bytes × Bytes :=
  let p := cutOff '=' cs
  (unform p.1, unform (p.2.getD []))

def readPairs (cs : List Char) : List (Bytes × Bytes) :=
  ((pieces '&' cs).filter (!·.isEmpty)).map readPair

def pairs (u : Url) : List (Bytes × Bytes) :=
  readPairs (u.query.getD "").toList

theorem hexDigit_ne_plus : ∀ n < 16, hexDigit n ≠ '+' := by decide

theorem hexValue?_hexDigit : ∀ n < 16, hexValue? (hexDigit n) = some n := by decide

theorem unform_octet (b : UInt8) (cs : List Char) :
    unform (octet b ++ cs) = b :: unform cs := by
  have hb : b.toNat < 256 := b.toNat_lt
  have hhigh : b.toNat / 16 < 16 := by omega
  have hlow : b.toNat % 16 < 16 := by omega
  have hval : 16 * (b.toNat / 16) + b.toNat % 16 = b.toNat := by omega
  simp only [unform, octet, List.cons_append, List.nil_append, List.map_cons,
    if_neg (hexDigit_ne_plus _ hhigh), if_neg (hexDigit_ne_plus _ hlow)]
  rw [if_neg (by decide), decode]
  simp only [hexValue?_hexDigit _ hhigh, hexValue?_hexDigit _ hlow, hval, UInt8.ofNat_toNat]

theorem decode_cons {c : Char} (h : c ≠ '%') (cs : List Char) :
    decode (c :: cs) = String.utf8EncodeChar c ++ decode cs := by
  rw [decode]
  intro _ _ _ he
  exact absurd he h

theorem formOctet_cases : ∀ n < 256,
    formOctet (UInt8.ofNat n) = octet (UInt8.ofNat n) ∨
    (n = 0x20 ∧ formOctet (UInt8.ofNat n) = ['+']) ∨
    (String.utf8EncodeChar (Char.ofNat n) = [UInt8.ofNat n] ∧
      Char.ofNat n ≠ '+' ∧ Char.ofNat n ≠ '%' ∧ formOctet (UInt8.ofNat n) = [Char.ofNat n]) := by
  decide +kernel

theorem unform_formOctet (b : UInt8) (cs : List Char) :
    unform (formOctet b ++ cs) = b :: unform cs := by
  have hb := formOctet_cases b.toNat b.toNat_lt
  rw [UInt8.ofNat_toNat] at hb
  obtain h | ⟨hn, h⟩ | ⟨hc, hplus, hpercent, h⟩ := hb
  · rw [h, unform_octet]
  · have hspace : b = 0x20 := UInt8.toNat_inj.1 hn
    rw [h, hspace]
    simp only [unform, List.cons_append, List.nil_append, List.map_cons, if_true]
    rw [decode_cons (by decide)]
    rfl
  · rw [h]
    simp only [unform, List.cons_append, List.nil_append, List.map_cons, if_neg hplus]
    rw [decode_cons hpercent, hc]
    rfl

theorem unform_form (s : String) : unform (form s).toList = Bytes.ofText s := by
  rw [form, String.toList_ofList]
  induction Bytes.ofText s with
  | nil => rfl
  | cons b r ih => rw [List.flatMap_cons, unform_formOctet, ih]

theorem separator_not_mem_formOctet : ∀ n < 256,
    '&' ∉ formOctet (UInt8.ofNat n) ∧ '=' ∉ formOctet (UInt8.ofNat n) := by
  decide +kernel

theorem separator_not_mem_form (s : String) : '&' ∉ (form s).toList ∧ '=' ∉ (form s).toList := by
  have h (b : UInt8) : '&' ∉ formOctet b ∧ '=' ∉ formOctet b := by
    have hb := separator_not_mem_formOctet b.toNat b.toNat_lt
    rwa [UInt8.ofNat_toNat] at hb
  simp only [form, String.toList_ofList, List.mem_flatMap, not_exists, not_and]
  exact ⟨fun b _ => (h b).1, fun b _ => (h b).2⟩

theorem readPairs_form (key value : String) :
    readPairs ((form key).toList ++ '=' :: (form value).toList) =
      [(Bytes.ofText key, Bytes.ofText value)] := by
  obtain ⟨hkey, hkey'⟩ := separator_not_mem_form key
  obtain ⟨hvalue, -⟩ := separator_not_mem_form value
  have hnone : '&' ∉ (form key).toList ++ '=' :: (form value).toList := by
    simp [hkey, hvalue]
  rw [readPairs, pieces_of_not_mem hnone]
  simp [readPair, cutOff, atFirst_append _ hkey', unform_form]

theorem readPairs_append (a b : List Char) :
    readPairs (a ++ '&' :: b) = readPairs a ++ readPairs b := by
  rw [readPairs, pieces_append_cons, List.filter_append, List.map_append]
  rfl

theorem pairs_addPair (u : Url) (key value : String) :
    (u.addPair key value).pairs = u.pairs ++ [(Bytes.ofText key, Bytes.ofText value)] := by
  have hp := readPairs_form key value
  have hnil : readPairs [] = [] := rfl
  unfold pairs addPair
  cases u.query with
  | none => simp [hp, hnil]
  | some q =>
    by_cases hq : q = ""
    · simp [hq, hp, hnil]
    · simp [hq, readPairs_append, hp]

end LayerTransfer.Url
