import LayerTransfer.Proofs.Archive.Label

namespace LayerTransfer.Archive

theorem blockSize_dvd_add_gap (n : Nat) : blockSize ∣ n + gap n := by
  unfold gap blockSize
  omega

def padded (content : Bytes) : Bytes :=
  content ++ padding content.length

@[simp] theorem length_padded (content : Bytes) :
    (padded content).length = content.length + gap content.length := by
  simp [padded, padding]

theorem atEnd_zeros (n : Nat) : atEnd (Bytes.zeros n) = true := by
  rw [atEnd, Bool.or_eq_true]
  right
  rw [List.all_eq_true]
  intro b hb
  have h0 : b = 0 := List.eq_of_mem_replicate (List.mem_of_mem_take hb)
  simp [h0]

theorem not_atEnd_header (h : Header) (rest : Bytes) : ¬atEnd (h.bytes ++ rest) = true := by
  have hf : h.kind.flag ≠ 0 := by cases h.kind <;> decide
  have hm : h.kind.flag ∈ h.bytes := by simp [Header.bytes, Header.after]
  have ht : (h.bytes ++ rest).take blockSize = h.bytes := List.take_left' (length_header h)
  intro he
  rw [atEnd, ht, Bool.or_eq_true, decide_eq_true_eq, List.length_append, length_header,
    List.all_eq_true] at he
  rcases he with he | he
  · omega
  · exact hf (by simpa using he _ hm)

theorem records?_zeros (n : Nat) : records? (Bytes.zeros n) = some ([], Bytes.zeros n) := by
  rw [records?, dif_pos (atEnd_zeros n)]

theorem records?_header (h : Header) (rest : Bytes) :
    records? (h.bytes ++ rest) =
      (records? (rest.drop (h.size.toNat + gap h.size.toNat))).map fun p =>
        (⟨h.label, rest.take h.size.toNat⟩ :: p.1, p.2) := by
  have ht : (h.bytes ++ rest).take blockSize = h.bytes := List.take_left' (length_header h)
  have hd : (h.bytes ++ rest).drop blockSize = rest := List.drop_left' (length_header h)
  rw [records?, dif_neg (not_atEnd_header h rest), ht, read?_bytes, Option.bind_some]
  rw [← List.drop_drop, hd]
  rfl

theorem records?_record (h : Header) (content rest : Bytes) (hc : content.length = h.size.toNat) :
    records? (h.bytes ++ padded content ++ rest) =
      (records? rest).map fun p => (⟨h.label, content⟩ :: p.1, p.2) := by
  have ht : (padded content ++ rest).take h.size.toNat = content := by
    rw [padded, List.append_assoc, ← hc, List.take_left]
  have hd : (padded content ++ rest).drop (h.size.toNat + gap h.size.toNat) = rest := by
    rw [← hc, ← length_padded, List.drop_left]
  rw [List.append_assoc, records?_header, ht, hd]

theorem records?_torn (h : Header) (content : Bytes) (n : Nat)
    (hc : content.length ≤ h.size.toNat) :
    ∃ k, records? (h.bytes ++ content ++ Bytes.zeros n) =
      some ([⟨h.label, (content ++ Bytes.zeros n).take h.size.toNat⟩], Bytes.zeros k) := by
  have hd : (content ++ Bytes.zeros n).drop (h.size.toNat + gap h.size.toNat) =
      Bytes.zeros (n - (h.size.toNat + gap h.size.toNat - content.length)) := by
    rw [List.drop_append, List.drop_eq_nil_of_le (by omega), List.nil_append]
    simp [Bytes.zeros]
  exact ⟨_, by rw [List.append_assoc, records?_header, hd, records?_zeros]; rfl⟩

end LayerTransfer.Archive
