import LayerTransfer.Descriptor
import LayerTransfer.Proofs.Json.Members

namespace LayerTransfer.Descriptor

open Json

def written (d : Descriptor) : Written :=
  .object [("mediaType", .string d.mediaType.text), ("size", .natural d.size.toNat),
    ("digest", .string d.digest.text)]

theorem reads_mediaTypeField (p : Members) (m : MediaType) :
    Reads (mediaTypeField.read p) (Value.ofText m.text).tokens { p with mediaType := some m } := by
  intro r
  simp only [mediaTypeField, readMediaType, reads_text m.text r, Except.map]

theorem reads_sizeField (p : Members) (n : UInt64) :
    Reads (sizeField.read p) (Value.ofNatural n.toNat).tokens { p with size := some n } := by
  intro r
  have hn : n.toNat < UInt64.size := n.toNat_lt
  simp only [sizeField, readSize, reads_natural "u64" hn hn r, Except.map, UInt64.ofNat_toNat]

theorem reads_digestField (p : Members) (d : Digest) :
    Reads (digestField.read p) (Value.ofText d.text).tokens { p with digest := some d } := by
  intro r
  simp only [digestField, reads_digest d r, Except.map]

theorem reads_written (d : Descriptor) : Reads read (written d).value.tokens d := by
  have hm : Step shape.fields {} _ _ :=
    .known (f := mediaTypeField) (Written.isNamed_member "mediaType" (.string d.mediaType.text)) rfl rfl
      (reads_mediaTypeField {} d.mediaType)
  have hs : Step shape.fields { mediaType := some d.mediaType } _ _ :=
    .known (f := sizeField) (Written.isNamed_member "size" (.natural d.size.toNat)) rfl rfl
      (reads_sizeField _ d.size)
  have hd : Step shape.fields { mediaType := some d.mediaType, size := some d.size } _ _ :=
    .known (f := digestField) (Written.isNamed_member "digest" (.string d.digest.text)) rfl rfl
      (reads_digestField _ d.digest)
  have hms : Gathers shape.fields shape.start _ _ := .cons hm (.cons hs (.cons hd (.nil _)))
  exact reads_object hms rfl

theorem parseIndex_printIndex (ds : List Descriptor) : parseIndex (printIndex ds) = .ok ds := by
  have htext : (Written.list (ds.map written)).text = printIndex ds :=
    congrArg printList List.map_map
  have hreads : Reads (readList read) (Written.list (ds.map written)).value.tokens ds := by
    refine reads_items ?_
    rw [List.map_map, List.forall₂_map_right_iff, List.forall₂_same]
    exact fun d _ => reads_written d
  have hdocument := readDocument_of_reads (Written.list (ds.map written)).isText hreads
  rw [parseIndex, ← htext, hdocument]
  rfl

end LayerTransfer.Descriptor
