import LayerTransfer.Proofs.Digest.Checks
import LayerTransfer.Proofs.Json.Read

namespace LayerTransfer.Digest

/-- Whether `s` is `sha256:` with 64 digits or `sha512:` with 128. -/
def IsText (s : String) : Prop :=
  (∃ hex, s.toList = "sha256:".toList ++ hex ∧ hex.length = 64 ∧ ∀ c ∈ hex, c ∈ digits) ∨
    ∃ hex, s.toList = "sha512:".toList ++ hex ∧ hex.length = 128 ∧ ∀ c ∈ hex, c ∈ digits

theorem isText_iff {s : String} : IsText s ↔ ∃ (a : Algorithm) (hex : List Char),
    s.toList = a.name.toList ++ ':' :: hex ∧ hex.length = a.width ∧ ∀ c ∈ hex, c ∈ digits := by
  constructor
  · rintro (⟨hex, h⟩ | ⟨hex, h⟩)
    · exact ⟨.sha256, hex, h⟩
    · exact ⟨.sha512, hex, h⟩
  · rintro ⟨_ | _, hex, h⟩
    · exact .inl ⟨hex, h⟩
    · exact .inr ⟨hex, h⟩

theorem accepts_iff_digits {a : Algorithm} {cs : List Char} :
    a.accepts cs = true ↔ cs.length = a.width ∧ ∀ c ∈ cs, c ∈ digits := by
  simp only [accepts_iff, isHexDigit_iff]

theorem isText_text (d : Digest) : IsText d.text :=
  isText_iff.2 ⟨d.algorithm, d.hex.toList, toList_text d, accepts_iff_digits.1 d.hex_valid⟩

theorem exists_of_isText {s : String} (h : IsText s) : ∃ d : Digest, d.text = s := by
  obtain ⟨a, hex, hs, hv⟩ := isText_iff.1 h
  have ha : a.accepts (String.ofList hex).toList = true := by
    rw [String.toList_ofList]
    exact accepts_iff_digits.2 hv
  refine ⟨⟨a, String.ofList hex, ha⟩, String.toList_inj.1 ?_⟩
  rw [toList_text, hs]
  exact congrArg (a.name.toList ++ ':' :: ·) String.toList_ofList

theorem exists_parse_iff {s : String} : (∃ d, parse s = .ok d) ↔ IsText s := by
  constructor
  · rintro ⟨d, h⟩
    rw [← text_of_parse h]
    exact isText_text d
  · intro h
    obtain ⟨d, rfl⟩ := exists_of_isText h
    exact ⟨d, parse_text d⟩

theorem text_injective {d e : Digest} (h : d.text = e.text) : d = e := by
  have hd := parse_text d
  rw [h, parse_text e] at hd
  exact (Except.ok.inj hd).symm

theorem short_prefix (d : Digest) : d.short.toList <+: d.text.toList := by
  have hs : d.short.toList = d.algorithm.name.toList ++ ':' :: d.hex.toList.take 12 := by
    simp [short]
  rw [toList_text, hs, List.prefix_append_right_inj, List.prefix_cons_inj]
  exact List.take_prefix 12 _

theorem readDocument_printText (d : Digest) :
    Json.readDocument Json.readDigest (Json.printText d.text) = .ok d :=
  Json.readDocument_of_reads (Json.Value.isText_printText d.text) (Json.reads_digest d)

theorem compare_congr {s t s' t' : String} (hlt : s < t ↔ s' < t') (heq : s = t ↔ s' = t') :
    compare s t = compare s' t' := by
  change compareOfLessAndEq s t = compareOfLessAndEq s' t'
  simp only [compareOfLessAndEq, hlt, heq]

theorem compare_append_left (p s t : String) : compare (p ++ s) (p ++ t) = compare s t := by
  refine compare_congr ?_ (by simp)
  rw [String.lt_iff, String.lt_iff, String.toList_append, String.toList_append]
  induction p.toList with
  | nil => rfl
  | cons c p ih => rw [List.cons_append, List.cons_append, List.cons_lt_cons_self, ih]

theorem compare_text_of_algorithms {d e : Digest} (hd : d.algorithm = .sha256)
    (he : e.algorithm = .sha512) : compare d.text e.text = .lt := by
  have hlt : d.text < e.text := by
    rw [String.lt_iff, toList_text, toList_text, hd, he]
    simp [Algorithm.name, List.cons_lt_cons_iff]
  change compareOfLessAndEq d.text e.text = .lt
  rw [compareOfLessAndEq, if_pos hlt]

theorem compare_text (d e : Digest) : compare d.text e.text = compare d e := by
  have hord : compare d e =
      (compare d.algorithm.name e.algorithm.name).then (compare d.hex e.hex) := rfl
  cases hd : d.algorithm with
  | sha256 =>
    cases he : e.algorithm with
    | sha256 =>
      rw [hord, text, text, hd, he, compare_append_left]
      rfl
    | sha512 =>
      rw [hord, compare_text_of_algorithms hd he, hd, he]
      rfl
  | sha512 =>
    cases he : e.algorithm with
    | sha256 =>
      have hswap : compare d.text e.text = (compare e.text d.text).swap := Std.OrientedCmp.eq_swap
      rw [hord, hswap, compare_text_of_algorithms he hd, hd, he]
      rfl
    | sha512 =>
      rw [hord, text, text, hd, he, compare_append_left]
      rfl

theorem text_inj {d e : Digest} : d.text = e.text ↔ d = e :=
  ⟨text_injective, congrArg text⟩

theorem compare_eq_iff {d e : Digest} : compare d e = .eq ↔ d = e := by
  rw [← compare_text, Std.LawfulEqOrd.compare_eq_iff_eq, text_inj]

theorem readDigest_of_not_isText {s : String} (h : ¬IsText s) :
    ∃ f, check s = .error f ∧ readDigest s = .error (.digest s f) := by
  cases hp : parse s with
  | ok d => exact absurd (exists_parse_iff.1 ⟨d, hp⟩) h
  | error f => exact ⟨f, by rw [check_eq, hp]; rfl, by rw [readDigest, hp]; rfl⟩

theorem exists_readDigest_iff {s : String} : (∃ d, readDigest s = .ok d) ↔ IsText s := by
  rw [← exists_parse_iff]
  constructor
  · rintro ⟨d, h⟩
    exact ⟨d, Outcome.ok_of_mapError h⟩
  · rintro ⟨d, h⟩
    exact ⟨d, by rw [readDigest, h]; rfl⟩

/-- A text is read as a digest exactly if it has the written form of one. The digest is then printed
as this text, its JSON text is read as the digest again, and its short form is the front of the
text. Two digests are in the order of their texts, and are the same if the texts are. The error of
any other text gives the whole text and the first check that it fails. -/
theorem digest_is_its_text :
    (∀ s, (∃ d, readDigest s = .ok d) ↔ IsText s) ∧
    (∀ s d, readDigest s = .ok d → d.text = s ∧
      Json.readDocument Json.readDigest (Json.printText d.text) = .ok d ∧
      d.short.toList <+: s.toList) ∧
    (∀ s t d e, readDigest s = .ok d → readDigest t = .ok e →
      compare d e = compare s t ∧ (compare d e = .eq ↔ s = t) ∧ (d = e ↔ s = t)) ∧
    ∀ s, ¬IsText s → ∃ f, check s = .error f ∧ readDigest s = .error (.digest s f) := by
  refine ⟨fun s => exists_readDigest_iff, fun s d h => ?_, fun s t d e hd he => ?_,
    fun s => readDigest_of_not_isText⟩
  · obtain rfl := text_of_parse (Outcome.ok_of_mapError h)
    exact ⟨rfl, readDocument_printText d, short_prefix d⟩
  · obtain rfl := text_of_parse (Outcome.ok_of_mapError hd)
    obtain rfl := text_of_parse (Outcome.ok_of_mapError he)
    exact ⟨(compare_text d e).symm, by rw [compare_eq_iff, text_inj], text_inj.symm⟩

def zeroDigest : Digest := ⟨.sha256, String.ofList (List.replicate 64 '0'), by decide +kernel⟩

def longZeroDigest : Digest := ⟨.sha512, String.ofList (List.replicate 128 '0'), by decide +kernel⟩

/-- A character that is a digit only outside of ASCII ends the text of another algorithm. -/
def fullwidthText : String := "sha512:" ++ String.ofList (List.replicate 125 'f') ++ "１"

theorem zeroDigest_is_its_text :
    readDigest zeroDigest.text = .ok zeroDigest ∧
      readDigest longZeroDigest.text = .ok longZeroDigest ∧
      Json.readDocument Json.readDigest (Json.printText zeroDigest.text) = .ok zeroDigest ∧
      zeroDigest.short.toList <+: zeroDigest.text.toList ∧
      compare zeroDigest longZeroDigest = compare zeroDigest.text longZeroDigest.text ∧
      (zeroDigest = longZeroDigest ↔ zeroDigest.text = longZeroDigest.text) ∧
      ¬IsText fullwidthText ∧
      readDigest fullwidthText = .error (.digest fullwidthText (.character 0xef 125)) := by
  obtain ⟨hiff, hback, horder, hother⟩ := digest_is_its_text
  have hz : readDigest zeroDigest.text = .ok zeroDigest := by decide +kernel
  have hl : readDigest longZeroDigest.text = .ok longZeroDigest := by decide +kernel
  have he : readDigest fullwidthText = .error (.digest fullwidthText (.character 0xef 125)) := by
    decide +kernel
  have hf : ¬IsText fullwidthText := by
    rw [← hiff, he]
    exact fun ⟨d, h⟩ => by cases h
  obtain ⟨f, -, hf'⟩ := hother fullwidthText hf
  rw [hf'] at he
  obtain ⟨-, hjson, hshort⟩ := hback _ _ hz
  obtain ⟨hcompare, -, hinj⟩ := horder _ _ _ _ hz hl
  exact ⟨hz, hl, hjson, hshort, hcompare, hinj, hf, hf'.trans he⟩

end LayerTransfer.Digest
