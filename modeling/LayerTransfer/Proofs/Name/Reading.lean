import LayerTransfer.Proofs.Name.Grammar

namespace LayerTransfer.Name

open Text.Cut Text.Blank

namespace Grammar

theorem Tag.isTagChar {cs : List Char} (h : Tag cs) {c : Char} (hc : c ∈ cs) :
    isTagChar c = true :=
  isTagChar_of_isTag (isTag_iff.2 h) hc

theorem Place.splitTag_text {p : Place} {o : Options} (h : p.IsProper o) {tag : Option (List Char)}
    (ht : ∀ t ∈ tag, Tag t) : splitTag (p.text ++ tagText tag) = (p.text, tag) := by
  cases tag with
  | some t =>
    have ht := ht t rfl
    exact splitTag_append _ (fun hm => absurd (ht.isTagChar hm) (by decide))
      fun hm => absurd (ht.isTagChar hm) (by decide)
  | none =>
    have hc := colon_not_mem_pathText h
    rw [tagText, List.append_nil, text]
    split
    next host _ => exact splitTag_of_slash host hc
    next => exact splitTag_of_not_mem hc

/-! ### Written references -/

/-- A reference as it is written: a place, and a tag and a digest, which may be left out. -/
structure Written where
  place : Place
  tag : Option (List Char) := none
  digest : Option Digest := none

def digestText : Option Digest → List Char
  | some d => '@' :: d.text.toList
  | none => []

namespace Written

variable {o : Options} {w : Written} {r : Reference}

def text (w : Written) : List Char := w.place.text ++ tagText w.tag ++ digestText w.digest

structure IsProper (w : Written) (o : Options) : Prop where
  place : w.place.IsProper o
  tag : ∀ t ∈ w.tag, Tag t

/-- What a written reference says: its digest, else its tag, else the tag `latest`. -/
structure Means (w : Written) (o : Options) (r : Reference) : Prop where
  place : w.place.Names o r.repository
  what :
    match w.digest with
    | some d => ∃ p, r = .pinned p ∧ p.digest = d
    | none => ∃ t, r = .tagged t ∧ t.tag = String.ofList (w.tag.getD "latest".toList)

theorem Means.eq_of_digest {tag' : Option (List Char)} {r' : Reference} (hd : w.digest ≠ none)
    (h : w.Means o r) (h' : ({ w with tag := tag' } : Written).Means o r') : r = r' := by
  obtain ⟨hplace, hwhat⟩ := h
  obtain ⟨hplace', hwhat'⟩ := h'
  cases hw : w.digest with
  | none => exact absurd hw hd
  | some d =>
    simp only [hw] at hwhat hwhat'
    obtain ⟨⟨repo, digest⟩, rfl, rfl⟩ := hwhat
    obtain ⟨⟨repo', digest'⟩, rfl, hd'⟩ := hwhat'
    have hrepo : repo = repo' := hplace.unique hplace'
    have hdigest : digest' = digest := hd'
    rw [hrepo, hdigest]

theorem isVisible_of_mem_text (h : w.IsProper o) : ∀ c ∈ w.text, isVisible c = true := by
  intro c hc
  simp only [text, List.mem_append] at hc
  obtain (hc | hc) | hc := hc
  · exact Place.isVisible_of_mem_text h.place c hc
  · cases ht : w.tag with
    | none => simp [ht, tagText] at hc
    | some t =>
      rw [ht, tagText, List.mem_cons] at hc
      obtain rfl | hc := hc
      · decide
      · exact isVisible_of_isTagChar ((h.tag t ht).isTagChar hc)
  · cases hd : w.digest with
    | none => simp [hd, digestText] at hc
    | some d =>
      rw [hd, digestText, List.mem_cons] at hc
      obtain rfl | hc := hc
      · decide
      · obtain rfl | hc := d.isAlphanum_of_mem hc
        · decide
        · exact isVisible_of_isAlphanum hc

end Written

/-! ### Reading -/

theorem at_not_mem_tagText {tag : Option (List Char)} (h : ∀ t ∈ tag, Tag t) :
    '@' ∉ tagText tag := by
  cases tag with
  | none => simp [tagText]
  | some t =>
    have hn : '@' ∉ t := fun hm => absurd ((h t rfl).isTagChar hm) (by decide)
    simp [tagText, hn]

namespace Written

variable {o : Options} {w : Written} {before after : List Char}

theorem at_mem_iff (h : w.IsProper o) (hb : ∀ c ∈ before, isBlank c = true)
    (ha : ∀ c ∈ after, isBlank c = true) :
    '@' ∈ before ++ w.text ++ after ↔ w.digest ≠ none := by
  have hbefore : '@' ∉ before := fun hm => absurd (hb '@' hm) (by decide)
  have hafter : '@' ∉ after := fun hm => absurd (ha '@' hm) (by decide)
  have hplace := Place.at_not_mem_text h.place
  have htag := at_not_mem_tagText h.tag
  cases hd : w.digest <;> simp [text, hd, digestText, hbefore, hafter, hplace, htag]

theorem trim_text (h : w.IsProper o) (hb : ∀ c ∈ before, isBlank c = true)
    (ha : ∀ c ∈ after, isBlank c = true) : trim (before ++ w.text ++ after) = w.text := by
  rw [trim_between hb ha]
  exact trim_of_no_blank fun c hc => not_isBlank_of_isVisible (isVisible_of_mem_text h c hc)

theorem read_text (h : w.IsProper o) (hc : w.place.IsClear) (hb : ∀ c ∈ before, isBlank c = true)
    (ha : ∀ c ∈ after, isBlank c = true) :
    ∃ r, Reference.read (before ++ w.text ++ after) o = .ok r ∧ w.Means o r := by
  obtain ⟨repo, hrepo, hnames⟩ := Place.read_text h.place hc
  have hat := at_mem_iff h hb ha
  have htrim := trim_text h hb ha
  have hsplit := Place.splitTag_text h.place h.tag
  cases hd : w.digest with
  | none =>
    have hn : ¬ '@' ∈ before ++ w.text ++ after := fun hm => hat.1 hm hd
    have hcut : splitTag (trim (before ++ w.text ++ after)) = (w.place.text, w.tag) := by
      rw [htrim, text, hd, digestText, List.append_nil, hsplit]
    have htag : isTag (w.tag.getD defaultTag.toList) = true := by
      cases ht : w.tag with
      | none => decide
      | some t => exact isTag_iff.2 (h.tag t ht)
    refine ⟨.tagged ⟨repo, String.ofList (w.tag.getD defaultTag.toList), ?_⟩, ?_, ⟨hnames, ?_⟩⟩
    · rw [String.toList_ofList]
      exact htag
    · rw [Reference.read, if_neg hn]
      simp only [Tagged.read, hcut, hrepo, dif_pos htag]
      rfl
    · simp only [hd]
      exact ⟨_, rfl, rfl⟩
  | some d =>
    have hm : '@' ∈ before ++ w.text ++ after := hat.2 (by simp [hd])
    have hcut : atLast '@' w.text = some (w.place.text ++ tagText w.tag, d.text.toList) := by
      rw [text, hd, digestText, atLast_append _ d.at_not_mem_text]
    refine ⟨.pinned ⟨repo, d⟩, ?_, ⟨hnames, ?_⟩⟩
    · rw [Reference.read, if_pos hm, Pinned.read, htrim, hcut]
      simp only [String.ofList_toList, Digest.parse_text, hsplit, hrepo]
      rfl
    · simp only [hd]
      exact ⟨_, rfl, rfl⟩

end Written

theorem tagged_of_read {cs : List Char} {o : Options} {t : Tagged}
    (h : Reference.read cs o = .ok (.tagged t)) : Tagged.read cs o = .ok t := by
  rw [Reference.read] at h
  split at h
  · obtain ⟨p, -, hp⟩ := Outcome.ok_of_map h
    cases hp
  · obtain ⟨t', ht, hr⟩ := Outcome.ok_of_map h
    cases hr
    exact ht

theorem latest_of_colons_before {front back : List Char} {o : Options} {t : Tagged}
    (hback : ':' ∉ back) (h : Tagged.read (front ++ '/' :: back) o = .ok t) :
    t.tag = "latest" := by
  obtain ⟨before, after, -, ha, he⟩ := exists_blanks_trim (front ++ '/' :: back)
  have hslash : '/' ∉ after := fun hm => absurd (ha '/' hm) (by decide)
  obtain ⟨-, htag, -⟩ := Tagged.parts_of_read h
  rw [htag, splitTag_of_colons_before he hback hslash]
  rfl

/-- Every written reference is read as what it says: the tag or the digest, in the repository that
its host and path name. A tag beside a digest changes nothing, and no colon before a slash starts a
tag. -/
theorem written_reference_is_read :
    (∀ (o : Options) (w : Written) (before after : List Char), w.IsProper o → w.place.IsClear →
      (∀ c ∈ before ++ after, isBlank c = true) →
      ∃ r, Reference.parse (String.ofList (before ++ w.text ++ after)) o = .ok r ∧ w.Means o r ∧
        (w.digest ≠ none →
          Reference.parse (String.ofList { w with tag := none }.text) o = .ok r)) ∧
    (∀ (o : Options) (front back : List Char) (t : Tagged), ':' ∉ back →
      Reference.parse (String.ofList (front ++ '/' :: back)) o = .ok (.tagged t) →
      t.tag = "latest") := by
  constructor
  · intro o w before after h hc hblank
    obtain ⟨hb, ha⟩ := List.forall_mem_append.1 hblank
    obtain ⟨r, hr, hmeans⟩ := Written.read_text h hc hb ha
    refine ⟨r, ?_, hmeans, fun hd => ?_⟩
    · rw [Reference.parse_eq_ok, String.toList_ofList]
      exact hr
    · have hbare : ({ w with tag := none } : Written).IsProper o := ⟨h.place, by simp⟩
      have hnil : ∀ c ∈ ([] : List Char), isBlank c = true := by simp
      obtain ⟨r', hr', hmeans'⟩ := Written.read_text hbare hc hnil hnil
      rw [Written.Means.eq_of_digest hd hmeans hmeans', Reference.parse_eq_ok, String.toList_ofList]
      simpa using hr'
  · intro o front back t hback h
    rw [Reference.parse_eq_ok, String.toList_ofList] at h
    exact latest_of_colons_before hback (tagged_of_read h)

def onesDigest : Digest := ⟨.sha256, String.ofList (List.replicate 64 '1'), by decide +kernel⟩

def localApp : Written where
  place := { host := some "localhost:5000".toList, path := ["team".toList, "my.app".toList] }
  tag := some "v1.2".toList
  digest := some onesDigest

theorem localApp_is_read :
    localApp.IsProper {} ∧ localApp.place.IsClear ∧
    (∃ r, Reference.parse (String.ofList (" ".toList ++ localApp.text ++ "\n".toList)) {} = .ok r ∧
      localApp.Means {} r ∧
      Reference.parse (String.ofList { localApp with tag := none }.text) {} = .ok r) ∧
    (∃ t, Reference.parse (String.ofList ("localhost:5000".toList ++ '/' :: "app".toList)) {} =
        .ok (.tagged t) ∧ t.tag = "latest") := by
  have hproper : localApp.IsProper {} := by
    refine ⟨⟨⟨_, rfl⟩, by simp [localApp], fun c hc => isComponent_iff.1 ?_⟩, fun t ht => ?_⟩
    · revert c
      decide
    · cases ht
      exact isTag_iff.1 (by decide)
  have hclear : localApp.place.IsClear := .inr (.inl (by decide))
  have hblank : ∀ c ∈ " ".toList ++ "\n".toList, isBlank c = true := List.all_eq_true.1 (by decide)
  obtain ⟨r, hr, hmeans, hbare⟩ :=
    written_reference_is_read.1 {} localApp " ".toList "\n".toList hproper hclear hblank
  refine ⟨hproper, hclear, ⟨r, hr, hmeans, hbare (by decide)⟩, ⟨_, rfl, ?_⟩⟩
  exact written_reference_is_read.2 {} "localhost:5000".toList "app".toList _ (by decide) rfl

/-! ### Nothing else is read -/

theorem Place.of_front {cs front rest : List Char} {o : Options} {r : Repository}
    (h : Repository.read front o = .ok r) (ht : trim cs = front ++ rest) :
    ∃ (p : Place) (blanks : List Char), p.IsProper o ∧ p.IsClear ∧ p.Names o r ∧
      (∀ c ∈ blanks, isBlank c = true) ∧ trim cs = p.text ++ blanks ++ rest := by
  obtain ⟨p, hproper, hclear, htext, hnames⟩ := of_read h
  obtain ⟨blanks, hb, hfront⟩ := exists_blanks_of_front ht
  refine ⟨p, blanks, hproper, hclear, hnames, hb, ?_⟩
  rw [ht, ← htext, ← hfront]

namespace Written

variable {o : Options} {r : Reference} {cs : List Char}

/-- A text that says `w`, but for blanks behind its place. A tag beside a digest is only known to
hold no separators. -/
structure Spells (w : Written) (o : Options) (blanks cs : List Char) : Prop where
  place : w.place.IsProper o
  clear : w.place.IsClear
  tag : w.digest = none → ∀ t ∈ w.tag, Tag t
  ignored : ∀ t ∈ w.tag, ':' ∉ t ∧ '/' ∉ t
  blank : ∀ c ∈ blanks, isBlank c = true
  text_eq : cs = w.place.text ++ blanks ++ tagText w.tag ++ digestText w.digest

theorem of_tagged {t : Tagged} (h : Tagged.read cs o = .ok t) :
    ∃ (w : Written) (blanks : List Char), w.Spells o blanks (trim cs) ∧ w.Means o (.tagged t) := by
  obtain ⟨hrepo, htag, hvalid⟩ := Tagged.parts_of_read h
  cases hcut : splitTag (trim cs) with
  | mk front tag =>
    rw [hcut] at htag hvalid hrepo
    obtain ⟨htext, hsep⟩ := eq_of_splitTag hcut
    obtain ⟨p, blanks, hproper, hclear, hnames, hb, he⟩ := Place.of_front hrepo htext
    refine ⟨⟨p, tag, none⟩, blanks, ⟨hproper, hclear, fun _ t ht => ?_, hsep, hb, ?_⟩, hnames, ?_⟩
    · cases ht
      exact isTag_iff.1 hvalid
    · simpa [digestText] using he
    · exact ⟨t, rfl, htag⟩

theorem of_pinned {p : Pinned} (h : Pinned.read cs o = .ok p) :
    ∃ (w : Written) (blanks : List Char), w.Spells o blanks (trim cs) ∧ w.Means o (.pinned p) := by
  obtain ⟨name, htext, hrepo⟩ := Pinned.parts_of_read h
  cases hcut : splitTag name with
  | mk front tag =>
    rw [hcut] at hrepo
    obtain ⟨hname, hsep⟩ := eq_of_splitTag hcut
    rw [hname, List.append_assoc] at htext
    obtain ⟨q, blanks, hproper, hclear, hnames, hb, he⟩ := Place.of_front hrepo htext
    refine ⟨⟨q, tag, some p.digest⟩, blanks, ⟨hproper, hclear, by simp, hsep, hb, ?_⟩, hnames, ?_⟩
    · simpa [digestText] using he
    · exact ⟨p, rfl, rfl⟩

theorem of_read (h : Reference.read cs o = .ok r) :
    ∃ (w : Written) (blanks : List Char), w.Spells o blanks (trim cs) ∧ w.Means o r := by
  unfold Reference.read at h
  split at h
  · obtain ⟨p, hp, rfl⟩ := Outcome.ok_of_map h
    exact of_pinned hp
  · obtain ⟨t, ht, rfl⟩ := Outcome.ok_of_map h
    exact of_tagged ht

variable {w : Written} {blanks : List Char}

theorem Spells.isProper (h : w.Spells o blanks cs) (hi : w.tag = none ∨ w.digest = none) :
    w.IsProper o := by
  refine ⟨h.place, fun t ht => ?_⟩
  obtain hn | hn := hi
  · rw [hn] at ht
    cases ht
  · exact h.tag hn t ht

theorem Spells.count_at_le (h : w.Spells o blanks cs) (hi : w.tag = none ∨ w.digest = none) :
    cs.count '@' ≤ 1 := by
  have hplace := List.count_eq_zero.2 (Place.at_not_mem_text h.place)
  have hblanks : blanks.count '@' = 0 :=
    List.count_eq_zero.2 fun hm => absurd (h.blank '@' hm) (by decide)
  have htag := List.count_eq_zero.2 (at_not_mem_tagText (h.isProper hi).tag)
  have hdigest : (digestText w.digest).count '@' ≤ 1 := by
    cases w.digest with
    | none => exact Nat.zero_le 1
    | some d => simp [digestText, List.count_eq_zero.2 d.at_not_mem_text]
  rw [h.text_eq]
  simp only [List.count_append, hplace, hblanks, htag]
  omega

theorem Spells.not_isBlank (h : w.Spells o [] cs) (hi : w.tag = none ∨ w.digest = none) :
    ∀ c ∈ cs, isBlank c = false := by
  have htext : cs = w.text := by
    rw [h.text_eq, List.append_nil, text]
  rw [htext]
  exact fun c hc => not_isBlank_of_isVisible (isVisible_of_mem_text (h.isProper hi) c hc)

end Written

/-- Whatever is read is a written reference without the blanks around it, up to blanks between its
place and its tag or digest, and means what is read. A tag beside a digest is any text without
separators. Without such a tag there is no second `@`, and no blank but those. -/
theorem read_is_written (s : String) (o : Options) (r : Reference)
    (h : Reference.parse s o = .ok r) :
    ∃ (w : Written) (blanks : List Char), w.Spells o blanks (trim s.toList) ∧ w.Means o r ∧
      (w.tag = none ∨ w.digest = none →
        (trim s.toList).count '@' ≤ 1 ∧
        (blanks = [] → ∀ c ∈ trim s.toList, isBlank c = false)) := by
  obtain ⟨w, blanks, hspells, hmeans⟩ := Written.of_read (Reference.parse_eq_ok.1 h)
  refine ⟨w, blanks, hspells, hmeans, fun hi => ⟨hspells.count_at_le hi, ?_⟩⟩
  rintro rfl
  exact hspells.not_isBlank hi

def looseTag : String := "app:a@b c@" ++ onesDigest.text

theorem looseTag_is_written :
    ∃ r, Reference.parse looseTag {} = .ok r ∧
      ∃ (w : Written) (blanks : List Char), w.Spells {} blanks (trim looseTag.toList) ∧
        w.Means {} r ∧
        (w.tag = none ∨ w.digest = none →
          (trim looseTag.toList).count '@' ≤ 1 ∧
          (blanks = [] → ∀ c ∈ trim looseTag.toList, isBlank c = false)) :=
  ⟨_, rfl, read_is_written looseTag {} _ rfl⟩

/-- A text beside a digest is not looked at, and blanks before a tag are passed over, so that texts
are read which hold blanks and a second `@`. -/
theorem loose_texts_are_read :
    (∃ r, Reference.parse looseTag {} = .ok r) ∧
    (¬ ∃ w : Written, w.IsProper {} ∧ trim looseTag.toList = w.text) ∧
    (trim looseTag.toList).count '@' = 2 ∧
    (∃ r, Reference.parse "app :v1" {} = .ok r) ∧
    (¬ ∃ w : Written, w.IsProper {} ∧ trim "app :v1".toList = w.text) := by
  have hblank {cs : List Char} (hc : ' ' ∈ cs) : ¬ ∃ w : Written, w.IsProper {} ∧ cs = w.text := by
    rintro ⟨w, hw, rfl⟩
    exact absurd (Written.isVisible_of_mem_text hw ' ' hc) (by decide)
  exact ⟨⟨_, rfl⟩, hblank (by decide +kernel), by decide +kernel, ⟨_, rfl⟩,
    hblank (by decide +kernel)⟩

end Grammar

end LayerTransfer.Name
