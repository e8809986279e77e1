import LayerTransfer.Proofs.Name.Characters
import LayerTransfer.Proofs.Name.Refusal

namespace LayerTransfer.Name

open Text.Cut Text.Blank

/-- The host is recognised as one wherever it stands. -/
def Registry.IsExplicit (r : Registry) : Prop :=
  '.' ∈ r.host.toList ∨ ':' ∈ r.host.toList ∨ r.host = "localhost"

instance (r : Registry) : Decidable r.IsExplicit :=
  inferInstanceAs (Decidable (_ ∨ _ ∨ _))

theorem looksLikeHost_iff {cs : List Char} :
    looksLikeHost cs = true ↔ '.' ∈ cs ∨ ':' ∈ cs ∨ cs = "localhost".toList := by
  simp [looksLikeHost, or_assoc]

theorem Registry.looksLikeHost_host (r : Registry) :
    looksLikeHost r.host.toList = true ↔ r.IsExplicit := by
  rw [IsExplicit, ← String.toList_inj]
  exact looksLikeHost_iff

theorem Registry.slash_not_mem_host (r : Registry) : '/' ∉ r.host.toList := by
  intro h
  exact absurd (r.isHostChar_of_mem h) (by decide)

theorem Registry.read_host (r : Registry) (o : Options) :
    Registry.read r.host.toList o = .ok { r with insecure := o.insecure } := by
  rw [Registry.read, if_neg r.host_ne_nil, dif_pos r.host_valid]
  simp [r.host_canonical]

theorem Registry.insecure_of_read {cs : List Char} {o : Options} {r : Registry}
    (h : Registry.read cs o = .ok r) : r.insecure = o.insecure := by
  unfold Registry.read at h
  split at h
  · cases h
  · split at h <;> cases h
    rfl

/-! ### Repositories -/

namespace Repository

theorem toList_text (r : Repository) :
    r.text.toList = r.registry.host.toList ++ '/' :: r.name.toList := by
  simp [text, Registry.text]

theorem isVisible_of_mem_text (r : Repository) {c : Char} (h : c ∈ r.text.toList) :
    isVisible c = true := by
  rw [toList_text, List.mem_append, List.mem_cons] at h
  obtain h | rfl | h := h
  · exact isVisible_of_isHostChar (r.registry.isHostChar_of_mem h)
  · decide
  · obtain rfl | h := r.isPathChar_of_mem h
    · decide
    · exact isVisible_of_isPathChar h

theorem trim_text (r : Repository) : trim r.text.toList = r.text.toList :=
  trim_of_no_blank fun _ h => not_isBlank_of_isVisible (r.isVisible_of_mem_text h)

theorem split_text (r : Repository) (o : Options) :
    split r.text.toList o =
      if r.registry.IsExplicit then (r.registry.host.toList, r.name.toList)
      else (o.defaultRegistry.toList, r.text.toList) := by
  rw [split, toList_text, atFirst_append _ r.registry.slash_not_mem_host]
  simp only [r.registry.looksLikeHost_host]

theorem registry_within (r : Registry) (path : List Char) (h : isPath path = true) :
    (within r path h).registry = r := by
  unfold within
  split <;> rfl

theorem name_within_eq (r : Registry) {path : List Char} (h : isPath path = true) :
    (within r path h).name =
      String.ofList
        ((if r.isDockerHub = true ∧ '/' ∉ path then "library/".toList else []) ++ path) := by
  by_cases hq : r.isDockerHub = true ∧ '/' ∉ path
  · rw [within, dif_pos hq, if_pos hq]
  · rw [within, dif_neg hq, if_neg hq, List.nil_append]

/-- `library/` is only put before a single word. -/
theorem name_within {r : Registry} {path : List Char} (h : isPath path = true)
    (hq : r.isDockerHub = true → '/' ∈ path) : (within r path h).name = String.ofList path := by
  have hn : ¬ (r.isDockerHub = true ∧ '/' ∉ path) := fun hc => hc.2 (hq hc.1)
  rw [name_within_eq, if_neg hn, List.nil_append]

theorem within_name (r : Repository) : within r.registry r.name.toList r.name_valid = r := by
  have hr := registry_within r.registry r.name.toList r.name_valid
  have hn := name_within r.name_valid r.name_qualified
  rw [String.ofList_toList] at hn
  cases hw : within r.registry r.name.toList r.name_valid
  cases r
  simp_all

theorem read_ok {cs : List Char} {o : Options} {r : Repository} (h : read cs o = .ok r) :
    Registry.read (split (trim cs) o).1 o = .ok r.registry ∧
      ∃ hp, r = within r.registry (split (trim cs) o).2 hp := by
  unfold read at h
  dsimp only at h
  split at h
  · cases h
  · split at h
    · cases h
    · next reg hreg =>
      split at h <;> cases h
      next hp => rw [registry_within]; exact ⟨hreg, hp, rfl⟩

theorem insecure_of_read {cs : List Char} {o : Options} {r : Repository} (h : read cs o = .ok r) :
    r.registry.insecure = o.insecure :=
  Registry.insecure_of_read (read_ok h).1

theorem read_text_of_isExplicit {r : Repository} (h : r.registry.IsExplicit) {o : Options}
    (ho : r.registry.insecure = o.insecure) : read r.text.toList o = .ok r := by
  have hne : r.text.toList ≠ [] := by simp [toList_text]
  have hreg : ({ r.registry with insecure := o.insecure } : Registry) = r.registry := by rw [← ho]
  rw [read, trim_text]
  simp only [hne, if_false, split_text, h, if_true, Registry.read_host, hreg]
  rw [dif_pos r.name_valid, within_name]

theorem isExplicit_of_read_text {r : Repository} {o : Options} (h : read r.text.toList o = .ok r) :
    r.registry.IsExplicit := by
  by_cases hx : r.registry.IsExplicit
  · exact hx
  · obtain ⟨-, hp, hr⟩ := read_ok h
    simp only [trim_text, split_text, if_neg hx] at hp hr
    have hn := (congrArg name hr).trans (name_within hp fun _ => by simp [toList_text])
    have hl := congrArg (fun s => s.toList.length) hn
    simp only [String.toList_ofList, toList_text, List.length_append, List.length_cons] at hl
    omega

theorem read_text_iff (r : Repository) (o : Options) :
    read r.text.toList o = .ok r ↔ r.registry.IsExplicit ∧ r.registry.insecure = o.insecure :=
  ⟨fun h => ⟨isExplicit_of_read_text h, insecure_of_read h⟩,
    fun h => read_text_of_isExplicit h.1 h.2⟩

end Repository

/-! ### Tags -/

theorem splitTag_append (name : List Char) {tag : List Char} (hc : ':' ∉ tag) (hs : '/' ∉ tag) :
    splitTag (name ++ ':' :: tag) = (name, some tag) := by
  rw [splitTag, atLast_append _ hc]
  simp [hs]

theorem splitTag_of_not_mem {cs : List Char} (h : ':' ∉ cs) : splitTag cs = (cs, none) := by
  rw [splitTag, atLast_eq_none_iff.2 h]

def tagText : Option (List Char) → List Char
  | some t => ':' :: t
  | none => []

theorem eq_of_splitTag {cs name : List Char} {tag : Option (List Char)}
    (h : splitTag cs = (name, tag)) :
    cs = name ++ tagText tag ∧ ∀ t ∈ tag, ':' ∉ t ∧ '/' ∉ t := by
  unfold splitTag at h
  split at h
  next a b hcut =>
    obtain ⟨he, hcolon⟩ := eq_of_atLast hcut
    split at h
    next => cases h; simp [tagText]
    next hslash => cases h; simp [tagText, he, hcolon, hslash]
  next => cases h; simp [tagText]

/-- A tag stands behind the last slash, also in a text whose ends have been cut off. -/
theorem splitTag_of_colons_before {before front back after cs : List Char}
    (he : front ++ '/' :: back = before ++ cs ++ after) (hc : ':' ∉ back) (ha : '/' ∉ after) :
    splitTag cs = (cs, none) := by
  cases hs : splitTag cs with
  | mk name tag =>
    obtain ⟨hcs, htag⟩ := eq_of_splitTag hs
    cases tag with
    | none => rw [hcs, tagText, List.append_nil]
    | some t =>
      have hslash : '/' ∉ t ++ after := by simp [(htag t rfl).2, ha]
      have he : front ++ '/' :: back = (before ++ name) ++ ':' :: (t ++ after) := by
        simp [he, hcs, tagText]
      -- the slash and the colon cannot both be the last of their kind
      obtain ⟨d, -, hd⟩ | ⟨d, -, hd⟩ := List.append_eq_append_iff.1 he
      · cases d with
        | nil => simp at hd
        | cons x d => simp [(List.cons.inj hd).2] at hc
      · cases d with
        | nil => simp at hd
        | cons x d => simp [(List.cons.inj hd).2] at hslash

theorem splitTag_of_slash (host : List Char) {name : List Char} (h : ':' ∉ name) :
    splitTag (host ++ '/' :: name) = (host ++ '/' :: name, none) := by
  have he : host ++ '/' :: name = [] ++ (host ++ '/' :: name) ++ [] := by simp
  exact splitTag_of_colons_before he h (by simp)

namespace Tagged

theorem toList_text (t : Tagged) :
    t.text.toList = t.repository.text.toList ++ ':' :: t.tag.toList := by
  simp [text]

theorem trim_text (t : Tagged) : trim t.text.toList = t.text.toList := by
  refine trim_of_no_blank fun c h => not_isBlank_of_isVisible ?_
  rw [toList_text, List.mem_append, List.mem_cons] at h
  obtain h | rfl | h := h
  · exact t.repository.isVisible_of_mem_text h
  · decide
  · exact isVisible_of_isTagChar (t.isTagChar_of_mem h)

theorem splitTag_text (t : Tagged) :
    splitTag t.text.toList = (t.repository.text.toList, some t.tag.toList) := by
  have hc : ':' ∉ t.tag.toList := fun h => absurd (t.isTagChar_of_mem h) (by decide)
  have hs : '/' ∉ t.tag.toList := fun h => absurd (t.isTagChar_of_mem h) (by decide)
  rw [toList_text, splitTag_append _ hc hs]

theorem parts_of_read {cs : List Char} {o : Options} {t : Tagged} (h : read cs o = .ok t) :
    Repository.read (splitTag (trim cs)).1 o = .ok t.repository ∧
      t.tag = String.ofList ((splitTag (trim cs)).2.getD defaultTag.toList) ∧
      isTag ((splitTag (trim cs)).2.getD defaultTag.toList) = true := by
  unfold read at h
  dsimp only at h
  split at h
  next ht =>
    obtain ⟨r, hr, rfl⟩ := Outcome.ok_of_map h
    exact ⟨hr, rfl, ht⟩
  next => cases h

theorem read_ok {cs : List Char} {o : Options} {t : Tagged} (h : read cs o = .ok t) :
    Repository.read (splitTag (trim cs)).1 o = .ok t.repository :=
  (parts_of_read h).1

theorem read_text (t : Tagged) (o : Options) :
    read t.text.toList o = .ok t ↔ Repository.read t.repository.text.toList o = .ok t.repository := by
  constructor
  · intro h
    have hr := read_ok h
    rwa [trim_text, splitTag_text] at hr
  · intro h
    simp only [read, trim_text, splitTag_text, h, Except.map, Option.getD_some]
    rw [dif_pos t.tag_valid]
    simp

end Tagged

/-! ### Digests -/

namespace Pinned

theorem toList_text (p : Pinned) :
    p.text.toList = p.repository.text.toList ++ '@' :: p.digest.text.toList := by
  simp [text]

theorem trim_text (p : Pinned) : trim p.text.toList = p.text.toList := by
  refine trim_of_no_blank fun c h => not_isBlank_of_isVisible ?_
  rw [toList_text, List.mem_append, List.mem_cons] at h
  obtain h | rfl | h := h
  · exact p.repository.isVisible_of_mem_text h
  · decide
  · obtain rfl | h := p.digest.isAlphanum_of_mem h
    · decide
    · exact isVisible_of_isAlphanum h

theorem atLast_text (p : Pinned) :
    atLast '@' p.text.toList = some (p.repository.text.toList, p.digest.text.toList) := by
  rw [toList_text, atLast_append _ p.digest.at_not_mem_text]

theorem splitTag_repository (p : Pinned) :
    (splitTag p.repository.text.toList).1 = p.repository.text.toList := by
  have hc : ':' ∉ p.repository.name.toList := by
    intro h
    exact (p.repository.isPathChar_of_mem h).elim (by decide) (by decide)
  rw [Repository.toList_text, splitTag_of_slash _ hc]

theorem parts_of_read {cs : List Char} {o : Options} {p : Pinned} (h : read cs o = .ok p) :
    ∃ name, trim cs = name ++ '@' :: p.digest.text.toList ∧
      Repository.read (splitTag name).1 o = .ok p.repository := by
  unfold read at h
  split at h
  · cases h
  next name digest hcut =>
    obtain ⟨he, -⟩ := eq_of_atLast hcut
    split at h
    · cases h
    next d hd =>
      obtain ⟨r, hr, rfl⟩ := Outcome.ok_of_map h
      refine ⟨name, ?_, hr⟩
      rw [he, Digest.text_of_parse hd, String.toList_ofList]

theorem read_ok {cs : List Char} {o : Options} {p : Pinned} (h : read cs o = .ok p) :
    ∃ name digest, atLast '@' (trim cs) = some (name, digest) ∧
      Repository.read (splitTag name).1 o = .ok p.repository := by
  obtain ⟨name, he, hr⟩ := parts_of_read h
  exact ⟨name, _, by rw [he, atLast_append _ p.digest.at_not_mem_text], hr⟩

theorem read_text (p : Pinned) (o : Options) :
    read p.text.toList o = .ok p ↔ Repository.read p.repository.text.toList o = .ok p.repository := by
  constructor
  · intro h
    obtain ⟨name, digest, hl, hr⟩ := read_ok h
    rw [trim_text, atLast_text, Option.some.injEq, Prod.mk.injEq] at hl
    rwa [← hl.1, splitTag_repository] at hr
  · intro h
    simp only [read, trim_text, atLast_text, String.ofList_toList, Digest.parse_text,
      splitTag_repository, h, Except.map]

end Pinned

/-! ### References of either kind -/

namespace Reference

theorem at_mem_text (r : Reference) : '@' ∈ r.text.toList ↔ ∃ p, r = .pinned p := by
  cases r with
  | pinned p => simp [text, Pinned.toList_text]
  | tagged t =>
    have hn : '@' ∉ t.text.toList := by
      rw [Tagged.toList_text, Repository.toList_text]
      simp only [List.mem_append, List.mem_cons, not_or]
      refine ⟨⟨fun h => ?_, by decide, fun h => ?_⟩, by decide, fun h => ?_⟩
      · exact absurd (t.repository.registry.isHostChar_of_mem h) (by decide)
      · exact (t.repository.isPathChar_of_mem h).elim (by decide) (by decide)
      · exact absurd (t.isTagChar_of_mem h) (by decide)
    simp [text, hn]

theorem read_text (r : Reference) (o : Options) :
    read r.text.toList o = .ok r ↔ Repository.read r.repository.text.toList o = .ok r.repository := by
  have hk := r.at_mem_text
  cases r with
  | pinned p =>
    have ha := hk.2 ⟨p, rfl⟩
    simp only [text] at ha
    rw [read, text, repository, if_pos ha, ← p.read_text o]
    cases Pinned.read p.text.toList o <;> simp [Except.map]
  | tagged t =>
    have ha : ¬ '@' ∈ t.text.toList := fun h => by simpa using hk.1 h
    rw [read, text, repository, if_neg ha, ← t.read_text o]
    cases Tagged.read t.text.toList o <;> simp [Except.map]

theorem insecure_of_read {cs : List Char} {o : Options} {r : Reference} (h : read cs o = .ok r) :
    r.repository.registry.insecure = o.insecure := by
  unfold read at h
  split at h
  · obtain ⟨p, hp, rfl⟩ := Outcome.ok_of_map h
    obtain ⟨_, _, -, hr⟩ := Pinned.read_ok hp
    exact Repository.insecure_of_read hr
  · obtain ⟨t, ht, rfl⟩ := Outcome.ok_of_map h
    exact Repository.insecure_of_read (Tagged.read_ok ht)

end Reference

/-! ### Reading back -/

/-- Whatever `parse` accepts reads back from its written form exactly when its host is explicit. It
then does so under all options with the same flag, whatever their default registry. -/
def ReadsBack {α : Type} (parse : String → Options → Except Rejection α) (text : α → String)
    (repository : α → Repository) : Prop :=
  ∀ s o a, parse s o = .ok a →
    (parse (text a) o = .ok a ↔ (repository a).registry.IsExplicit) ∧
    ((repository a).registry.IsExplicit →
      ∀ o' : Options, o'.insecure = o.insecure → parse (text a) o' = .ok a)

theorem readsBack_of_repository {α : Type} {parse : String → Options → Except Rejection α}
    {text : α → String} {repository : α → Repository}
    (hi : ∀ s o a, parse s o = .ok a → (repository a).registry.insecure = o.insecure)
    (ht : ∀ a o, parse (text a) o = .ok a ↔
      Repository.read (repository a).text.toList o = .ok (repository a)) :
    ReadsBack parse text repository := by
  intro s o a h
  have hf := hi s o a h
  simp only [ht, Repository.read_text_iff]
  exact ⟨and_iff_left hf, fun hx o' ho => ⟨hx, hf.trans ho.symm⟩⟩

/-- Repositories, tags, digests and references read back under the same condition on their host. -/
theorem names_read_back :
    ReadsBack Repository.parse Repository.text id ∧
    ReadsBack Tagged.parse Tagged.text Tagged.repository ∧
    ReadsBack Pinned.parse Pinned.text Pinned.repository ∧
    ReadsBack Reference.parse Reference.text Reference.repository := by
  refine ⟨readsBack_of_repository ?_ ?_, readsBack_of_repository ?_ ?_,
    readsBack_of_repository ?_ ?_, readsBack_of_repository ?_ ?_⟩
  · intro s o r h
    exact Repository.insecure_of_read (Repository.parse_eq_ok.1 h)
  · intro r o
    exact Repository.parse_eq_ok
  · intro s o t h
    exact Repository.insecure_of_read (Tagged.read_ok (Tagged.parse_eq_ok.1 h))
  · intro t o
    exact Tagged.parse_eq_ok.trans (t.read_text o)
  · intro s o p h
    obtain ⟨_, _, -, hr⟩ := Pinned.read_ok (Pinned.parse_eq_ok.1 h)
    exact Repository.insecure_of_read hr
  · intro p o
    exact Pinned.parse_eq_ok.trans (p.read_text o)
  · intro s o r h
    exact Reference.insecure_of_read (Reference.parse_eq_ok.1 h)
  · intro r o
    exact Reference.parse_eq_ok.trans (r.read_text o)

/-- What `app` is read as where the default registry is the word `hub`. -/
def hubApp : Reference :=
  .tagged
    { repository :=
        { registry := ⟨"hub", false, by decide, by decide⟩
          name := "app"
          name_valid := by decide
          name_qualified := by decide }
      tag := "latest"
      tag_valid := by decide }

def hubNginx : Reference :=
  .tagged
    { repository :=
        { registry := ⟨dockerHub, false, by decide, by decide⟩
          name := "library/nginx"
          name_valid := by decide
          name_qualified := by decide }
      tag := "latest"
      tag_valid := by decide }

/-- `index.docker.io/library/nginx:latest` means the same everywhere. `hub/app:latest` does not read
back even where `app` was read. -/
theorem nginx_and_app_read_back :
    Reference.parse "nginx" {} = .ok hubNginx ∧
    Reference.parse hubNginx.text ⟨"hub", false⟩ = .ok hubNginx ∧
    Reference.parse "app" ⟨"hub", false⟩ = .ok hubApp ∧
    Reference.parse hubApp.text ⟨"hub", false⟩ ≠ .ok hubApp := by
  have hn : Reference.parse "nginx" {} = .ok hubNginx := by rfl
  have ha : Reference.parse "app" ⟨"hub", false⟩ = .ok hubApp := by rfl
  obtain ⟨-, -, -, hr⟩ := names_read_back
  refine ⟨hn, (hr _ _ _ hn).2 (by decide) _ rfl, ha, ?_⟩
  rw [Ne, (hr _ _ _ ha).1]
  decide

end LayerTransfer.Name
