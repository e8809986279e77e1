import LayerTransfer.Proofs.Name.Reading
import LayerTransfer.Settings

namespace LayerTransfer.Settings

open Name Name.Grammar Text.Blank

variable {s : Settings} {o : Options} {path : List (List Char)}

theorem defaultRegistry_ne_nil (h : s.validate = .ok ()) : s.defaultRegistry.toList ≠ [] := by
  intro hn
  have hblank : trim [] = [] := rfl
  rw [validate, hn, if_pos hblank] at h
  cases h

theorem registry_of_parse_error {host : String} {r : Rejection} (hne : host.toList ≠ [])
    (h : Registry.parse host o = .error r) : r = ⟨host, .registry⟩ := by
  rw [Registry.parse, Registry.read, if_neg hne] at h
  split at h
  · cases h
  · cases h
    rw [String.ofList_toList]

theorem isProper_bare (hne : path ≠ []) (hc : ∀ c ∈ path, Component c) {reg : Registry}
    (hr : Registry.parse o.defaultRegistry o = .ok reg) : (⟨none, path⟩ : Place).IsProper o := by
  refine ⟨⟨reg, ?_⟩, hne, hc⟩
  rw [Place.hostText, Option.getD_none, String.ofList_toList]
  exact hr

theorem trim_bare (hne : path ≠ []) (hc : ∀ c ∈ path, Component c) :
    trim (⟨none, path⟩ : Place).text = (⟨none, path⟩ : Place).text := by
  -- what the text is made of does not depend on the default registry
  have hp : (⟨none, path⟩ : Place).IsProper {} := isProper_bare hne hc rfl
  exact trim_of_no_blank fun c hc => not_isBlank_of_isVisible (Place.isVisible_of_mem_text hp c hc)

theorem read_bare_of_refused {f : Fault} (hne : path ≠ []) (hc : ∀ c ∈ path, Component c)
    (hclear : (⟨none, path⟩ : Place).IsClear)
    (hr : Registry.read o.defaultRegistry.toList o = .error f) :
    Reference.read (⟨none, path⟩ : Place).text o = .error .registry := by
  have hp : (⟨none, path⟩ : Place).IsProper {} := isProper_bare hne hc rfl
  have htrim := trim_bare hne hc
  have hnone : ∀ t ∈ (none : Option (List Char)), Tag t := by simp
  have hsplit := Place.splitTag_text hp hnone
  rw [tagText, List.append_nil] at hsplit
  have hrepo : Repository.read (⟨none, path⟩ : Place).text o = .error .registry := by
    rw [Repository.read, htrim]
    simp only [Place.text_ne_nil hp, if_false, Place.split_text_of_no_host hp hclear rfl, hr]
  have htag : isTag defaultTag.toList = true := by decide
  rw [Reference.read, if_neg (Place.at_not_mem_text hp)]
  simp only [Tagged.read, htrim, hsplit, hrepo, Option.getD_none, dif_pos htag]
  rfl

theorem read_bare {reg : Registry} (hne : path ≠ []) (hc : ∀ c ∈ path, Component c)
    (hclear : (⟨none, path⟩ : Place).IsClear)
    (hr : Registry.parse o.defaultRegistry o = .ok reg) :
    ∃ r, Reference.read (⟨none, path⟩ : Place).text o = .ok r ∧
      Written.Means { place := { path } } o r := by
  have hproper : (⟨⟨none, path⟩, none, none⟩ : Written).IsProper o :=
    ⟨isProper_bare hne hc hr, by simp⟩
  have hnil : ∀ c ∈ ([] : List Char), isBlank c = true := by simp
  obtain ⟨r, hread, hmeans⟩ := Written.read_text hproper hclear hnil hnil
  refine ⟨r, ?_, hmeans⟩
  simpa [Written.text, tagText, digestText] using hread

/-- Under settings that can be used, a bare path is read exactly if the default registry is a host:
then as the tag `latest` of that path there, and otherwise it is refused for its registry. -/
theorem bare_path_follows_default (hs : s.validate = .ok ()) (hne : path ≠ [])
    (hc : ∀ c ∈ path, Component c) (hclear : (⟨none, path⟩ : Place).IsClear) :
    (∀ reg, Registry.parse s.defaultRegistry s.nameOptions = .ok reg →
      ∃ r, Reference.parse (String.ofList (List.intercalate ['/'] path)) s.nameOptions = .ok r ∧
        Written.Means { place := { path } } s.nameOptions r) ∧
    (∀ e, Registry.parse s.defaultRegistry s.nameOptions = .error e →
      e = ⟨s.defaultRegistry, .registry⟩ ∧
      Reference.parse (String.ofList (List.intercalate ['/'] path)) s.nameOptions =
        .error ⟨String.ofList (List.intercalate ['/'] path), .registry⟩) := by
  have htext : (⟨none, path⟩ : Place).text = List.intercalate ['/'] path := rfl
  constructor
  · intro reg hr
    obtain ⟨r, hread, hmeans⟩ := read_bare (o := s.nameOptions) hne hc hclear hr
    refine ⟨r, ?_, hmeans⟩
    rw [Reference.parse_eq_ok, String.toList_ofList, ← htext]
    exact hread
  · intro e hr
    refine ⟨registry_of_parse_error (defaultRegistry_ne_nil hs) hr, ?_⟩
    cases hreg : Registry.read s.defaultRegistry.toList s.nameOptions with
    | ok reg =>
      rw [Registry.parse, hreg] at hr
      cases hr
    | error f =>
      rw [Reference.parse_eq, String.toList_ofList, ← htext,
        read_bare_of_refused hne hc hclear hreg, trim_bare hne hc]
      rfl

def mirrored : Settings := { defaultRegistry := "localhost:5000" }

/-- Settings that name a default registry with a blank in it. -/
def misnamed : Settings := { defaultRegistry := "bad host" }

theorem teamApp_follows_default :
    mirrored.validate = .ok () ∧ misnamed.validate = .ok () ∧
    (⟨none, ["team".toList, "app".toList]⟩ : Place).IsClear ∧
    (∃ r, Reference.parse "team/app" mirrored.nameOptions = .ok r ∧
      Written.Means { place := { path := ["team".toList, "app".toList] } } mirrored.nameOptions r) ∧
    Reference.parse "team/app" misnamed.nameOptions = .error ⟨"team/app", .registry⟩ := by
  have hc : ∀ c ∈ ["team".toList, "app".toList], Component c := by
    intro c hc
    apply isComponent_iff.1
    revert c
    decide
  have hclear : (⟨none, ["team".toList, "app".toList]⟩ : Place).IsClear := .inr (by decide)
  have hv : mirrored.validate = .ok () := by rfl
  have hv' : misnamed.validate = .ok () := by rfl
  obtain ⟨hread, -⟩ := bare_path_follows_default hv (by decide) hc hclear
  obtain ⟨-, hrefused⟩ := bare_path_follows_default hv' (by decide) hc hclear
  exact ⟨hv, hv', hclear, hread _ rfl, (hrefused _ rfl).2⟩

/-- A default registry that is no host is not noticed before it is used. -/
theorem misnamed_default_refuses_app :
    misnamed.validate = .ok () ∧ Component "app".toList ∧
    (⟨none, ["app".toList]⟩ : Place).IsClear ∧
    Reference.parse "app" misnamed.nameOptions = .error ⟨"app", .registry⟩ :=
  ⟨by rfl, isComponent_iff.1 (by decide), .inl rfl, by rfl⟩

end LayerTransfer.Settings
