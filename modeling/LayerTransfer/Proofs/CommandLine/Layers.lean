import LayerTransfer.CommandLine.Layers
import LayerTransfer.Proofs.Name.RoundTrip
import LayerTransfer.Proofs.Outcome
import LayerTransfer.Settings

namespace LayerTransfer.CommandLine

open Name

variable {o : Options} {image : Reference}

theorem resolveLayers_singleton (o : Options) (image : Reference) (layer : String) :
    resolveLayers o image [layer] = (resolveLayer o image layer).map fun p => [p] := by
  rw [resolveLayers, List.mapM_cons, List.mapM_nil]
  cases resolveLayer o image layer with
  | error e => rfl
  | ok p => rfl

theorem resolveLayers_singleton_eq_ok {layer : String} {p : Pinned} :
    resolveLayers o image [layer] = .ok [p] ↔ resolveLayer o image layer = .ok p := by
  rw [resolveLayers_singleton]
  cases resolveLayer o image layer <;> simp [Except.map]

theorem resolveLayers_singleton_eq_error {layer : String} {e : TransferError} :
    resolveLayers o image [layer] = .error e ↔ resolveLayer o image layer = .error e := by
  rw [resolveLayers_singleton]
  cases resolveLayer o image layer <;> simp [Except.map]

theorem resolveLayer_digest {text : String} {d : Digest} (h : Digest.parse text = .ok d) :
    resolveLayer o image text = .ok ⟨image.repository, d⟩ := by
  have hat : '@' ∉ text.toList := by
    rw [← Digest.text_of_parse h]
    exact d.at_not_mem_text
  rw [resolveLayer, if_neg hat, readDigest, h]
  rfl

theorem parse_qualified {r : Repository} (hx : r.registry.IsExplicit)
    (hi : r.registry.insecure = o.insecure) (d : Digest) :
    Pinned.parse (r.text ++ "@" ++ d.text) o = .ok ⟨r, d⟩ := by
  have hr := (Repository.read_text_iff r o).2 ⟨hx, hi⟩
  exact Pinned.parse_eq_ok.2 ((Pinned.read_text ⟨r, d⟩ o).2 hr)

theorem resolveLayer_qualified {text : String} {d : Digest} {r : Repository}
    (hx : r.registry.IsExplicit) (hi : r.registry.insecure = o.insecure)
    (h : Digest.parse text = .ok d) :
    resolveLayer o image (r.text ++ "@" ++ text) = .ok ⟨r, d⟩ := by
  rw [← Digest.text_of_parse h]
  have hat : '@' ∈ (r.text ++ "@" ++ d.text).toList := by simp
  rw [resolveLayer, if_pos hat, parse_qualified hx hi]
  rfl

/-- The layers of an image, under the settings with which the image was read, are resolved one by
one: to one blob for each text in the same order, or to the error of the first text that has one. A
text with an `@` is read as a reference by digest, whatever the image. A digest stands for the blob
in the repository of the image, and so does the digest behind the text of that repository, provided
the host of the repository is explicit. -/
theorem layers_resolve_one_by_one (s : Settings) (text : String) (image : Reference)
    (h : Reference.parse text s.nameOptions = .ok image) :
    (∀ layers ps, resolveLayers s.nameOptions image layers = .ok ps ↔
      List.Forall₂ (fun layer p => resolveLayers s.nameOptions image [layer] = .ok [p]) layers ps) ∧
    (∀ layers e, resolveLayers s.nameOptions image layers = .error e ↔
      ∃ front layer back, layers = front ++ layer :: back ∧
        (∀ l ∈ front, ∃ p, resolveLayers s.nameOptions image [l] = .ok [p]) ∧
        resolveLayers s.nameOptions image [layer] = .error e) ∧
    (∀ layer, '@' ∈ layer.toList → ∀ image', resolveLayers s.nameOptions image' [layer] =
      (readName (Pinned.parse layer s.nameOptions)).map fun p => [p]) ∧
    (∀ layer d, Digest.parse layer = .ok d → image.repository.registry.IsExplicit →
      resolveLayers s.nameOptions image [layer] = .ok [⟨image.repository, d⟩] ∧
      resolveLayers s.nameOptions image [image.repository.text ++ "@" ++ layer] =
        .ok [⟨image.repository, d⟩]) := by
  simp only [resolveLayers_singleton_eq_ok, resolveLayers_singleton_eq_error]
  refine ⟨fun layers ps => Outcome.mapM_eq_ok, fun layers e => Outcome.mapM_eq_error, ?_, ?_⟩
  · intro layer hat image'
    rw [resolveLayers_singleton, resolveLayer, if_pos hat]
  · intro layer d hd hx
    have hi := Reference.insecure_of_read (Reference.parse_eq_ok.1 h)
    exact ⟨resolveLayer_digest hd, resolveLayer_qualified hx hi hd⟩

def teamImage : Reference :=
  .tagged
    { repository :=
        { registry := ⟨"hub.team.io", false, by decide, by decide⟩
          name := "kit"
          name_valid := by decide
          name_qualified := by decide }
      tag := "v7"
      tag_valid := by decide }

def sevensDigest : Digest := ⟨.sha256, String.ofList (List.replicate 64 '7'), by decide +kernel⟩

/-- Both spellings of a layer are one blob, and of two texts that mean nothing the first one is
told. -/
theorem teamImage_layers_resolve :
    Reference.parse "hub.team.io/kit:v7" ({} : Settings).nameOptions = .ok teamImage ∧
    Digest.parse sevensDigest.text = .ok sevensDigest ∧ teamImage.repository.registry.IsExplicit ∧
    resolveLayers ({} : Settings).nameOptions teamImage
        [sevensDigest.text, "hub.team.io/kit" ++ "@" ++ sevensDigest.text] =
      .ok [⟨teamImage.repository, sevensDigest⟩, ⟨teamImage.repository, sevensDigest⟩] ∧
    resolveLayers ({} : Settings).nameOptions teamImage [sevensDigest.text, "bad", "kit@bad"] =
      .error (.digest "bad" .separator) ∧
    '@' ∈ "kit@bad".toList ∧
    resolveLayers ({} : Settings).nameOptions teamImage ["kit@bad"] =
      .error (.reference ⟨"kit@bad", .digest⟩) := by
  have himage : Reference.parse "hub.team.io/kit:v7" ({} : Settings).nameOptions = .ok teamImage := by
    rfl
  have hd := sevensDigest.parse_text
  have hx : teamImage.repository.registry.IsExplicit := by decide
  obtain ⟨hall, hfirst, hat, hboth⟩ := layers_resolve_one_by_one {} _ teamImage himage
  obtain ⟨hbare, hqualified⟩ := hboth _ _ hd hx
  refine ⟨himage, hd, hx, (hall _ _).2 (.cons hbare (.cons hqualified .nil)), ?_, by decide, ?_⟩
  · exact (hfirst _ _).2 ⟨[sevensDigest.text], "bad", ["kit@bad"], rfl, by simp [hbare], by rfl⟩
  · exact (hat "kit@bad" (by decide) teamImage).trans (by rfl)

end LayerTransfer.CommandLine
