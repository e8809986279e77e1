import LayerTransfer.Http.Endpoint
import LayerTransfer.Proofs.Url.Plain
import LayerTransfer.Proofs.Url.Server

namespace LayerTransfer.Http

open Name Text.Cut

theorem apiHost_plain (r : Registry) :
    r.apiHost.toList ≠ [] ∧ (∀ c ∈ r.apiHost.toList, Url.isPlain c = true) ∧
      '/' ∉ r.apiHost.toList := by
  unfold Registry.apiHost
  split
  · exact ⟨by decide, List.all_eq_true.1 (by decide), by decide⟩
  · refine ⟨r.host_ne_nil, ?_, ?_⟩
    · exact fun c hc => Url.isPlain_of_isHostChar (r.isHostChar_of_mem hc)
    · exact fun hm => absurd (r.isHostChar_of_mem hm) (by decide)

theorem isWeb_scheme (r : Registry) : Url.IsWeb r.scheme := by
  unfold Registry.scheme
  split
  · exact .inl rfl
  · exact .inr rfl

theorem isPlainPath_name (r : Repository) : Url.IsPlainPath r.name.toList where
  plain := by
    intro c hc
    obtain rfl | hc := r.isPathChar_of_mem hc
    · decide
    · exact Url.isPlain_of_isPathChar hc
  head := by
    intro s hs hd
    have hcomp := List.all_eq_true.1 r.name_valid s hs
    simp only [isComponent, Bool.and_eq_true, hd] at hcomp
    exact absurd hcomp.1.1.1 (by decide)

theorem isPlainPath_of_segment {s : List Char} (hp : ∀ c ∈ s, Url.isPlain c = true)
    (hs : '/' ∉ s) (hd : s.head? ≠ some '.') : Url.IsPlainPath s where
  plain := hp
  head := by
    rw [pieces_of_not_mem hs]
    simpa using hd

theorem isPlainPath_digest (d : Digest) : Url.IsPlainPath d.text.toList := by
  have hd : d.text.toList.head? ≠ some '.' := by
    rw [d.toList_text]
    cases d.algorithm <;> simp [Algorithm.name]
  refine isPlainPath_of_segment (fun c hc => ?_) (fun hm => ?_) hd
  · obtain rfl | hc := d.isAlphanum_of_mem hc
    · decide
    · exact Url.isPlain_of_isAlphanum hc
  · exact (d.isAlphanum_of_mem hm).elim (by decide) (by decide)

theorem isPlainPath_tag (t : Tagged) : Url.IsPlainPath t.tag.toList := by
  refine isPlainPath_of_segment (fun c hc => ?_) (fun hm => ?_) ?_
  · exact Url.isPlain_of_isTagChar (t.isTagChar_of_mem hc)
  · exact absurd (t.isTagChar_of_mem hm) (by decide)
  · intro hd
    have hv := t.tag_valid
    simp only [isTag, hd, Bool.and_eq_true] at hv
    exact absurd hv.1.1 (by decide)

theorem isPlainPath_uploadsPath : Url.IsPlainPath uploadsPath.toList where
  plain := List.all_eq_true.1 (by decide)
  head := by decide

theorem isPlainPath_blobPath (d : Digest) : Url.IsPlainPath (blobPath d).toList := by
  have hb : Url.IsPlainPath "blobs".toList := ⟨List.all_eq_true.1 (by decide), by decide⟩
  have h := hb.append (isPlainPath_digest d)
  simpa [blobPath] using h

theorem isPlainPath_manifestPath (r : Reference) : Url.IsPlainPath (manifestPath r).toList := by
  have hm : Url.IsPlainPath "manifests".toList := ⟨List.all_eq_true.1 (by decide), by decide⟩
  have hi : Url.IsPlainPath r.identifier.toList := by
    cases r with
    | tagged t => exact isPlainPath_tag t
    | pinned p => exact isPlainPath_digest p.digest
  have h := hm.append hi
  simpa [manifestPath] using h

def servedPath (r : Repository) (path : String) : String :=
  "/v2/" ++ r.name ++ "/" ++ path

variable {r r' : Repository} {path path' : String} {u v : Url}

theorem parse_endpointText (h : Url.IsPlainPath path.toList) :
    Url.parse (endpointText r path) =
      (Url.parseAuthority r.registry.scheme r.registry.apiHost.toList).map fun u =>
        { u with path := servedPath r path, query := none, fragment := none } := by
  have hv : Url.IsPlainPath "v2".toList := ⟨List.all_eq_true.1 (by decide), by decide⟩
  have hpath := hv.append ((isPlainPath_name r).append h)
  obtain ⟨hne, hhost, hslash⟩ := apiHost_plain r.registry
  have hp := Url.parse_of_plain (isWeb_scheme r.registry) hne hhost hslash hpath
  have ht : endpointText r path = String.ofList (r.registry.scheme.toList ++ ':' :: '/' :: '/' ::
      (r.registry.apiHost.toList ++ '/' ::
        ("v2".toList ++ '/' :: (r.name.toList ++ '/' :: path.toList)))) := by
    rw [← String.toList_inj]
    simp [endpointText, Registry.baseUrl]
  have hs : servedPath r path =
      String.ofList ('/' :: ("v2".toList ++ '/' :: (r.name.toList ++ '/' :: path.toList))) := by
    rw [← String.toList_inj]
    simp [servedPath]
  rw [ht, hp, hs]

/-- If one endpoint can be addressed, all of them can, and they differ in their paths only. -/
theorem endpoint_of_endpoint (hp : Url.IsPlainPath path.toList)
    (hp' : Url.IsPlainPath path'.toList) (h : endpoint r path = .ok u) :
    endpoint r path' = .ok { u with path := servedPath r path' } := by
  have hu := Outcome.ok_of_mapError h
  rw [parse_endpointText hp] at hu
  obtain ⟨v, ha, rfl⟩ := Outcome.ok_of_map hu
  rw [endpoint, parse_endpointText hp']
  rw [ha]
  rfl

theorem parts_of_endpoint (hp : Url.IsPlainPath path.toList) (h : endpoint r path = .ok u) :
    u.path = servedPath r path ∧ u.query = none := by
  have hu := Outcome.ok_of_mapError h
  rw [parse_endpointText hp] at hu
  obtain ⟨v, -, rfl⟩ := Outcome.ok_of_map hu
  exact ⟨rfl, rfl⟩

theorem parseAuthority_of_endpoint (hp : Url.IsPlainPath path.toList)
    (h : endpoint r path = .ok u) :
    ∃ v, Url.parseAuthority r.registry.scheme r.registry.apiHost.toList = .ok v ∧
      v.server = u.server := by
  have hu := Outcome.ok_of_mapError h
  rw [parse_endpointText hp] at hu
  obtain ⟨v, hv, rfl⟩ := Outcome.ok_of_map hu
  exact ⟨v, hv, rfl⟩

theorem server_of_endpoint (hr : r.registry = r'.registry) (hp : Url.IsPlainPath path.toList)
    (hp' : Url.IsPlainPath path'.toList) (hu : endpoint r path = .ok u)
    (hv : endpoint r' path' = .ok v) : u.server = v.server := by
  obtain ⟨a, ha, hau⟩ := parseAuthority_of_endpoint hp hu
  obtain ⟨b, hb, hbv⟩ := parseAuthority_of_endpoint hp' hv
  rw [hr, hb] at ha
  cases ha
  exact hau.symm.trans hbv

/-- The address of a manifest has no query, so that no upload is addressed like one. -/
theorem query_of_manifest_endpoint {r : Reference}
    (h : endpoint r.repository (manifestPath r) = .ok u) : u.query = none :=
  (parts_of_endpoint (isPlainPath_manifestPath r) h).2

end LayerTransfer.Http
