import LayerTransfer.Proofs.Http.Private
import LayerTransfer.Proofs.Name.RoundTrip

namespace LayerTransfer.Http

open Name Text.Cut

inductive Target
  | uploads
  | blob (d : Digest)
  | manifest (r : Reference)

namespace Target

def path : Target → String
  | uploads => uploadsPath
  | blob d => blobPath d
  | manifest r => manifestPath r

theorem isPlainPath_path (t : Target) : Url.IsPlainPath t.path.toList := by
  cases t with
  | uploads => exact isPlainPath_uploadsPath
  | blob d => exact isPlainPath_blobPath d
  | manifest r => exact isPlainPath_manifestPath r

def segments : Target → Url.Segments
  | uploads => ["blobs".toList, "uploads".toList, []]
  | blob d => ["blobs".toList, d.text.toList]
  | manifest r => ["manifests".toList, r.identifier.toList]

theorem digest_ne_nil (d : Digest) : d.text.toList ≠ [] := by
  simp [d.toList_text]

theorem identifier_segment (r : Reference) :
    '/' ∉ r.identifier.toList ∧ r.identifier.toList ≠ [] := by
  cases r with
  | pinned p => exact ⟨p.digest.slash_not_mem_text, digest_ne_nil p.digest⟩
  | tagged t =>
    constructor
    · exact fun hm => absurd (t.isTagChar_of_mem hm) (by decide)
    · intro hn
      have hn : t.tag.toList = [] := hn
      have hv := t.tag_valid
      rw [hn] at hv
      exact absurd hv (by decide)

theorem pieces_path (t : Target) : pieces '/' t.path.toList = t.segments := by
  cases t with
  | uploads => decide
  | blob d =>
    have ht : (blobPath d).toList = "blobs".toList ++ '/' :: d.text.toList := by simp [blobPath]
    rw [path, ht, pieces_append _ (by decide), pieces_of_not_mem d.slash_not_mem_text]
    rfl
  | manifest r =>
    have ht : (manifestPath r).toList = "manifests".toList ++ '/' :: r.identifier.toList := by
      simp [manifestPath]
    rw [path, ht, pieces_append _ (by decide), pieces_of_not_mem (identifier_segment r).1]
    rfl

theorem length_segments (t : Target) :
    t.segments.length = if t.segments.getLast? = some [] then 3 else 2 := by
  cases t with
  | uploads => rfl
  | blob d =>
    have hn := digest_ne_nil d
    simp [segments, hn]
  | manifest r =>
    have hn := (identifier_segment r).2
    simp [segments, hn]

theorem getLast?_segments (t : Target) (front : Url.Segments) :
    (front ++ t.segments).getLast? = t.segments.getLast? := by
  cases t <;> simp [segments]

end Target

variable {r r' : Repository} {t t' : Target} {u u' : Url}

theorem pieces_servedPath (r : Repository) (t : Target) :
    pieces '/' (servedPath r t.path).toList = pieces '/' ("/v2/" ++ r.name).toList ++ t.segments := by
  have hp : (servedPath r t.path).toList = ("/v2/" ++ r.name).toList ++ '/' :: t.path.toList := by
    simp [servedPath]
  rw [hp, pieces_append_cons, Target.pieces_path]

/-- A path tells where the name of the repository ends in it. -/
theorem servedPath_injective (h : servedPath r t.path = servedPath r' t'.path) :
    r.name = r'.name ∧ t.path = t'.path := by
  have hp := congrArg (fun s => pieces '/' (String.toList s)) h
  simp only [pieces_servedPath] at hp
  have hlast := congrArg List.getLast? hp
  rw [Target.getLast?_segments, Target.getLast?_segments] at hlast
  have hlength : t.segments.length = t'.segments.length := by
    rw [Target.length_segments, Target.length_segments, hlast]
  obtain ⟨hfront, hback⟩ := List.append_inj' hp hlength
  constructor
  · have hname := congrArg (List.intercalate ['/']) hfront
    rw [intercalate_pieces, intercalate_pieces, String.toList_inj, String.append_right_inj] at hname
    exact hname
  · have hpath := congrArg (List.intercalate ['/']) hback
    rw [← Target.pieces_path, ← Target.pieces_path, intercalate_pieces, intercalate_pieces,
      String.toList_inj] at hpath
    exact hpath

theorem bare_of_endpoint {path : String} (hp : Url.IsPlainPath path.toList)
    (h : endpoint r path = .ok u) :
    u.fragment = none ∧ u.username = "" ∧ u.password = "" := by
  have hu := Outcome.ok_of_mapError h
  rw [parse_endpointText hp] at hu
  obtain ⟨v, hv, rfl⟩ := Outcome.ok_of_map hu
  have hat : '@' ∉ r.registry.apiHost.toList := by
    intro hm
    exact absurd ((apiHost_plain r.registry).2.1 '@' hm) (by decide)
  obtain ⟨huser, hpassword⟩ := Url.user_of_parseAuthority hat hv
  exact ⟨rfl, huser, hpassword⟩

theorem isWeb_of_endpoint {path : String} (hp : Url.IsPlainPath path.toList)
    (h : endpoint r path = .ok u) : Url.IsWeb u.scheme := by
  have hu := Outcome.ok_of_mapError h
  rw [parse_endpointText hp] at hu
  obtain ⟨v, hv, rfl⟩ := Outcome.ok_of_map hu
  have hs : v.scheme = r.registry.scheme := (Url.parts_of_parseAuthority hv).1
  show Url.IsWeb v.scheme
  rw [hs]
  exact isWeb_scheme r.registry

/-- The address of what is asked for has it in its path, as it is written, and has no query,
fragment or user. It is plain http only by option or on this machine. Two questions with one path
are the same. -/
theorem address_is_as_asked :
    (∀ (s : String) (o : Options) (r : Repository) (t : Target) (u : Url),
      Repository.parse s o = .ok r → endpoint r t.path = .ok u →
      u.path = "/v2/" ++ r.name ++ "/" ++ t.path ∧ u.query = none ∧ u.fragment = none ∧
      u.username = "" ∧ u.password = "" ∧
      (u.scheme = "https" ∨ u.scheme = "http" ∧
        (o.insecure = true ∨ u.host = some "localhost" ∨ u.host = some "127.0.0.1" ∨
          u.host = some "[::1]"))) ∧
    (∀ (r r' : Repository) (t t' : Target) (u u' : Url),
      endpoint r t.path = .ok u → endpoint r' t'.path = .ok u' → u.path = u'.path →
      r.name = r'.name ∧ t.path = t'.path) := by
  constructor
  · intro s o r t u hr hu
    have hp := t.isPlainPath_path
    obtain ⟨hpath, hquery⟩ := parts_of_endpoint hp hu
    obtain ⟨hfragment, huser, hpassword⟩ := bare_of_endpoint hp hu
    refine ⟨hpath, hquery, hfragment, huser, hpassword, ?_⟩
    obtain hs | hs := isWeb_of_endpoint hp hu
    · refine .inr ⟨hs, ?_⟩
      cases hi : o.insecure with
      | true => exact .inl rfl
      | false =>
        have hsecure : r.IsSecure :=
          (Repository.insecure_of_read (Repository.parse_eq_ok.1 hr)).trans hi
        have hprivate := isPrivate_of_endpoint hsecure hp hu
        simpa [Url.isPrivate, hs, or_assoc] using hprivate
    · exact .inl hs
  · intro r r' t t' u u' hu hu' he
    rw [(parts_of_endpoint t.isPlainPath_path hu).1,
      (parts_of_endpoint t'.isPlainPath_path hu').1] at he
    exact servedPath_injective he

def portApp : Repository :=
  ⟨⟨"[::1]:8080", false, by decide, by decide⟩, "blobs/manifests", by decide, by decide⟩

def quayApp : Repository :=
  ⟨⟨"quay.io", false, by decide, by decide⟩, "blobs/manifests", by decide, by decide⟩

def dottedTag : Reference := .tagged ⟨portApp, "V1..2", by decide⟩

def portAppManifest : Url :=
  { scheme := "http", host := some "[::1]", port := some 8080
    path := "/v2/blobs/manifests/manifests/V1..2" }

def quayAppManifest : Url :=
  { scheme := "https", host := some "quay.io"
    path := "/v2/blobs/manifests/manifests/V1..2" }

theorem portApp_is_as_asked :
    Repository.parse "[::1]:8080/blobs/manifests" {} = .ok portApp ∧
    endpoint portApp (Target.manifest dottedTag).path = .ok portAppManifest ∧
    (portAppManifest.path = "/v2/" ++ portApp.name ++ "/" ++ (Target.manifest dottedTag).path ∧
      portAppManifest.query = none ∧ portAppManifest.fragment = none ∧
      portAppManifest.username = "" ∧ portAppManifest.password = "" ∧
      (portAppManifest.scheme = "https" ∨ portAppManifest.scheme = "http" ∧
        (({} : Options).insecure = true ∨ portAppManifest.host = some "localhost" ∨
          portAppManifest.host = some "127.0.0.1" ∨ portAppManifest.host = some "[::1]"))) ∧
    endpoint quayApp (Target.manifest dottedTag).path = .ok quayAppManifest ∧
    portApp.name = quayApp.name := by
  have hr : Repository.parse "[::1]:8080/blobs/manifests" {} = .ok portApp := by rfl
  have hu : endpoint portApp (Target.manifest dottedTag).path = .ok portAppManifest := by
    decide +kernel
  have hv : endpoint quayApp (Target.manifest dottedTag).path = .ok quayAppManifest := by
    decide +kernel
  have h := address_is_as_asked.1 _ _ _ (.manifest dottedTag) _ hr hu
  obtain ⟨hname, -⟩ :=
    address_is_as_asked.2 _ _ (.manifest dottedTag) (.manifest dottedTag) _ _ hu hv rfl
  exact ⟨hr, hu, h, hv, hname⟩

end LayerTransfer.Http
