import LayerTransfer.Proofs.Http.Endpoint
import LayerTransfer.Proofs.Name.RoundTrip
import LayerTransfer.Push.Writer

namespace LayerTransfer

open Name

/-- The host as a URL spells it, with its port unless the scheme implies it. -/
def Url.hostText (u : Url) : String :=
  u.host.getD "" ++
    match u.port with
    | some n => ":" ++ toString n
    | none => ""

/-- Whether the host of a registry is spelled as in the URL `u` of what it serves. -/
def Name.Registry.IsSpelledIn (r : Registry) (u : Url) : Prop :=
  r.apiHost = u.hostText

instance (r : Registry) (u : Url) : Decidable (r.IsSpelledIn u) :=
  inferInstanceAs (Decidable (r.apiHost = u.hostText))

namespace Push

theorem registry_ext {r r' : Registry} (hh : r.host = r'.host) (hi : r.insecure = r'.insecure) :
    r = r' := by
  cases r
  cases r'
  cases hh
  cases hi
  rfl

/-- Docker Hub is the only registry that is served from another host than its own, and that host is
not the host of any registry. -/
theorem host_of_apiHost {r r' : Registry} (h : r.apiHost = r'.apiHost) : r.host = r'.host := by
  have hub (s : Registry) : s.host ≠ "registry-1.docker.io" := by
    intro hs
    have hc := s.host_canonical
    rw [hs] at hc
    exact absurd hc (by decide)
  unfold Registry.apiHost Registry.isDockerHub at h
  by_cases hr : r.host = dockerHub <;> by_cases hr' : r'.host = dockerHub <;>
    simp only [hr, hr', beq_iff_eq, beq_self_eq_true, if_true, if_false] at h ⊢
  · exact absurd h.symm (hub r')
  · exact absurd h (hub r)
  · exact h

theorem host_of_server {r r' : Registry} {u v : Url} (hu : r.IsSpelledIn u) (hv : r'.IsSpelledIn v)
    (h : u.server = v.server) : r.host = r'.host := by
  have htext : u.hostText = v.hostText := by
    simp only [Url.server, Prod.mk.injEq] at h
    rw [Url.hostText, Url.hostText, h.2.1, h.2.2]
  exact host_of_apiHost (hu.trans (htext.trans hv.symm))

theorem mountSource_wrap {l : Layer} (hl : l.origin = none) (origin : Reference)
    (dest : Repository) :
    mountSource (l.wrap origin) dest =
      if origin.repository.registry.host = dest.registry.host ∧ origin.repository.name ≠ dest.name
      then some origin.repository else none := by
  simp only [mountSource, Layer.wrap, hl, Option.getD_none]
  by_cases hh : origin.repository.registry.host = dest.registry.host <;>
    by_cases hn : origin.repository.name = dest.name <;> simp [hh, hn]

variable {o : Options} {s t : String} {origin : Reference} {dest : Repository} {l : Layer}
  {path path' : String} {u v : Url}

/-- A layer is mounted from its origin exactly if what the origin serves is at the server of the
destination, the two repositories differ, and the host is spelled alike in both. Hosts that are
spelled as in their URLs are spelled alike wherever the server is one. -/
theorem mounts_within_registry (hs : Reference.parse s o = .ok origin)
    (ht : Repository.parse t o = .ok dest) (hl : l.origin = none)
    (hp : Url.IsPlainPath path.toList) (hp' : Url.IsPlainPath path'.toList)
    (hu : Http.endpoint origin.repository path = .ok u) (hv : Http.endpoint dest path' = .ok v) :
    (mountSource (l.wrap origin) dest = some origin.repository ↔
      u.server = v.server ∧ origin.repository.name ≠ dest.name ∧
        origin.repository.registry.host = dest.registry.host) ∧
    (mountSource (l.wrap origin) dest ≠ some origin.repository →
      mountSource (l.wrap origin) dest = none) ∧
    (origin.repository.registry.IsSpelledIn u → dest.registry.IsSpelledIn v →
      u.server = v.server → origin.repository.registry.host = dest.registry.host) := by
  have hio := Reference.insecure_of_read (Reference.parse_eq_ok.1 hs)
  have hid := Repository.insecure_of_read (Repository.parse_eq_ok.1 ht)
  have hserver (hh : origin.repository.registry.host = dest.registry.host) :
      u.server = v.server :=
    Http.server_of_endpoint (registry_ext hh (hio.trans hid.symm)) hp hp' hu hv
  refine ⟨?_, ?_, host_of_server⟩
  · rw [mountSource_wrap hl]
    constructor
    · intro h
      split at h
      next hc => exact ⟨hserver hc.1, hc.2, hc.1⟩
      next => cases h
    · rintro ⟨-, hn, hh⟩
      rw [if_pos ⟨hh, hn⟩]
  · rw [mountSource_wrap hl]
    intro h
    split at h
    next => exact absurd rfl h
    next hc => exact if_neg hc

def looseBlob : Layer where
  blob := .held [1, 2, 3] ⟨.sha256, String.ofList (List.replicate 64 'a'), by decide +kernel⟩
    .dockerLayer

def hubTool : Repository where
  registry := hubNginx.repository.registry
  name := "team/tool"
  name_valid := by decide
  name_qualified := by decide

def hubUrl (path : String) : Url :=
  { scheme := "https", host := some "registry-1.docker.io", path }

theorem nginx_mounts_within_hub :
    Reference.parse "docker.io/nginx" {} = .ok hubNginx ∧
    Repository.parse "team/tool" {} = .ok hubTool ∧
    Http.endpoint hubNginx.repository Http.uploadsPath =
      .ok (hubUrl "/v2/library/nginx/blobs/uploads/") ∧
    Http.endpoint hubTool Http.uploadsPath = .ok (hubUrl "/v2/team/tool/blobs/uploads/") ∧
    hubNginx.repository.registry.IsSpelledIn (hubUrl "/v2/library/nginx/blobs/uploads/") ∧
    hubTool.registry.IsSpelledIn (hubUrl "/v2/team/tool/blobs/uploads/") ∧
    mountSource (looseBlob.wrap hubNginx) hubTool = some hubNginx.repository := by
  have hs : Reference.parse "docker.io/nginx" {} = .ok hubNginx := by rfl
  have ht : Repository.parse "team/tool" {} = .ok hubTool := by rfl
  have hu : Http.endpoint hubNginx.repository Http.uploadsPath =
      .ok (hubUrl "/v2/library/nginx/blobs/uploads/") := by decide +kernel
  have hv : Http.endpoint hubTool Http.uploadsPath =
      .ok (hubUrl "/v2/team/tool/blobs/uploads/") := by decide +kernel
  have hp := Http.isPlainPath_uploadsPath
  obtain ⟨hmount, -, hspelled⟩ := mounts_within_registry hs ht (l := looseBlob) rfl hp hp hu hv
  have hus : hubNginx.repository.registry.IsSpelledIn
      (hubUrl "/v2/library/nginx/blobs/uploads/") := by decide
  have hvs : hubTool.registry.IsSpelledIn (hubUrl "/v2/team/tool/blobs/uploads/") := by decide
  exact ⟨hs, ht, hu, hv, hus, hvs, hmount.2 ⟨rfl, by decide, hspelled hus hvs rfl⟩⟩

def loudBase : Reference :=
  .tagged ⟨⟨⟨"GHCR.io", false, by decide, by decide⟩, "lib/base", by decide, by decide⟩, "1",
    by decide⟩

def quietTool : Repository :=
  ⟨⟨"ghcr.io", false, by decide, by decide⟩, "team/tool", by decide, by decide⟩

def quietUrl (path : String) : Url :=
  { scheme := "https", host := some "ghcr.io", path }

/-- A host in capitals is at the same server, and nothing is mounted from there. -/
theorem loud_host_is_not_mounted :
    Reference.parse "GHCR.io/lib/base:1" {} = .ok loudBase ∧
    Repository.parse "ghcr.io/team/tool" {} = .ok quietTool ∧
    Http.endpoint loudBase.repository Http.uploadsPath =
      .ok (quietUrl "/v2/lib/base/blobs/uploads/") ∧
    Http.endpoint quietTool Http.uploadsPath = .ok (quietUrl "/v2/team/tool/blobs/uploads/") ∧
    (quietUrl "/v2/lib/base/blobs/uploads/").server =
      (quietUrl "/v2/team/tool/blobs/uploads/").server ∧
    loudBase.repository.name ≠ quietTool.name ∧
    mountSource (looseBlob.wrap loudBase) quietTool = none := by
  refine ⟨by rfl, by rfl, ?_, ?_, rfl, by decide, by decide⟩
  · decide +kernel
  · decide +kernel

end Push

end LayerTransfer
