import LayerTransfer.Proofs.Url.Server
import Mathlib.Data.List.TakeWhile

namespace LayerTransfer.Url

open Text.Cut

/-- Whether what is sent to a URL is encrypted, or stays on this machine. -/
def isPrivate (u : Url) : Bool :=
  u.scheme == "https" || u.host == some "localhost" || u.host == some "127.0.0.1" ||
    u.host == some "[::1]"

theorem isPrivate_of_https {u : Url} (h : u.scheme = "https") : u.isPrivate = true := by
  simp [isPrivate, h]

theorem isPrivate_of_server {u v : Url} (h : u.server = v.server) : u.isPrivate = v.isPrivate := by
  simp only [server, Prod.mk.injEq] at h
  rw [isPrivate, isPrivate, h.1, h.2.1]

theorem cutPort_eq_takeWhile {cs : List Char} (h : '[' ∉ cs.takeWhile (· != ':')) :
    (cutPort false cs).1 = cs.takeWhile (· != ':') := by
  induction cs with
  | nil => rfl
  | cons c r ih =>
    by_cases hc : c = ':'
    · simp [cutPort, hc]
    · have hw : (c :: r).takeWhile (· != ':') = c :: r.takeWhile (· != ':') := by simp [hc]
      rw [hw] at h ⊢
      rw [List.mem_cons, not_or] at h
      obtain ⟨hb, hr⟩ := h
      have hi : (if c = '[' then true else if c = ']' then false else false) = false := by
        simp [Ne.symm hb]
      rw [cutPort]
      simp only [hc, false_and, if_false, hi, ih hr]

theorem pieces_cons {x y : Char} (h : y ≠ x) (r : List Char) :
    ∃ p ps, pieces x r = p :: ps ∧ pieces x (y :: r) = (y :: p) :: ps := by
  cases hr : pieces x r with
  | nil => exact absurd hr (pieces_ne_nil x r)
  | cons p ps => exact ⟨p, ps, rfl, by simp [pieces, h, hr]⟩

theorem pieces_cons_cons {x y z : Char} (hy : y ≠ x) (hz : z ≠ x) (r : List Char) :
    ∃ p ps, pieces x (y :: z :: r) = (y :: z :: p) :: ps := by
  obtain ⟨p, ps, -, hp⟩ := pieces_cons hz r
  obtain ⟨q, qs, hq, hq'⟩ := pieces_cons hy (z :: r)
  rw [hp] at hq
  cases hq
  exact ⟨p, ps, hq'⟩

theorem groups6?_bracket (r : List Char) : Host.groups6? (':' :: ':' :: '1' :: ']' :: r) = none := by
  have hgroup (p : List Char) : Host.group? ('1' :: ']' :: p) = none := by
    unfold Host.group?
    split
    · rfl
    · rfl
  have htail (p : List Char) : Host.tail4? ('1' :: ']' :: p) = none := by
    obtain ⟨q, qs, hq⟩ := pieces_cons_cons (x := '.') (y := '1') (z := ']') (by decide) (by decide) p
    unfold Host.tail4?
    simp [hq]
  obtain ⟨p, ps, hp⟩ := pieces_cons_cons (x := ':') (y := '1') (z := ']') (by decide) (by decide) r
  have hpart : Host.part? true ('1' :: ']' :: r) = none := by
    rw [Host.part?, hp]
    cases ps with
    | nil => simp [Host.groups?, hgroup, htail]
    | cons q qs => simp [Host.groups?, hgroup]
  have hcut : Host.cutDouble (':' :: ':' :: '1' :: ']' :: r) = some ([], '1' :: ']' :: r) := rfl
  rw [Host.groups6?, hcut]
  simp [hpart]

theorem parse_bracket {r host : List Char} (h : Host.parse ("[::1]".toList ++ r) = .ok host) :
    host = "[::1]".toList := by
  have hparse : Host.bracketed (':' :: ':' :: '1' :: ']' :: r) = .ok host := h
  cases r with
  | nil => exact (Except.ok.inj hparse).symm
  | cons c r =>
    have hlast : (':' :: ':' :: '1' :: ']' :: c :: r).dropLast =
        ':' :: ':' :: '1' :: ']' :: (c :: r).dropLast := by simp
    rw [Host.bracketed] at hparse
    split at hparse
    · rw [Host.address6, hlast, groups6?_bracket] at hparse
      cases hparse
    · cases hparse

theorem parse_localhost : Host.parse "localhost".toList = .ok "localhost".toList := by
  decide +kernel

theorem parse_address : Host.parse "127.0.0.1".toList = .ok "127.0.0.1".toList := by
  decide +kernel

theorem isPrivate_of_local {scheme : String} {cs : List Char} {u : Url}
    (hs : isSpecial scheme = true) (hat : '@' ∉ cs)
    (hl : cs.takeWhile (· != ':') = "localhost".toList ∨
      cs.takeWhile (· != ':') = "127.0.0.1".toList ∨ "[::1]".toList <+: cs)
    (h : parseAuthority scheme cs = .ok u) : u.isPrivate = true := by
  obtain ⟨-, place, host, hplace, hhost, hu, -⟩ := parts_of_parseAuthority h
  rw [hplace (atLast_eq_none_iff.2 hat), if_pos hs] at hhost
  obtain hl | hl | ⟨r, rfl⟩ := hl
  · rw [cutPort_eq_takeWhile (by rw [hl]; decide), hl, parse_localhost] at hhost
    simp [isPrivate, hu, ← Except.ok.inj hhost]
  · rw [cutPort_eq_takeWhile (by rw [hl]; decide), hl, parse_address] at hhost
    simp [isPrivate, hu, ← Except.ok.inj hhost]
  · have hcut : (cutPort false ("[::1]".toList ++ r)).1 =
        "[::1]".toList ++ (cutPort false r).1 := rfl
    rw [hcut] at hhost
    rw [isPrivate, hu, parse_bracket hhost]
    simp

/-- Whether a reference asks for plain http: it names that scheme, or it names a host where plain
http is spoken. -/
def asksPlain (base : Url) (reference : String) : Bool :=
  match namedScheme? reference with
  | some scheme => scheme == "http"
  | none => base.scheme == "http" && namesHost reference

/-- From a private URL only a reference that asks for plain http leads to where that is spoken. -/
theorem isPrivate_of_join {base u : Url} {reference : String} (hb : base.isPrivate = true)
    (h : base.join reference = .ok u) (hw : u.scheme = "http" ∨ u.scheme = "https")
    (hr : asksPlain base reference = false) : u.isPrivate = true := by
  unfold asksPlain at hr
  obtain ⟨hn, hs, hserver⟩ | hn := server_of_join h
  · rw [hn] at hr
    obtain hw | hw := hw
    · have hhost : namesHost reference = false := by simpa [← hs, hw] using hr
      rw [isPrivate_of_server (hserver hhost)]
      exact hb
    · exact isPrivate_of_https hw
  · rw [hn] at hr
    obtain hw | hw := hw
    · simp [hw] at hr
    · exact isPrivate_of_https hw

end LayerTransfer.Url
