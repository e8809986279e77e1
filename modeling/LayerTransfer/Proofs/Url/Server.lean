import LayerTransfer.Url.Basic
import LayerTransfer.TransferError

namespace LayerTransfer.Url

open Text.Cut

def server (u : Url) : String × Option String × Option Nat :=
  (u.scheme, u.host, u.port)

/-- The scheme that a reference names. -/
def namedScheme? (reference : String) : Option String :=
  (cutScheme (split (clean reference.toList)).body).map (·.1)

/-- Whether a reference without a scheme starts with two slashes, behind which its host stands. -/
def namesHost (reference : String) : Bool :=
  match (split (clean reference.toList)).body with
  | a :: b :: _ => endsAuthority true a && endsAuthority true b
  | _ => false

variable {scheme : String} {s : Split} {cs : List Char} {base u : Url} {reference : String}

theorem parts_of_parseAuthority (h : parseAuthority scheme cs = .ok u) :
    u.scheme = scheme ∧ ∃ place host, (atLast '@' cs = none → place = cs) ∧
      (if isSpecial scheme then Host.parse (cutPort false place).1
        else Host.verbatim (cutPort false place).1) = .ok host ∧
      u.host = some (String.ofList host) ∧ parsePort scheme (cutPort false place).2 = .ok u.port := by
  unfold parseAuthority at h
  rcases hat : atLast '@' cs with - | ⟨user, place⟩
  all_goals
    simp only [hat] at h
    obtain ⟨host, hhost, h⟩ := Outcome.ok_of_bind h
    split at h
    · cases h
    obtain ⟨port, hport, h⟩ := Outcome.ok_of_bind h
    split at h
    · cases h
    cases h
    exact ⟨rfl, _, host, by simp, hhost, rfl, hport⟩

theorem user_of_parseAuthority (hat : '@' ∉ cs) (h : parseAuthority scheme cs = .ok u) :
    u.username = "" ∧ u.password = "" := by
  unfold parseAuthority at h
  simp only [atLast_eq_none_iff.2 hat] at h
  obtain ⟨host, -, h⟩ := Outcome.ok_of_bind h
  split at h
  · cases h
  obtain ⟨port, -, h⟩ := Outcome.ok_of_bind h
  split at h
  · cases h
  cases h
  exact ⟨rfl, rfl⟩

theorem scheme_of_parsePlace (h : parsePlace scheme s = .ok u) : u.scheme = scheme := by
  unfold parsePlace at h
  simp only at h
  split at h
  · cases h
  · obtain ⟨v, hv, rfl⟩ := Outcome.ok_of_map h
    have hscheme := (parts_of_parseAuthority hv).1
    exact hscheme

theorem scheme_of_parseFilePlace (h : parseFilePlace cs = .ok u) : u.scheme = "file" := by
  unfold parseFilePlace at h
  simp only at h
  split at h
  · cases h
    rfl
  · split at h
    · cases h
      rfl
    · obtain ⟨host, -, rfl⟩ := Outcome.ok_of_map h
      rfl

theorem scheme_of_parseFile (h : parseFile cs = .ok u) : u.scheme = "file" := by
  unfold parseFile at h
  split at h
  · split at h
    · exact scheme_of_parseFilePlace h
    · cases h
      rfl
  · cases h
    rfl
  · cases h
    rfl

theorem scheme_of_parseBody (h : parseBody scheme s = .ok u) : u.scheme = scheme := by
  unfold parseBody at h
  split at h
  next hf =>
    obtain ⟨v, hv, rfl⟩ := Outcome.ok_of_map h
    exact (scheme_of_parseFile hv).trans hf.symm
  next =>
    split at h
    · exact scheme_of_parsePlace h
    split at h
    · exact scheme_of_parsePlace h
    · cases h
      rfl
    · cases h
      rfl

theorem scheme_of_resolve (h : resolve base s = .ok u) : u.scheme = base.scheme := by
  unfold resolve at h
  split at h
  · cases h
    rfl
  · exact scheme_of_parsePlace h
  split at h
  · split at h
    · split at h
      · exact scheme_of_parsePlace h
      · cases h
        rfl
    · cases h
      rfl
  · cases h
    rfl

/-- A reference that starts with one slash at most stays at the server. -/
theorem server_of_resolve
    (hs : ∀ a b r, s.body = a :: b :: r → (endsAuthority true a && endsAuthority true b) = false)
    (h : resolve base s = .ok u) : u.server = base.server := by
  unfold resolve at h
  split at h
  · cases h
    rfl
  next r hb => exact absurd (hs '/' '/' r hb) (by decide)
  next c r _ hb =>
    split at h
    next hc =>
      split at h
      next d r _ =>
        split at h
        next hd => exact absurd (hs c d r hb) (by simp [hc, hd])
        next =>
          cases h
          rfl
      next =>
        cases h
        rfl
    next =>
      cases h
      rfl

/-- A reference that names a scheme leads to that scheme. Any other one keeps the scheme that it is
resolved against, and stays at the server unless it names a host. -/
theorem server_of_join (h : base.join reference = .ok u) :
    (namedScheme? reference = none ∧ u.scheme = base.scheme ∧
      (namesHost reference = false → u.server = base.server)) ∨
    namedScheme? reference = some u.scheme := by
  unfold join at h
  simp only at h
  unfold namedScheme? namesHost
  generalize split (clean reference.toList) = s at h ⊢
  split at h
  next hc =>
    refine .inl ⟨by rw [hc]; rfl, scheme_of_resolve h, fun hn => server_of_resolve ?_ h⟩
    intro a b r hb
    simpa [hb] using hn
  next scheme rest hc =>
    refine .inr ?_
    rw [hc, Option.map_some]
    split at h
    next hb => rw [scheme_of_resolve h, hb.1]
    next => rw [scheme_of_parseBody h]

end LayerTransfer.Url
