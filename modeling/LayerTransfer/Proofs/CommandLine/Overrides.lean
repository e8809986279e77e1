import LayerTransfer.CommandLine.Parser
import Mathlib.Logic.Basic

namespace LayerTransfer.CommandLine

open Settings (lookupSwitch lookupTimeout maxTimeout ofEnvironment readTimeout variableName)

abbrev Environment := String → Option String

def NamesRegistry (value : String) : Prop :=
  Text.Blank.trim value.toList ≠ []

def IsTimeout (value : String) : Prop :=
  ∃ t, Decimal.parseU64 (Text.Blank.trimText value) = some t ∧ t ≠ 0 ∧ ¬maxTimeout < t

namespace Arguments

def Overrides (a : Arguments) (name : String) : Prop :=
  name = variableName "DEFAULT_REGISTRY" ∧ a.defaultRegistry.isSome = true ∨
    name = variableName "TIMEOUT" ∧ a.timeout.isSome = true ∨
    name = variableName "TOKEN" ∧ a.token.isSome = true

/-- Whether two environments differ in nothing but what the command line overrides. -/
def SameBelow (a : Arguments) (e e' : Environment) : Prop :=
  ∀ name, ¬a.Overrides name → e name = e' name

/-- Whether the values that the command line overrides could be used without it. -/
structure Tolerates (a : Arguments) (e : Environment) : Prop where
  registry : a.defaultRegistry.isSome = true →
    ∀ v, e (variableName "DEFAULT_REGISTRY") = some v → NamesRegistry v
  timeout : a.timeout.isSome = true → ∀ v, e (variableName "TIMEOUT") = some v → IsTimeout v

/-- Settings that come from the command line first, then from the environment, then from the
defaults. -/
structure Effective (a : Arguments) (e : Environment) (s : Settings) : Prop where
  registry : s.defaultRegistry =
    a.defaultRegistry.getD ((e (variableName "DEFAULT_REGISTRY")).getD Name.dockerHub)
  timeout : ∃ t, lookupTimeout e = .ok t ∧ s.timeoutSeconds = a.timeout.getD t
  token : s.token = a.token.or ((e (variableName "TOKEN")).filter (· ≠ ""))
  insecure : ∃ b, lookupSwitch e "INSECURE" = .ok b ∧ s.insecure = (b || a.insecure)
  skipTls : ∃ b, lookupSwitch e "SKIP_TLS" = .ok b ∧ s.skipTls = (b || a.skipTls)
  verbose : s.verbose = a.verbose
  quiet : s.quiet = a.quiet
  valid : s.validate = .ok ()

end Arguments

/-! ### The environment -/

def unchecked (e : Environment) (insecure skipTls : Bool) (timeoutSeconds : UInt64) : Settings :=
  { defaultRegistry := (e (variableName "DEFAULT_REGISTRY")).getD Name.dockerHub
    insecure, skipTls, timeoutSeconds
    token := (e (variableName "TOKEN")).filter (· ≠ "") }

theorem ofEnvironment_eq (e : Environment) :
    ofEnvironment e = (lookupSwitch e "INSECURE").bind fun i =>
      (lookupSwitch e "SKIP_TLS").bind fun k => (lookupTimeout e).bind fun t =>
        (unchecked e i k t).validate.bind fun _ => .ok (unchecked e i k t) :=
  rfl

theorem ok_of_ofEnvironment {e : Environment} {s : Settings} (h : ofEnvironment e = .ok s) :
    ∃ i k t, lookupSwitch e "INSECURE" = .ok i ∧ lookupSwitch e "SKIP_TLS" = .ok k ∧
      lookupTimeout e = .ok t ∧ s = unchecked e i k t ∧ s.validate = .ok () := by
  rw [ofEnvironment_eq] at h
  obtain ⟨i, hi, h⟩ := Outcome.ok_of_bind h
  obtain ⟨k, hk, h⟩ := Outcome.ok_of_bind h
  obtain ⟨t, ht, h⟩ := Outcome.ok_of_bind h
  obtain ⟨u, hv, h⟩ := Outcome.ok_of_bind h
  cases h
  exact ⟨i, k, t, hi, hk, ht, rfl, hv⟩

theorem validate_eq_ok_iff {s : Settings} :
    s.validate = .ok () ↔ NamesRegistry s.defaultRegistry ∧ s.timeoutSeconds ≠ 0 ∧
      ¬maxTimeout < s.timeoutSeconds := by
  unfold Settings.validate NamesRegistry
  split
  next hr => simp [hr]
  next hr =>
    split
    next h0 => simp [h0]
    next h0 =>
      split
      next hm => simp [hm]
      next hm => simp [hr, h0, hm]

theorem validate_congr {s s' : Settings}
    (hr : NamesRegistry s.defaultRegistry ↔ NamesRegistry s'.defaultRegistry)
    (h0 : s.timeoutSeconds = 0 ↔ s'.timeoutSeconds = 0)
    (hm : maxTimeout < s.timeoutSeconds ↔ maxTimeout < s'.timeoutSeconds) :
    s.validate = s'.validate := by
  unfold NamesRegistry at hr
  simp only [Settings.validate, not_iff_not.1 hr, h0, hm]

theorem namesRegistry_dockerHub : NamesRegistry Name.dockerHub := by
  unfold NamesRegistry
  decide

theorem namesRegistry_default {e : Environment}
    (h : ∀ v, e (variableName "DEFAULT_REGISTRY") = some v → NamesRegistry v) :
    NamesRegistry ((e (variableName "DEFAULT_REGISTRY")).getD Name.dockerHub) := by
  cases hv : e (variableName "DEFAULT_REGISTRY") with
  | none => exact namesRegistry_dockerHub
  | some v => exact h v hv

theorem lookupTimeout_of_isTimeout {e : Environment}
    (h : ∀ v, e (variableName "TIMEOUT") = some v → IsTimeout v) :
    ∃ t, lookupTimeout e = .ok t ∧ t ≠ 0 ∧ ¬maxTimeout < t := by
  unfold lookupTimeout
  cases hv : e (variableName "TIMEOUT") with
  | none => exact ⟨300, rfl, by decide, by decide⟩
  | some v =>
    obtain ⟨t, ht, h0, hm⟩ := h v hv
    exact ⟨t, by simp [readTimeout, ht], h0, hm⟩

theorem usable_of_ofEnvironment {e : Environment} {s : Settings} (h : ofEnvironment e = .ok s) :
    (∀ v, e (variableName "DEFAULT_REGISTRY") = some v → NamesRegistry v) ∧
      ∀ v, e (variableName "TIMEOUT") = some v → IsTimeout v := by
  obtain ⟨i, k, t, -, -, ht, rfl, hv⟩ := ok_of_ofEnvironment h
  obtain ⟨hr, h0, hm⟩ := validate_eq_ok_iff.1 hv
  constructor
  · intro v hv
    simpa [unchecked, hv] using hr
  · intro v hv
    simp only [lookupTimeout, hv, readTimeout] at ht
    split at ht
    next n hn =>
      cases ht
      exact ⟨_, hn, h0, hm⟩
    next => cases ht

/-! ### The command line -/

namespace Arguments

variable {a : Arguments} {e e' : Environment}

theorem SameBelow.registry (hd : a.SameBelow e e') (h : a.Tolerates e) (h' : a.Tolerates e') :
    (NamesRegistry ((e (variableName "DEFAULT_REGISTRY")).getD Name.dockerHub) ↔
      NamesRegistry ((e' (variableName "DEFAULT_REGISTRY")).getD Name.dockerHub)) ∧
    a.defaultRegistry.getD ((e (variableName "DEFAULT_REGISTRY")).getD Name.dockerHub) =
      a.defaultRegistry.getD ((e' (variableName "DEFAULT_REGISTRY")).getD Name.dockerHub) := by
  cases hr : a.defaultRegistry with
  | none =>
    have hn : ¬a.Overrides (variableName "DEFAULT_REGISTRY") := by
      simp [Overrides, hr, variableName]
    rw [hd _ hn]
    exact ⟨Iff.rfl, rfl⟩
  | some r =>
    have hs : a.defaultRegistry.isSome = true := by rw [hr]; rfl
    exact ⟨iff_of_true (namesRegistry_default (h.registry hs))
      (namesRegistry_default (h'.registry hs)), rfl⟩

theorem SameBelow.timeout (hd : a.SameBelow e e') (h : a.Tolerates e) (h' : a.Tolerates e') :
    (∃ err, lookupTimeout e = .error err ∧ lookupTimeout e' = .error err) ∨
      ∃ t t', lookupTimeout e = .ok t ∧ lookupTimeout e' = .ok t' ∧ (t = 0 ↔ t' = 0) ∧
        (maxTimeout < t ↔ maxTimeout < t') ∧ a.timeout.getD t = a.timeout.getD t' := by
  cases hv : a.timeout with
  | none =>
    have hn : ¬a.Overrides (variableName "TIMEOUT") := by
      simp [Overrides, hv, variableName]
    have hsame : lookupTimeout e = lookupTimeout e' := by simp only [lookupTimeout, hd _ hn]
    rw [hsame]
    cases lookupTimeout e' with
    | error err => exact .inl ⟨err, rfl, rfl⟩
    | ok t => exact .inr ⟨t, t, rfl, rfl, Iff.rfl, Iff.rfl, rfl⟩
  | some n =>
    have hs : a.timeout.isSome = true := by rw [hv]; rfl
    obtain ⟨t, ht, h0, hm⟩ := lookupTimeout_of_isTimeout (h.timeout hs)
    obtain ⟨t', ht', h0', hm'⟩ := lookupTimeout_of_isTimeout (h'.timeout hs)
    exact .inr ⟨t, t', ht, ht', iff_of_false h0 h0', iff_of_false hm hm', rfl⟩

theorem SameBelow.token (hd : a.SameBelow e e') :
    (if a.token.isSome then a.token else (e (variableName "TOKEN")).filter (· ≠ "")) =
      if a.token.isSome then a.token else (e' (variableName "TOKEN")).filter (· ≠ "") := by
  cases ht : a.token with
  | none =>
    have hn : ¬a.Overrides (variableName "TOKEN") := by
      simp [Overrides, ht, variableName]
    rw [hd _ hn]
  | some t => rfl

theorem SameBelow.switch (hd : a.SameBelow e e') {setting : String}
    (hn : ¬a.Overrides (variableName setting)) :
    lookupSwitch e setting = lookupSwitch e' setting := by
  simp only [lookupSwitch, hd _ hn]

theorem settings_eq (hd : a.SameBelow e e') (h : a.Tolerates e) (h' : a.Tolerates e') :
    a.settings e = a.settings e' := by
  have hi : lookupSwitch e "INSECURE" = lookupSwitch e' "INSECURE" :=
    hd.switch (by simp [Overrides, variableName])
  have hk : lookupSwitch e "SKIP_TLS" = lookupSwitch e' "SKIP_TLS" :=
    hd.switch (by simp [Overrides, variableName])
  rw [settings, settings, ofEnvironment_eq, ofEnvironment_eq, hi, hk]
  cases lookupSwitch e' "INSECURE" with
  | error err => rfl
  | ok i =>
  cases lookupSwitch e' "SKIP_TLS" with
  | error err => rfl
  | ok k =>
  obtain ⟨err, ht, ht'⟩ | ⟨t, t', ht, ht', h0, hm, hget⟩ := hd.timeout h h'
  · rw [ht, ht']
    rfl
  obtain ⟨hnames, hreg⟩ := hd.registry h h'
  have hvalid : (unchecked e i k t).validate = (unchecked e' i k t').validate :=
    validate_congr hnames h0 hm
  have happly : a.applyTo (unchecked e i k t) = a.applyTo (unchecked e' i k t') := by
    simp only [applyTo, unchecked, hreg, hget, hd.token]
  rw [ht, ht']
  simp only [Except.bind, hvalid]
  cases (unchecked e' i k t').validate with
  | error err => rfl
  | ok u => simp only [configure, happly]

theorem effective_of_settings {s : Settings} (h : a.settings e = .ok s) : a.Effective e s := by
  obtain ⟨s₀, hload, h⟩ := Outcome.ok_of_bind h
  obtain ⟨i, k, t, hi, hk, ht, rfl, -⟩ := ok_of_ofEnvironment hload
  obtain ⟨u, -, h⟩ := Outcome.ok_of_bind h
  obtain ⟨u', hv, h⟩ := Outcome.ok_of_bind h
  cases h
  refine ⟨rfl, ⟨t, ht, rfl⟩, ?_, ⟨i, hi, rfl⟩, ⟨k, hk, rfl⟩, rfl, rfl, hv⟩
  simp only [applyTo, unchecked]
  cases a.token <;> rfl

theorem error_of_not_tolerates (h : ¬a.Tolerates e) :
    ∃ err, ∀ b : Arguments, b.settings e = .error err := by
  cases hload : ofEnvironment e with
  | error err => exact ⟨err, fun b => by rw [settings, hload]; rfl⟩
  | ok s =>
    obtain ⟨hr, ht⟩ := usable_of_ofEnvironment hload
    exact absurd ⟨fun _ => hr, fun _ => ht⟩ h

/-- What the command line gives wins over the environment: environments that differ in nothing else,
and could be used without it, lead to the same settings or to the same error. A value that could not
be used is an error whatever the command line gives, since the environment is read first. -/
theorem settings_override (hd : a.SameBelow e e') (h : a.Tolerates e) (h' : a.Tolerates e') :
    a.settings e = a.settings e' ∧ (∀ s, a.settings e = .ok s → a.Effective e s) ∧
      ∀ x, ¬a.Tolerates x → ∃ err, ∀ b : Arguments, b.settings x = .error err :=
  ⟨settings_eq hd h h', fun _ => effective_of_settings, fun _ => error_of_not_tolerates⟩

end Arguments

/-- A copy with a timeout, a token and a default registry of its own. -/
def ownSettings : Arguments :=
  { command := .copy "a:1" "b:1", timeout := some 30, token := some "own",
    defaultRegistry := some "ghcr.io" }

def fullEnvironment : Environment := fun name =>
  if name = variableName "TIMEOUT" then some " 60 "
  else if name = variableName "TOKEN" then some "shared"
  else if name = variableName "DEFAULT_REGISTRY" then some "mirror.example.com"
  else none

theorem ownSettings_override :
    ownSettings.SameBelow fullEnvironment (fun _ => none) ∧
      ownSettings.Tolerates fullEnvironment ∧ ownSettings.Tolerates (fun _ => none) ∧
      ownSettings.settings fullEnvironment = ownSettings.settings fun _ => none := by
  have hd : ownSettings.SameBelow fullEnvironment fun _ => none := by
    intro name hn
    simp only [Arguments.Overrides, ownSettings, Option.isSome_some, and_true, not_or] at hn
    simp [fullEnvironment, hn]
  have h : ownSettings.Tolerates fullEnvironment := by
    refine ⟨fun _ v hv => ?_, fun _ v hv => ?_⟩
    · have he : v = "mirror.example.com" := (Option.some.inj hv).symm
      rw [he, NamesRegistry]
      decide
    · have he : v = " 60 " := (Option.some.inj hv).symm
      rw [he]
      exact ⟨60, by decide, by decide, by decide⟩
  have h' : ownSettings.Tolerates fun _ => none := ⟨by simp, by simp⟩
  exact ⟨hd, h, h', (Arguments.settings_override hd h h').1⟩

def soonEnvironment : Environment := fun name =>
  if name = variableName "TIMEOUT" then some "soon" else none

/-- The command line gives the timeout, and yet the run ends at the one of the environment. -/
theorem overridden_timeout_is_read :
    ∃ a, parse ["--timeout", "30", "copy", "a:1", "b:1"] = .ok a ∧
      a.SameBelow soonEnvironment (fun _ => none) ∧
      a.settings soonEnvironment = .error (.config
        "LAYER_MOUNT_TIMEOUT must be a number of seconds, got \"soon\"") ∧
      a.settings (fun _ => none) = .ok { timeoutSeconds := 30 } := by
  refine ⟨{ command := .copy "a:1" "b:1", timeout := some 30 }, rfl, ?_, rfl, rfl⟩
  intro name hn
  simp only [Arguments.Overrides, Option.isSome_some, and_true, not_or] at hn
  simp [soonEnvironment, hn.2.1]

end LayerTransfer.CommandLine
