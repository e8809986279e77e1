import LayerTransfer.Proofs.Name.Characters
import LayerTransfer.Url.Basic
import Mathlib.Data.List.TakeWhile

namespace LayerTransfer.Url

open Name Text.Cut

def isPlain (c : Char) : Bool :=
  c.isAlphanum || c == '.' || c == '_' || c == '-' || c == ':' || c == '[' || c == ']' || c == '/'

theorem isPlain_of_isAlphanum {c : Char} (h : c.isAlphanum = true) : isPlain c = true := by
  simp [isPlain, h]

theorem isPlain_of_isHostChar {c : Char} (h : isHostChar c = true) : isPlain c = true := by
  simp only [isHostChar, Bool.or_eq_true] at h
  rcases h with ((((h | h) | h) | h) | h) | h <;> simp [isPlain, h]

theorem isPlain_of_isPathChar {c : Char} (h : isPathChar c = true) : isPlain c = true := by
  simp only [isPathChar, Bool.or_eq_true] at h
  rcases h with (((h | h) | h) | h) | h <;>
    simp [isPlain, isAlphanum_eq, h]

theorem isPlain_of_isTagChar {c : Char} (h : isTagChar c = true) : isPlain c = true := by
  simp only [isTagChar, Bool.or_eq_true] at h
  rcases h with ((h | h) | h) | h <;> simp [isPlain, h]

theorem isVisible_of_isPlain {c : Char} (h : isPlain c = true) : isVisible c = true := by
  simp only [isPlain, Bool.or_eq_true, beq_iff_eq] at h
  rcases h with ((((((h | rfl) | rfl) | rfl) | rfl) | rfl) | rfl) | rfl
  · exact isVisible_of_isAlphanum h
  all_goals decide

theorem of_isPlain {P : Char → Bool}
    (h : ∀ n < 0x7f, isPlain (Char.ofNat n) = true → P (Char.ofNat n) = true) {c : Char}
    (hc : isPlain c = true) : P c = true := by
  have hv := isVisible_of_isPlain hc
  simp only [isVisible, Bool.and_eq_true, decide_eq_true_eq] at hv
  have hn := h c.toNat hv.2
  rw [Char.ofNat_toNat] at hn
  exact hn hc

theorem not_inPath_of_isPlain {c : Char} (h : isPlain c = true) : Encode.inPath c = false := by
  have hp := of_isPlain (P := fun c => !Encode.inPath c) (by decide) h
  simpa using hp

/-- Lower case turns no plain character into one of the two that a step in a path starts with. -/
theorem toLower_of_isPlain {c : Char} (h : isPlain c = true) (hd : c ≠ '.') :
    c.toLower ≠ '.' ∧ c.toLower ≠ '%' := by
  have hp := of_isPlain (P := fun c => c == '.' || (c.toLower != '.' && c.toLower != '%'))
    (by decide) h
  simpa [hd] using hp

/-! ### Paths -/

/-- A path that is walked as it is written: no segment starts with a dot. -/
structure IsPlainPath (cs : List Char) : Prop where
  plain : ∀ c ∈ cs, isPlain c = true
  head : ∀ s ∈ pieces '/' cs, s.head? ≠ some '.'

theorem IsPlainPath.append {a b : List Char} (ha : IsPlainPath a) (hb : IsPlainPath b) :
    IsPlainPath (a ++ '/' :: b) where
  plain := by
    intro c h
    rcases List.mem_append.1 h with h | h
    · exact ha.plain c h
    rcases List.mem_cons.1 h with rfl | h
    · decide
    · exact hb.plain c h
  head := by
    intro s h
    rw [pieces_append_cons] at h
    rcases List.mem_append.1 h with h | h
    · exact ha.head s h
    · exact hb.head s h

theorem not_isDot {s : List Char} (hp : ∀ c ∈ s, isPlain c = true) (hd : s.head? ≠ some '.') :
    isDot s = false ∧ isDoubleDot s = false := by
  cases s with
  | nil => decide
  | cons c r =>
    have hc : c ≠ '.' := by simpa using hd
    obtain ⟨h1, h2⟩ := toLower_of_isPlain (hp c (List.mem_cons_self ..)) hc
    constructor
    · simp [isDot, hc, h2]
    · simp [isDoubleDot, h1, h2]

theorem walk_of_plain {segments : Segments}
    (h : ∀ s ∈ segments, (∀ c ∈ s, isPlain c = true) ∧ s.head? ≠ some '.') (done : Segments) :
    walk done segments = done.reverse ++ segments := by
  induction segments generalizing done with
  | nil => simp [walk]
  | cons s r ih =>
    obtain ⟨hp, hd⟩ := h s (List.mem_cons_self ..)
    obtain ⟨h1, h2⟩ := not_isDot hp hd
    have hs := Encode.percent_eq_self Encode.inPath s fun c hc => not_inPath_of_isPlain (hp c hc)
    cases r with
    | nil => simp [walk, h1, h2, hs]
    | cons t r =>
      rw [walk]
      · simp only [h1, h2, hs]
        simpa using ih (fun u hu => h u (List.mem_cons_of_mem _ hu)) (s :: done)
      · simp

theorem pathText_pieces (cs : List Char) : pathText (pieces '/' cs) = String.ofList ('/' :: cs) := by
  have hf : (pieces '/' cs).flatMap ('/' :: ·) = '/' :: cs := by
    induction cs with
    | nil => rfl
    | cons c r ih =>
      unfold pieces
      split
      · next hc => rw [List.flatMap_cons, ih, hc]; rfl
      · cases hr : pieces '/' r with
        | nil => exact absurd hr (pieces_ne_nil '/' r)
        | cons p ps => rw [hr] at ih; simp at ih; simp [ih]
  rw [pathText, hf]

theorem resolvePath_of_plain {cs : List Char} (h : IsPlainPath cs) :
    resolvePath true [] cs = String.ofList ('/' :: cs) := by
  have hb : (cs.map fun c => if c == '\\' then '/' else c) = cs := by
    refine (List.map_congr_left fun c hc => ?_).trans (List.map_id cs)
    have hne : c ≠ '\\' := fun he => absurd (h.plain c hc) (by rw [he]; decide)
    simp [hne]
  have hs : ∀ s ∈ pieces '/' cs, (∀ c ∈ s, isPlain c = true) ∧ s.head? ≠ some '.' :=
    fun s hs => ⟨fun c hc => h.plain c (mem_of_mem_pieces hs hc), h.head s hs⟩
  have hw := walk_of_plain hs []
  rw [resolvePath, segments, if_pos rfl, hb, List.reverse_nil, hw, List.reverse_nil,
    List.nil_append, pathText_pieces]

/-! ### Whole addresses -/

theorem clean_of_visible {cs : List Char} (h : ∀ c ∈ cs, isVisible c = true) : clean cs = cs := by
  have hv (c : Char) (hc : c ∈ cs) : 0x20 < c.toNat := by
    have hc := h c hc
    simp only [isVisible, Bool.and_eq_true, decide_eq_true_eq] at hc
    exact hc.1
  have hd {l : List Char} (hl : ∀ c ∈ l, c ∈ cs) :
      l.dropWhile (fun c => decide (c.toNat ≤ 0x20)) = l := by
    rw [List.dropWhile_eq_self_iff]
    intro h0
    have := hv _ (hl _ (List.getElem_mem h0))
    simpa using this
  rw [clean]
  simp only [hd (fun c hc => hc), hd (l := cs.reverse) (fun c hc => List.mem_reverse.1 hc),
    List.reverse_reverse]
  refine List.filter_eq_self.2 fun c hc => ?_
  have hne (d : Char) (hd : d.toNat ≤ 0x20) : c ≠ d := fun he => by
    have := hv c hc
    rw [he] at this
    omega
  simp [hne '\t' (by decide), hne '\n' (by decide), hne '\r' (by decide)]

theorem split_of_plain {cs : List Char} (h : ∀ c ∈ cs, isPlain c = true) :
    split cs = ⟨cs, none, none⟩ := by
  have hn (d : Char) (hd : isPlain d = false) : atFirst d cs = none :=
    atFirst_eq_none_iff.2 fun hm => by simpa [hd] using h d hm
  simp [split, cutOff, hn '#' (by decide), hn '?' (by decide)]

variable {scheme : String} {host path : List Char}

theorem not_endsAuthority (hh : ∀ c ∈ host, isPlain c = true) (hslash : '/' ∉ host) :
    ∀ c ∈ host, endsAuthority true c = false := by
  intro c hc
  have h1 : c ≠ '/' := fun he => hslash (he ▸ hc)
  have h2 : c ≠ '\\' := fun he => absurd (hh c hc) (by rw [he]; decide)
  simp [endsAuthority, h1, h2]

theorem parsePlace_of_plain (hs : isSpecial scheme = true) (hh : ∀ c ∈ host, isPlain c = true)
    (hslash : '/' ∉ host) (hp : IsPlainPath path) :
    parsePlace scheme ⟨host ++ '/' :: path, none, none⟩ =
      (parseAuthority scheme host).map fun u =>
        { u with path := String.ofList ('/' :: path), query := none, fragment := none } := by
  have hend : ∀ c ∈ host, (!endsAuthority true c) = true := by
    simpa using not_endsAuthority hh hslash
  have ht : (host ++ '/' :: path).takeWhile (fun c => !endsAuthority true c) = host := by
    rw [List.takeWhile_append_of_pos hend]
    simp [endsAuthority]
  have hd : (host ++ '/' :: path).dropWhile (fun c => !endsAuthority true c) = '/' :: path := by
    rw [List.dropWhile_append_of_pos hend]
    simp [endsAuthority]
  have hat : host ≠ ['@'] := fun he => absurd (hh '@' (by simp [he])) (by decide)
  simp only [parsePlace, hs, ht, hd, hat, false_and, if_false, List.drop_one, List.tail_cons,
    Bool.true_or, if_true, resolvePath_of_plain hp, withTail, Option.map_none]

def IsWeb (scheme : String) : Prop := scheme = "http" ∨ scheme = "https"

theorem IsWeb.isSpecial (h : IsWeb scheme) : Url.isSpecial scheme = true ∧ scheme ≠ "file" := by
  rcases h with rfl | rfl <;> decide

theorem IsWeb.cutScheme (h : IsWeb scheme) (rest : List Char) :
    Url.cutScheme (scheme.toList ++ ':' :: rest) = some (scheme, rest) := by
  rcases h with rfl | rfl
  · rw [Url.cutScheme, atFirst_append _ (by decide)]
    rfl
  · rw [Url.cutScheme, atFirst_append _ (by decide)]
    rfl

theorem isPlain_of_address (hs : IsWeb scheme) (hh : ∀ c ∈ host, isPlain c = true)
    (hp : IsPlainPath path) :
    ∀ c ∈ scheme.toList ++ ':' :: '/' :: '/' :: (host ++ '/' :: path), isPlain c = true := by
  have hscheme : ∀ c ∈ scheme.toList, isPlain c = true := by
    rw [← List.all_eq_true]
    rcases hs with rfl | rfl <;> decide
  intro c hc
  simp only [List.mem_append, List.mem_cons] at hc
  rcases hc with hc | rfl | rfl | rfl | hc | rfl | hc
  · exact hscheme c hc
  any_goals decide
  · exact hh c hc
  · exact hp.plain c hc

theorem parse_of_plain (hs : IsWeb scheme) (hne : host ≠ [])
    (hh : ∀ c ∈ host, isPlain c = true) (hslash : '/' ∉ host) (hp : IsPlainPath path) :
    parse (String.ofList (scheme.toList ++ ':' :: '/' :: '/' :: (host ++ '/' :: path))) =
      (parseAuthority scheme host).map fun u =>
        { u with path := String.ofList ('/' :: path), query := none, fragment := none } := by
  have hall := isPlain_of_address hs hh hp
  -- any number of slashes may stand before the host, so that it must not start with one itself
  have hdrop : ('/' :: '/' :: (host ++ '/' :: path)).dropWhile (endsAuthority true) =
      host ++ '/' :: path := by
    cases host with
    | nil => exact absurd rfl hne
    | cons c r =>
      have hc := not_endsAuthority hh hslash c (List.mem_cons_self ..)
      have hend : endsAuthority true '/' = true := rfl
      simp [hc, hend]
  rw [parse, String.toList_ofList, clean_of_visible fun c hc => isVisible_of_isPlain (hall c hc),
    split_of_plain hall]
  simp only [hs.cutScheme, parseBody, if_neg hs.isSpecial.2, hs.isSpecial.1, if_true, hdrop]
  exact parsePlace_of_plain hs.isSpecial.1 hh hslash hp

end LayerTransfer.Url
