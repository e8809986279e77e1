import LayerTransfer.Proofs.Name.RoundTrip

namespace LayerTransfer.Name.Grammar

open Text.Cut Text.Blank

/-! ### Components and tags -/

structure Component (cs : List Char) : Prop where
  first : ∃ c ∈ cs.head?, c.isAlphanum = true
  last : ∃ c ∈ cs.getLast?, c.isAlphanum = true
  chars : ∀ c ∈ cs, c.isLower = true ∨ c.isDigit = true ∨ c = '.' ∨ c = '_' ∨ c = '-'
  noDoubleDot : ¬ ['.', '.'] <:+: cs

structure Tag (cs : List Char) : Prop where
  first : ∃ c ∈ cs.head?, c.isAlphanum = true ∨ c = '_'
  rest : ∀ c ∈ cs.tail, c.isAlphanum = true ∨ c = '_' ∨ c = '.' ∨ c = '-'
  short : cs.length ≤ 128

theorem hasDoubleDot_iff (cs : List Char) : hasDoubleDot cs = true ↔ ['.', '.'] <:+: cs := by
  induction cs with
  | nil => simp [hasDoubleDot]
  | cons a r ih =>
    cases r with
    | nil => simp [hasDoubleDot, List.infix_cons_iff]
    | cons b r =>
      have hinfix : ['.', '.'] <:+: a :: b :: r ↔
          (a = '.' ∧ b = '.') ∨ ['.', '.'] <:+: b :: r := by
        rw [List.infix_cons_iff, List.cons_prefix_cons, List.cons_prefix_cons]
        simp [@eq_comm _ '.']
      rw [hasDoubleDot, Bool.or_eq_true, ih, hinfix]
      simp

theorem isComponent_iff {cs : List Char} : isComponent cs = true ↔ Component cs := by
  have hd : (!hasDoubleDot cs) = true ↔ ¬ ['.', '.'] <:+: cs := by
    rw [← hasDoubleDot_iff]
    simp
  have hc : cs.all isPathChar = true ↔
      ∀ c ∈ cs, c.isLower = true ∨ c.isDigit = true ∨ c = '.' ∨ c = '_' ∨ c = '-' := by
    simp [isPathChar, or_assoc]
  simp only [isComponent, Bool.and_eq_true, hd, hc, Option.any_eq_true]
  constructor
  · rintro ⟨⟨⟨h1, h2⟩, h3⟩, h4⟩
    exact ⟨h1, h2, h3, h4⟩
  · intro h
    exact ⟨⟨⟨h.first, h.last⟩, h.chars⟩, h.noDoubleDot⟩

theorem isTag_iff {cs : List Char} : isTag cs = true ↔ Tag cs := by
  have hf : cs.head?.any isTagStart = true ↔ ∃ c ∈ cs.head?, c.isAlphanum = true ∨ c = '_' := by
    simp [Option.any_eq_true, isTagStart]
  have hr : cs.tail.all isTagChar = true ↔
      ∀ c ∈ cs.tail, c.isAlphanum = true ∨ c = '_' ∨ c = '.' ∨ c = '-' := by
    simp [isTagChar, or_assoc]
  simp only [isTag, Bool.and_eq_true, hf, hr, decide_eq_true_eq]
  constructor
  · rintro ⟨⟨h1, h2⟩, h3⟩
    exact ⟨h1, h3, h2⟩
  · intro h
    exact ⟨⟨h.first, h.short⟩, h.rest⟩

theorem Component.isPathChar {cs : List Char} (h : Component cs) {c : Char} (hc : c ∈ cs) :
    isPathChar c = true := by
  have hall := isComponent_iff.2 h
  simp only [isComponent, Bool.and_eq_true] at hall
  exact List.all_eq_true.1 hall.1.2 c hc

theorem Component.slash_not_mem {cs : List Char} (h : Component cs) : '/' ∉ cs :=
  fun hm => absurd (h.isPathChar hm) (by decide)

/-! ### Places -/

/-- A place as it is written: a host, which may be left out, and the components of a path. -/
structure Place where
  host : Option (List Char) := none
  path : List (List Char)

namespace Place

variable {o : Options} {r : Repository}

def pathText (p : Place) : List Char := List.intercalate ['/'] p.path

def text (p : Place) : List Char :=
  match p.host with
  | some h => h ++ '/' :: p.pathText
  | none => p.pathText

def hostText (p : Place) (o : Options) : List Char := p.host.getD o.defaultRegistry.toList

structure IsProper (p : Place) (o : Options) : Prop where
  host : ∃ r, Registry.parse (String.ofList (p.hostText o)) o = .ok r
  path_ne_nil : p.path ≠ []
  path : ∀ c ∈ p.path, Component c

/-- The host is not taken for a component, nor the first component for a host. -/
def IsClear (p : Place) : Prop :=
  match p.host with
  | some h => '.' ∈ h ∨ ':' ∈ h ∨ h = "localhost".toList
  | none => p.path.length = 1 ∨ ∀ c ∈ p.path.head?, '.' ∉ c ∧ c ≠ "localhost".toList

def qualifier (p : Place) (host : String) : List Char :=
  if host = dockerHub ∧ p.path.length = 1 then "library/".toList else []

structure Names (p : Place) (o : Options) (r : Repository) : Prop where
  host : r.registry.host = canonicalHost (String.ofList (p.hostText o))
  insecure : r.registry.insecure = o.insecure
  name : r.name = String.ofList (p.qualifier r.registry.host ++ p.pathText)

theorem Names.unique {p : Place} {r' : Repository} (h : p.Names o r) (h' : p.Names o r') : r = r' := by
  obtain ⟨⟨host, insecure, _, _⟩, name, _, _⟩ := r
  obtain ⟨⟨host', insecure', _, _⟩, name', _, _⟩ := r'
  obtain ⟨hh, hi, hn⟩ := h
  obtain ⟨hh', hi', hn'⟩ := h'
  simp only at hh hi hn hh' hi' hn'
  have hhost := hh.trans hh'.symm
  subst hhost
  have hname := hn.trans hn'.symm
  have hflag := hi.trans hi'.symm
  subst hname hflag
  rfl

/-! ### Characters -/

theorem isHost_of_isProper {p : Place} (h : p.IsProper o) : isHost (p.hostText o) = true := by
  obtain ⟨r, hr⟩ := h.host
  have hr := Rejection.attach_eq_ok.1 hr
  rw [String.toList_ofList, Registry.read] at hr
  split at hr
  · cases hr
  · split at hr
    next hh => exact hh
    next => cases hr

theorem isHostChar_of_mem {p : Place} (h : p.IsProper o) {host : List Char}
    (hh : p.host = some host) {c : Char} (hc : c ∈ host) : isHostChar c = true := by
  have hv := isHost_of_isProper h
  rw [hostText, hh, Option.getD_some] at hv
  simp only [isHost, Bool.and_eq_true] at hv
  exact List.all_eq_true.1 hv.1.1.2 c hc

theorem pieces_pathText {p : Place} (h : p.IsProper o) : pieces '/' p.pathText = p.path :=
  pieces_intercalate h.path_ne_nil fun c hc => (h.path c hc).slash_not_mem

theorem isPath_pathText {p : Place} (h : p.IsProper o) : isPath p.pathText = true := by
  rw [isPath, pieces_pathText h, List.all_eq_true]
  exact fun c hc => isComponent_iff.2 (h.path c hc)

theorem pathText_ne_nil {p : Place} (h : p.IsProper o) : p.pathText ≠ [] := by
  intro hn
  have hp := pieces_pathText h
  rw [hn] at hp
  obtain ⟨c, hc, -⟩ := (h.path [] (by rw [← hp]; exact List.mem_singleton_self [])).first
  simp at hc

theorem colon_not_mem_pathText {p : Place} (h : p.IsProper o) : ':' ∉ p.pathText :=
  fun hm => (isPathChar_of_isPath (isPath_pathText h) hm).elim (by decide) (by decide)

theorem forall_mem_text {p : Place} (h : p.IsProper o) {P : Char → Prop} (hs : P '/')
    (hh : ∀ c, isHostChar c = true → P c) (hp : ∀ c, isPathChar c = true → P c) :
    ∀ c ∈ p.text, P c := by
  have hpath : ∀ c ∈ p.pathText, P c := by
    intro c hc
    obtain rfl | hc := isPathChar_of_isPath (isPath_pathText h) hc
    · exact hs
    · exact hp c hc
  intro c hc
  cases hhost : p.host with
  | none =>
    simp only [text, hhost] at hc
    exact hpath c hc
  | some host =>
    simp only [text, hhost, List.mem_append, List.mem_cons] at hc
    obtain hc | rfl | hc := hc
    · exact hh c (isHostChar_of_mem h hhost hc)
    · exact hs
    · exact hpath c hc

theorem isVisible_of_mem_text {p : Place} (h : p.IsProper o) : ∀ c ∈ p.text, isVisible c = true :=
  forall_mem_text h (by decide) (fun _ => isVisible_of_isHostChar) fun _ => isVisible_of_isPathChar

theorem at_not_mem_text {p : Place} (h : p.IsProper o) : '@' ∉ p.text := by
  have hne : ∀ c ∈ p.text, c ≠ '@' :=
    forall_mem_text h (by decide) (fun c hc he => absurd (he ▸ hc) (by decide))
      fun c hc he => absurd (he ▸ hc) (by decide)
  exact fun hm => hne '@' hm rfl

theorem text_ne_nil {p : Place} (h : p.IsProper o) : p.text ≠ [] := by
  cases hhost : p.host with
  | none =>
    simp only [text, hhost]
    exact pathText_ne_nil h
  | some host => simp [text, hhost]

/-! ### Reading -/

theorem split_text_of_no_host {p : Place} (h : p.IsProper o) (hc : p.IsClear) (hhost : p.host = none)
    (o' : Options) : Repository.split p.text o' = (o'.defaultRegistry.toList, p.pathText) := by
  simp only [IsClear, hhost] at hc
  simp only [Repository.split, text, hhost]
  -- only behind a first slash there is a component that could be a host
  split
  next first rest hcut =>
    obtain ⟨he, hslash⟩ := eq_of_atFirst hcut
    have hpieces := pieces_pathText h
    rw [he, pieces_append _ hslash] at hpieces
    have hmem : first ∈ p.path := by rw [← hpieces]; exact List.mem_cons_self ..
    have hcolon : ':' ∉ first := fun hm => absurd ((h.path first hmem).isPathChar hm) (by decide)
    obtain hone | hhead := hc
    · rw [← hpieces, List.length_cons] at hone
      exact absurd (List.length_eq_zero_iff.1 (Nat.succ.inj hone)) (pieces_ne_nil '/' rest)
    · obtain ⟨hdot, hlocal⟩ := hhead first (by rw [← hpieces]; rfl)
      rw [if_neg]
      rw [looksLikeHost_iff]
      exact not_or.2 ⟨hdot, not_or.2 ⟨hcolon, hlocal⟩⟩
  next => rfl

theorem split_text {p : Place} (h : p.IsProper o) (hc : p.IsClear) :
    Repository.split p.text o = (p.hostText o, p.pathText) := by
  cases hhost : p.host with
  | some host =>
    have hslash : '/' ∉ host := fun hm => absurd (isHostChar_of_mem h hhost hm) (by decide)
    simp only [IsClear, hhost] at hc
    simp only [Repository.split, text, hhost, atFirst_append _ hslash, looksLikeHost_iff.2 hc,
      if_true, hostText, Option.getD_some]
  | none =>
    rw [split_text_of_no_host h hc hhost, hostText, hhost, Option.getD_none]

theorem slash_not_mem_pathText {p : Place} (h : p.IsProper o) :
    '/' ∉ p.pathText ↔ p.path.length = 1 := by
  constructor
  · intro hs
    rw [← pieces_pathText h, pieces_of_not_mem hs, List.length_singleton]
  · intro hl
    obtain ⟨c, hc⟩ := List.length_eq_one_iff.1 hl
    have hmem : c ∈ p.path := by rw [hc]; exact List.mem_singleton_self c
    rw [pathText, hc, List.intercalate_singleton]
    exact (h.path c hmem).slash_not_mem

theorem registry_read {cs : List Char} {reg : Registry} (h : Registry.read cs o = .ok reg) :
    reg.host = canonicalHost (String.ofList cs) ∧ reg.insecure = o.insecure := by
  refine ⟨?_, Registry.insecure_of_read h⟩
  rw [Registry.read] at h
  split at h
  · cases h
  · split at h <;> cases h
    rfl

theorem names_within {p : Place} (h : p.IsProper o) {reg : Registry}
    (hr : Registry.read (p.hostText o) o = .ok reg) (hp : isPath p.pathText = true) :
    p.Names o (Repository.within reg p.pathText hp) := by
  obtain ⟨hh, hi⟩ := registry_read hr
  refine ⟨?_, ?_, ?_⟩
  · rw [Repository.registry_within, hh]
  · rw [Repository.registry_within, hi]
  · have hub : reg.isDockerHub = true ↔ reg.host = dockerHub := by simp [Registry.isDockerHub]
    simp only [Repository.name_within_eq, Repository.registry_within, qualifier,
      slash_not_mem_pathText h, hub]

theorem read_text {p : Place} (h : p.IsProper o) (hc : p.IsClear) :
    ∃ r, Repository.read p.text o = .ok r ∧ p.Names o r := by
  obtain ⟨reg, hreg⟩ := h.host
  have hreg := Rejection.attach_eq_ok.1 hreg
  rw [String.toList_ofList] at hreg
  refine ⟨_, ?_, names_within h hreg (isPath_pathText h)⟩
  have ht : trim p.text = p.text :=
    trim_of_no_blank fun c hc => not_isBlank_of_isVisible (isVisible_of_mem_text h c hc)
  rw [Repository.read, ht]
  simp only [text_ne_nil h, if_false, split_text h hc, hreg]
  rw [dif_pos (isPath_pathText h)]

theorem of_path (host : Option (List Char)) {path : List Char} {reg : Registry}
    (hr : Registry.read (host.getD o.defaultRegistry.toList) o = .ok reg) (hp : isPath path = true) :
    (⟨host, pieces '/' path⟩ : Place).IsProper o ∧
      (⟨host, pieces '/' path⟩ : Place).Names o (Repository.within reg path hp) := by
  have hproper : (⟨host, pieces '/' path⟩ : Place).IsProper o := by
    refine ⟨⟨reg, ?_⟩, pieces_ne_nil '/' path, fun c hc => ?_⟩
    · rw [Registry.parse, Rejection.attach_eq_ok, String.toList_ofList]
      exact hr
    · exact isComponent_iff.1 (List.all_eq_true.1 hp c hc)
  have htext : (⟨host, pieces '/' path⟩ : Place).pathText = path := intercalate_pieces '/' path
  have hnames := names_within hproper hr (by rw [htext]; exact hp)
  simp only [htext] at hnames
  exact ⟨hproper, hnames⟩

/-- Only a proper place is read as a repository. -/
theorem of_read {cs : List Char} (h : Repository.read cs o = .ok r) :
    ∃ p : Place, p.IsProper o ∧ p.IsClear ∧ trim cs = p.text ∧ p.Names o r := by
  obtain ⟨hreg, hp, hr⟩ := Repository.read_ok h
  rw [hr]
  generalize trim cs = cs at hreg hp
  cases hcut : atFirst '/' cs with
  | none =>
    simp only [Repository.split, hcut] at hreg hp ⊢
    obtain ⟨hproper, hnames⟩ := of_path none hreg hp
    refine ⟨_, hproper, .inl ?_, (intercalate_pieces '/' cs).symm, hnames⟩
    rw [pieces_of_not_mem (atFirst_eq_none_iff.1 hcut), List.length_singleton]
  | some parts =>
    obtain ⟨first, rest⟩ := parts
    obtain ⟨he, hslash⟩ := eq_of_atFirst hcut
    cases hlooks : looksLikeHost first with
    | true =>
      simp only [Repository.split, hcut, hlooks, if_true] at hreg hp ⊢
      obtain ⟨hproper, hnames⟩ := of_path (some first) hreg hp
      refine ⟨_, hproper, looksLikeHost_iff.1 hlooks, ?_, hnames⟩
      rw [he]
      exact congrArg (first ++ '/' :: ·) (intercalate_pieces '/' rest).symm
    | false =>
      simp only [Repository.split, hcut, hlooks, Bool.false_eq_true, if_false] at hreg hp ⊢
      obtain ⟨hproper, hnames⟩ := of_path none hreg hp
      refine ⟨_, hproper, .inr fun c hc => ?_, (intercalate_pieces '/' cs).symm, hnames⟩
      rw [he, pieces_append _ hslash, List.head?_cons, Option.mem_some_iff] at hc
      subst hc
      have hn : ¬ looksLikeHost first = true := by simp [hlooks]
      rw [looksLikeHost_iff, not_or, not_or] at hn
      exact ⟨hn.1, hn.2.2⟩

end Place

end LayerTransfer.Name.Grammar
