import LayerTransfer.Archive.Name

namespace LayerTransfer.Archive

open Text.Cut (pieces)

/-! ### Parts of a path -/

theorem octets_of_ofPart {p : Bytes} {c : Component} (h : Component.ofPart p = some c) :
    c.octets = p ∧ p ≠ [] ∧ p ≠ [0x2e] ∧ c ≠ .root ∧ (c = .parent ↔ p = [0x2e, 0x2e]) := by
  rw [Component.ofPart] at h
  split at h
  · cases h
  next hne =>
    rw [not_or] at hne
    split at h
    next hp =>
      cases h
      exact ⟨hp.symm, hne.1, hne.2, by simp, by simp [hp]⟩
    next hp =>
      cases h
      exact ⟨rfl, hne.1, hne.2, by simp, by simp [hp]⟩

def lead (path : Bytes) : List Component :=
  if path.head? = some 0x2f then [.root]
  else if (pieces 0x2f path).head? = some [0x2e] then [.current] else []

theorem ofPath_eq (path : Bytes) :
    Component.ofPath path = lead path ++ (pieces 0x2f path).filterMap Component.ofPart := by
  cases hp : pieces 0x2f path with
  | nil => exact absurd hp (Text.Cut.pieces_ne_nil _ _)
  | cons first parts =>
    simp only [Component.ofPath, lead, hp, List.head?_cons, Option.some.injEq]
    split
    next hroot =>
      -- nothing stands before the slash at the start
      have hfirst : first = [] := by
        cases path with
        | nil => cases hroot
        | cons b r =>
          cases hroot
          simp only [pieces, if_true, List.cons.injEq] at hp
          exact hp.1.symm
      rw [hfirst, List.filterMap_cons_none (by rfl)]
      rfl
    next =>
      split
      next hdot =>
        rw [hdot, List.filterMap_cons_none (by rfl)]
        rfl
      next =>
        cases hf : Component.ofPart first with
        | none => rw [List.filterMap_cons_none hf]; rfl
        | some c => rw [List.filterMap_cons_some hf]; rfl

theorem mem_lead {path : Bytes} {c : Component} (h : c ∈ lead path) :
    c = .root ∧ path.head? = some 0x2f ∨ c = .current := by
  unfold lead at h
  split at h
  next hroot => exact .inl ⟨List.mem_singleton.1 h, hroot⟩
  next =>
    split at h
    · exact .inr (List.mem_singleton.1 h)
    · cases h

theorem length_lead_le (path : Bytes) : (lead path).length ≤ 1 := by
  unfold lead
  split
  · exact Nat.le_refl 1
  · split
    · exact Nat.le_refl 1
    · exact Nat.zero_le 1

theorem mem_ofPath {path : Bytes} {c : Component} :
    c ∈ Component.ofPath path ↔
      c ∈ lead path ∨ ∃ p ∈ pieces 0x2f path, Component.ofPart p = some c := by
  rw [ofPath_eq, List.mem_append, List.mem_filterMap]

theorem parent_mem_ofPath {path : Bytes} :
    .parent ∈ Component.ofPath path ↔ [0x2e, 0x2e] ∈ pieces 0x2f path := by
  rw [mem_ofPath]
  constructor
  · rintro (h | ⟨p, hp, hc⟩)
    · obtain ⟨h, -⟩ | h := mem_lead h <;> cases h
    · rwa [(octets_of_ofPart hc).2.2.2.2.1 rfl] at hp
  · intro h
    exact .inr ⟨_, h, rfl⟩

theorem root_mem_ofPath {path : Bytes} :
    .root ∈ Component.ofPath path ↔ path.head? = some 0x2f := by
  rw [mem_ofPath]
  constructor
  · rintro (h | ⟨p, -, hc⟩)
    · obtain ⟨-, h⟩ | h := mem_lead h
      · exact h
      · cases h
    · exact absurd rfl (octets_of_ofPart hc).2.2.2.1
  · intro h
    simp [lead, h]

theorem nul_mem_ofPath {path : Bytes} :
    (∃ c ∈ Component.ofPath path, 0 ∈ c.octets) ↔ 0 ∈ path := by
  constructor
  · rintro ⟨c, hc, h0⟩
    obtain hc | ⟨p, hp, hpc⟩ := mem_ofPath.1 hc
    · obtain ⟨rfl, -⟩ | rfl := mem_lead hc
      · exact absurd h0 (by decide)
      · exact absurd h0 (by decide)
    · rw [(octets_of_ofPart hpc).1] at h0
      exact Text.Cut.mem_of_mem_pieces hp h0
  · intro h0
    obtain h | ⟨p, hp, hm⟩ := Text.Cut.eq_or_mem_pieces (x := 0x2f) h0
    · exact absurd h (by decide)
    · have hne : ¬ (p = [] ∨ p = [0x2e]) := by
        rintro (rfl | rfl)
        · cases hm
        · exact absurd hm (by decide)
      have hup : p ≠ [0x2e, 0x2e] := by
        rintro rfl
        exact absurd hm (by decide)
      have hpart : Component.ofPart p = some (.normal p) := by
        rw [Component.ofPart, if_neg hne, if_neg hup]
      exact ⟨.normal p, mem_ofPath.2 (.inr ⟨p, hp, hpart⟩), hm⟩

theorem ofPath_ne_nil {path : Bytes} (h : path ≠ []) : Component.ofPath path ≠ [] := by
  rw [ofPath_eq, lead]
  split
  · simp
  next hroot =>
    cases path with
    | nil => exact absurd rfl h
    | cons b r =>
      have hb : b ≠ 0x2f := fun he => hroot (congrArg some he)
      obtain ⟨p, ps, hp⟩ : ∃ p ps, pieces 0x2f (b :: r) = (b :: p) :: ps := by
        rw [pieces, if_neg hb]
        cases pieces 0x2f r with
        | nil => exact ⟨[], [], rfl⟩
        | cons p ps => exact ⟨p, ps, rfl⟩
      rw [hp]
      split
      · simp
      next hdot =>
        have hne : ¬ (b :: p = [] ∨ b :: p = [0x2e]) := by
          rintro (he | he)
          · cases he
          · exact hdot (congrArg some he)
        obtain ⟨c, hc⟩ : ∃ c, Component.ofPart (b :: p) = some c := by
          rw [Component.ofPart, if_neg hne]
          split
          · exact ⟨_, rfl⟩
          · exact ⟨_, rfl⟩
        rw [List.filterMap_cons_some hc]
        simp

theorem exists_written {path : Bytes} (h : path ≠ []) :
    ∃ c ∈ Component.ofPath path, c = .current → (Component.ofPath path).length = 1 := by
  by_cases hc : ∃ c ∈ Component.ofPath path, c ≠ .current
  · obtain ⟨c, hm, hc⟩ := hc
    exact ⟨c, hm, fun he => absurd he hc⟩
  · have hall : ∀ c ∈ Component.ofPath path, c = .current := by simpa using hc
    obtain ⟨c, hm⟩ := List.exists_mem_of_ne_nil _ (ofPath_ne_nil h)
    refine ⟨c, hm, fun _ => ?_⟩
    have hparts : (pieces 0x2f path).filterMap Component.ofPart = [] := by
      rw [List.eq_nil_iff_forall_not_mem]
      intro d hd
      obtain ⟨p, -, hp⟩ := List.mem_filterMap.1 hd
      have hdot := hall d (by rw [ofPath_eq]; exact List.mem_append_right _ hd)
      have hoctets := octets_of_ofPart hp
      rw [hdot] at hoctets
      exact hoctets.2.2.1 hoctets.1.symm
    have hlead : Component.ofPath path = lead path := by rw [ofPath_eq, hparts, List.append_nil]
    have hpos := List.length_pos_of_mem hm
    have hle := length_lead_le path
    rw [hlead] at hpos ⊢
    omega

/-! ### Room -/

def room : List Bytes → Nat
  | [] => 0
  | b :: bs => b.length + 1 + room bs

theorem room_append (bs cs : List Bytes) : room (bs ++ cs) = room bs + room cs := by
  induction bs with
  | nil => simp [room]
  | cons b bs ih =>
    rw [List.cons_append, room, room, ih]
    omega

theorem room_pieces (path : Bytes) : room (pieces 0x2f path) = path.length + 1 := by
  induction path with
  | nil => rfl
  | cons b r ih =>
    unfold pieces
    split
    · rw [room, ih, List.length_nil, List.length_cons]
      omega
    · cases hr : pieces 0x2f r with
      | nil => exact absurd hr (Text.Cut.pieces_ne_nil _ _)
      | cons p ps =>
        rw [hr, room] at ih
        simp only [room, List.length_cons]
        omega

theorem room_le_of_sublist {bs cs : List Bytes} (h : bs.Sublist cs) : room bs ≤ room cs := by
  induction h with
  | slnil => exact Nat.le_refl 0
  | cons c _ ih =>
    rw [room]
    omega
  | cons_cons c _ ih =>
    rw [room, room]
    omega

theorem sublist_of_filterMap (ps : List Bytes) :
    ((ps.filterMap Component.ofPart).map Component.octets).Sublist ps := by
  induction ps with
  | nil => exact .slnil
  | cons p ps ih =>
    cases hp : Component.ofPart p with
    | none =>
      rw [List.filterMap_cons_none hp]
      exact ih.cons p
    | some c =>
      rw [List.filterMap_cons_some hp, List.map_cons, (octets_of_ofPart hp).1]
      exact ih.cons_cons p

theorem sublist_pieces {path : Bytes} (h : path.head? ≠ some 0x2f) :
    ((Component.ofPath path).map Component.octets).Sublist (pieces 0x2f path) := by
  rw [ofPath_eq, lead, if_neg h]
  split
  next hdot =>
    obtain ⟨parts, hp⟩ := List.head?_eq_some_iff.1 hdot
    rw [hp, List.filterMap_cons_none (by rfl)]
    exact (sublist_of_filterMap parts).cons_cons _
  next => exact sublist_of_filterMap _

theorem octets_ne_nil {path : Bytes} {c : Component} (h : c ∈ Component.ofPath path) :
    c.octets ≠ [] := by
  obtain h | ⟨p, -, hc⟩ := mem_ofPath.1 h
  · obtain ⟨rfl, -⟩ | rfl := mem_lead h <;> simp [Component.octets]
  · rw [(octets_of_ofPart hc).1]
    exact (octets_of_ofPart hc).2.1

theorem pieces_of_getLast {path : Bytes} (h : path.getLast? = some 0x2f) :
    ∃ init, pieces 0x2f path = init ++ [[]] := by
  obtain ⟨front, rfl⟩ := List.getLast?_eq_some_iff.1 h
  exact ⟨_, Text.Cut.pieces_append_cons 0x2f front []⟩

theorem room_ofPath {path : Bytes} (h : path.head? ≠ some 0x2f) :
    room ((Component.ofPath path).map Component.octets) +
      (if path.getLast? = some 0x2f then 1 else 0) ≤ path.length + 1 := by
  have hs := sublist_pieces h
  rw [← room_pieces]
  split
  next hlast =>
    obtain ⟨init, hp⟩ := pieces_of_getLast hlast
    -- the empty part behind the last slash is no component
    have hkept : ((Component.ofPath path).map Component.octets).filter (· ≠ []) =
        (Component.ofPath path).map Component.octets := by
      rw [List.filter_eq_self, List.forall_mem_map]
      intro c hc
      simpa using octets_ne_nil hc
    rw [hp] at hs ⊢
    have hinit : ((init ++ [[]]).filter (· ≠ [])).Sublist init := by
      simp
    have hroom := room_le_of_sublist ((hs.filter (· ≠ [])).trans hinit)
    rw [hkept] at hroom
    rw [room_append, room, List.length_nil]
    omega
  next => exact room_le_of_sublist hs

/-! ### Writing -/

/-- What may be written: no root, no null octet, and no step up but at the end of a cut name. -/
def Writable (cut : Bool) : List Component → Prop
  | [] => True
  | c :: r => c ≠ .root ∧ (c = .parent → cut = true ∧ r = []) ∧ 0 ∉ c.octets ∧ Writable cut r

def guarded (cut : Bool) (cs : List Component) : List Component :=
  if cut then cs.dropLast else cs

theorem writable_iff (cut : Bool) (cs : List Component) :
    Writable cut cs ↔ .root ∉ cs ∧ .parent ∉ guarded cut cs ∧ ∀ c ∈ cs, 0 ∉ c.octets := by
  have hguarded (c : Component) (r : List Component) : .parent ∉ guarded cut (c :: r) ↔
      (c = .parent → cut = true ∧ r = []) ∧ .parent ∉ guarded cut r := by
    cases cut with
    | false => simp [guarded, eq_comm]
    | true =>
      cases r with
      | nil => simp [guarded]
      | cons d r => simp [guarded, eq_comm]
  induction cs with
  | nil => simp [Writable, guarded]
  | cons c r ih =>
    rw [hguarded, List.mem_cons, not_or, List.forall_mem_cons]
    constructor
    · rintro ⟨hroot, hup, h0, hr⟩
      obtain ⟨hroots, hups, h0s⟩ := ih.1 hr
      exact ⟨⟨Ne.symm hroot, hroots⟩, ⟨hup, hups⟩, h0, h0s⟩
    · rintro ⟨⟨hroot, hroots⟩, ⟨hup, hups⟩, h0, h0s⟩
      exact ⟨Ne.symm hroot, hup, h0, ih.2 ⟨hroots, hups, h0s⟩⟩

namespace NameField

/-- The field holds `w` and nothing but zeros behind it. -/
def Holds (f : NameField) (w : Bytes) : Prop :=
  f.used = w.length ∧ f.octets = w ++ Bytes.zeros (nameWidth - w.length)

theorem holds_empty : Holds {} [] := ⟨rfl, rfl⟩

theorem place_of_fits {f : NameField} {b : Bytes} (h : f.used + b.length ≤ nameWidth) (hb : 0 ∉ b) :
    ∃ g, f.place b = .ok g ∧ g.used = f.used + b.length ∧ ∀ w, f.Holds w → g.Holds (w ++ b) := by
  refine ⟨_, by rw [place, dif_pos h, if_neg hb], rfl, ?_⟩
  rintro w ⟨hu, ho⟩
  refine ⟨by simp [hu], ?_⟩
  have ht : f.octets.take f.used = w := by rw [ho, hu, List.take_left]
  have hd : f.octets.drop (f.used + b.length + 1) =
      Bytes.zeros (nameWidth - w.length - (b.length + 1)) := by
    rw [ho, hu, List.drop_append, List.drop_eq_nil_of_le (by omega)]
    simp only [Bytes.zeros, List.drop_replicate, List.nil_append]
    congr 1
    omega
  have hz : ([0] ++ Bytes.zeros (nameWidth - w.length - (b.length + 1))).take
      (nameWidth - w.length - b.length) = Bytes.zeros (nameWidth - (w.length + b.length)) := by
    have h0 : ([0] : Bytes) = List.replicate 1 0 := rfl
    rw [h0, Bytes.zeros, List.replicate_append_replicate, List.take_replicate, Bytes.zeros]
    congr 1
    omega
  change f.octets.take f.used ++
    (b ++ [0] ++ f.octets.drop (f.used + b.length + 1)).take (nameWidth - f.used) = _
  rw [ht, hd, hu, List.append_assoc, List.append_assoc, List.take_append,
    List.take_of_length_le (by omega), hz, List.length_append]

theorem of_place {f g : NameField} {b : Bytes} (h : f.place b = .ok g) :
    g.used = f.used + b.length ∧ 0 ∉ b := by
  rw [place] at h
  split at h
  · split at h
    · cases h
    next h0 =>
      cases h
      exact ⟨rfl, h0⟩
  · cases h

theorem piece?_ok {p : Progress} {alone last : Bool} {c : Component} {b : Option Bytes}
    (h : piece? p alone last c = .ok b) :
    c ≠ .root ∧ (c = .parent → p.cut = true ∧ last = true) ∧
      (b = some c.octets ∨ b = none ∧ c = .current ∧ alone = false) := by
  cases c with
  | root => cases h
  | current => cases alone <;> cases h <;> simp
  | parent =>
    simp only [piece?] at h
    split at h
    next hc =>
      cases h
      simpa using hc
    next => cases h
  | normal b =>
    cases h
    simp [Component.octets]

theorem writable_of_write {alone : Bool} {cs : List Component} {p q : Progress}
    (h : write alone cs p = (q, none)) : Writable p.cut cs := by
  induction cs generalizing p with
  | nil => trivial
  | cons c r ih =>
    rw [write] at h
    cases hp : piece? p alone r.isEmpty c with
    | error e => simp [hp] at h
    | ok b =>
      obtain ⟨hroot, hup, rfl | ⟨rfl, rfl, -⟩⟩ := piece?_ok hp
      · simp only [hp] at h
        split at h
        · cases h
        next f hf =>
          split at h
          · cases h
          next g hg =>
            exact ⟨hroot, fun hc => ⟨(hup hc).1, List.isEmpty_iff.1 (hup hc).2⟩,
              (of_place hg).2, ih (p := { p with field := g, slash := true }) h⟩
      · simp only [hp] at h
        exact ⟨hroot, by simp, by decide, ih h⟩

def separator (slash : Bool) : Bytes := if slash then [0x2f] else []

theorem write_piece (alone : Bool) {c : Component} {b : Bytes} {rest : List Component} {p : Progress}
    (hc : piece? p alone rest.isEmpty c = .ok (some b))
    (h : p.field.used + (separator p.slash ++ b).length ≤ nameWidth) (hb : 0 ∉ b) :
    ∃ f, write alone (c :: rest) p = write alone rest { p with field := f, slash := true } ∧
      f.used = p.field.used + (separator p.slash ++ b).length ∧
      ∀ w, p.field.Holds w → f.Holds (w ++ (separator p.slash ++ b)) := by
  obtain ⟨f, slash, cut⟩ := p
  cases slash with
  | false =>
    simp only [separator, Bool.false_eq_true, if_false, List.nil_append] at h ⊢
    obtain ⟨g, hg, hu, hw⟩ := place_of_fits h hb
    exact ⟨g, by simp [write, hc, hg], hu, hw⟩
  | true =>
    simp only [separator, if_true, List.length_append, List.length_singleton] at h ⊢
    obtain ⟨g, hg, hu, hw⟩ :=
      place_of_fits (f := f) (b := [0x2f]) (by simp; omega) (by decide)
    simp only [List.length_singleton] at hu
    obtain ⟨k, hk, hku, hkw⟩ := place_of_fits (f := g) (b := b) (by omega) hb
    refine ⟨k, by simp [write, hc, hg, hk], by omega, ?_⟩
    intro w hf
    rw [← List.append_assoc]
    exact hkw _ (hw w hf)

theorem piece?_of_writable (alone : Bool) {c : Component} {rest : List Component} {p : Progress}
    (hroot : c ≠ .root) (hup : c = .parent → p.cut = true ∧ rest = []) :
    piece? p alone rest.isEmpty c = .ok (some c.octets) ∧ (c = .current → alone = true) ∨
      piece? p alone rest.isEmpty c = .ok none ∧ c = .current ∧ alone = false := by
  cases c with
  | root => exact absurd rfl hroot
  | current => cases alone <;> simp [piece?]
  | parent =>
    obtain ⟨hcut, rfl⟩ := hup rfl
    simp [piece?, hcut]
  | normal b => simp [piece?, Component.octets]

theorem length_separator (slash : Bool) : (separator slash).length = slash.toNat := by
  cases slash <;> rfl

theorem write_of_writable (alone : Bool) {cs : List Component} {p : Progress}
    (h : Writable p.cut cs)
    (hr : p.field.used + room (cs.map Component.octets) ≤ nameWidth + (!p.slash).toNat) :
    ∃ q, write alone cs p = (q, none) ∧
      ((p.slash = true ∨ ∃ c ∈ cs, c = .current → alone = true) → q.slash = true) ∧
      (q.slash = true →
        q.field.used + (!p.slash).toNat ≤ p.field.used + room (cs.map Component.octets)) := by
  induction cs generalizing p with
  | nil => exact ⟨p, rfl, by simp, by simp +contextual⟩
  | cons c r ih =>
    obtain ⟨hroot, hup, h0, hrest⟩ := h
    rw [List.map_cons, room] at hr ⊢
    have hflag : p.slash.toNat + (!p.slash).toNat = 1 := by cases p.slash <;> rfl
    obtain ⟨hc, hwritten⟩ | ⟨hc, rfl, rfl⟩ := piece?_of_writable alone hroot hup
    · have hlen : (separator p.slash ++ c.octets).length = p.slash.toNat + c.octets.length := by
        rw [List.length_append, length_separator]
      obtain ⟨f, hf, hu, -⟩ := write_piece alone hc (by omega) h0
      obtain ⟨q, hq, hslash, hused⟩ := ih (p := { p with field := f, slash := true }) hrest
        (by simp only [Bool.not_true, Bool.toNat_false]; omega)
      refine ⟨q, hf.trans hq, fun _ => hslash (.inl rfl), fun hs => ?_⟩
      have hused := hused hs
      simp only [Bool.not_true, Bool.toNat_false] at hused
      omega
    · obtain ⟨q, hq, hslash, hused⟩ := ih hrest (by omega)
      refine ⟨q, by rw [write, hc]; exact hq, fun hs => hslash ?_, fun hs => ?_⟩
      · obtain hs | ⟨c, hc, hs⟩ := hs
        · exact .inl hs
        · obtain rfl | hc := List.mem_cons.1 hc
          · simp at hs
          · exact .inr ⟨c, hc, hs⟩
      · have hused := hused hs
        omega

def start (f : NameField) (cut : Bool) : Progress := { field := f.restart, cut }

theorem setPath_of_write {f : NameField} {cut : Bool} {path : Bytes} {p : Progress}
    (h : write ((Component.ofPath path).length = 1) (Component.ofPath path) (start f cut) = (p, none))
    (hs : p.slash = true) (hl : path.getLast? = some 0x2f → p.field.used < nameWidth) :
    ∃ g, f.setPath cut path = (g, none) ∧ (path.getLast? ≠ some 0x2f → g = p.field) := by
  rw [start] at h
  by_cases ht : path.getLast? = some 0x2f
  · obtain ⟨g, hg, -, -⟩ := place_of_fits (f := p.field) (b := [0x2f])
      (hl ht) (by decide)
    exact ⟨g, by simp [setPath, h, hs, ht, hg], by simp [ht]⟩
  · exact ⟨p.field, by simp [setPath, h, hs, ht], fun _ => rfl⟩

theorem setPath_of_writable {cut : Bool} {path : Bytes} (f : NameField) (hne : path ≠ [])
    (hw : Writable cut (Component.ofPath path)) (hl : path.length ≤ nameWidth) :
    ∃ g, f.setPath cut path = (g, none) := by
  have hroot : path.head? ≠ some 0x2f := fun h =>
    ((writable_iff cut _).1 hw).1 (root_mem_ofPath.2 h)
  have hroom := room_ofPath hroot
  have hfits : (start f cut).field.used + room ((Component.ofPath path).map Component.octets) ≤
      nameWidth + (!(start f cut).slash).toNat := by
    simp only [start, restart, Bool.not_false, Bool.toNat_true]
    omega
  obtain ⟨q, hq, hslash, hused⟩ :=
    write_of_writable ((Component.ofPath path).length = 1) (p := start f cut) hw hfits
  have hs : q.slash = true := by
    obtain ⟨c, hm, hc⟩ := exists_written hne
    exact hslash (.inr ⟨c, hm, fun he => decide_eq_true (hc he)⟩)
  have hused := hused hs
  simp only [start, restart, Bool.not_false, Bool.toNat_true] at hused
  obtain ⟨g, hg, -⟩ := setPath_of_write hq hs fun hlast => by
    rw [if_pos hlast] at hroom
    omega
  exact ⟨g, hg⟩

theorem writable_of_setPath {f g : NameField} {cut : Bool} {path : Bytes}
    (h : f.setPath cut path = (g, none)) : path ≠ [] ∧ Writable cut (Component.ofPath path) := by
  cases hw : write ((Component.ofPath path).length = 1) (Component.ofPath path) (start f cut) with
  | mk p fault =>
    have hs := hw
    rw [start] at hs
    cases fault with
    | some e => simp [setPath, hs] at h
    | none =>
      refine ⟨?_, writable_of_write hw⟩
      rintro rfl
      cases h

end NameField

/-- The paths that are refused, whatever their length. -/
inductive Refuses (cut : Bool) (path : Bytes) : Prop
  | empty (h : path = [])
  | absolute (h : path.head? = some 0x2f)
  | nul (h : 0 ∈ path)
  | parent (h : .parent ∈ guarded cut (Component.ofPath path))

instance (cut : Bool) (path : Bytes) : Decidable (Refuses cut path) :=
  decidable_of_iff (path = [] ∨ path.head? = some 0x2f ∨ 0 ∈ path ∨
      .parent ∈ guarded cut (Component.ofPath path))
    ⟨fun h => by
      obtain h | h | h | h := h
      · exact .empty h
      · exact .absolute h
      · exact .nul h
      · exact .parent h,
    fun h => by
      obtain h | h | h | h := h
      · exact .inl h
      · exact .inr (.inl h)
      · exact .inr (.inr (.inl h))
      · exact .inr (.inr (.inr h))⟩

theorem not_refuses_iff {cut : Bool} {path : Bytes} :
    ¬ Refuses cut path ↔ path ≠ [] ∧ Writable cut (Component.ofPath path) := by
  rw [writable_iff]
  constructor
  · intro h
    refine ⟨fun he => h (.empty he), fun hm => h (.absolute (root_mem_ofPath.1 hm)),
      fun hm => h (.parent hm), fun c hc h0 => h (.nul (nul_mem_ofPath.1 ⟨c, hc, h0⟩))⟩
  · rintro ⟨hne, hroot, hup, h0⟩ (he | he | he | he)
    · exact hne he
    · exact hroot (root_mem_ofPath.2 he)
    · obtain ⟨c, hc, hm⟩ := nul_mem_ofPath.2 he
      exact h0 c hc hm
    · exact hup he

theorem not_refuses_of_setPath {f g : NameField} {cut : Bool} {path : Bytes}
    (h : f.setPath cut path = (g, none)) : ¬ Refuses cut path :=
  not_refuses_iff.2 (NameField.writable_of_setPath h)

theorem setPath_of_not_refuses {cut : Bool} {path : Bytes} (f : NameField) (h : ¬ Refuses cut path)
    (hl : path.length ≤ nameWidth) : ∃ g, f.setPath cut path = (g, none) := by
  obtain ⟨hne, hw⟩ := not_refuses_iff.1 h
  exact NameField.setPath_of_writable f hne hw hl

theorem refuses_of_fault {f g : NameField} {e : NameFault} {cut : Bool} {path : Bytes}
    (h : f.setPath cut path = (g, some e)) (hl : path.length ≤ nameWidth) : Refuses cut path :=
  Decidable.byContradiction fun hn => by
    obtain ⟨k, hk⟩ := setPath_of_not_refuses f hn hl
    rw [h] at hk
    cases hk

end LayerTransfer.Archive
