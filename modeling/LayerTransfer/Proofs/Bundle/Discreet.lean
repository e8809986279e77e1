import LayerTransfer.Bundle
import LayerTransfer.Proofs.Archive.Blank
import LayerTransfer.Proofs.Procedure.Alike

namespace LayerTransfer

open Name

namespace Transport

/-! ### Answers that hide content -/

/-- An answer as far as it may be known: of a hidden blob, everything but its octets. -/
def Call.outline (hidden : Repository → Digest → Bool) : (c : Call) → c.Reply → c.Reply
  | .connect _, a => a
  | .size .., a => a
  | .present .., a => a
  | .fetch r q, a => if hidden r q.digest then Except.map Blob.Stream.blank a else a

/-- Answers to the same call that differ at most in the octets of a hidden blob. -/
inductive AnswersAlike (hidden : Repository → Digest → Bool) :
    (c c' : Call) → c.Reply → c'.Reply → Prop
  | same {c : Call} {a a' : c.Reply} :
      c.outline hidden a = c.outline hidden a' → AnswersAlike hidden c c a a'

abbrev ReadAlike {α β : Type} (hidden : Repository → Digest → Bool) (V : α → β → Prop)
    (t : Reading α) (t' : Reading β) : Prop :=
  Task.Alike Eq (AnswersAlike hidden) V t t'

abbrev Twins {σ τ : Type} (hidden : Repository → Digest → Bool) (R : σ → τ → Prop)
    (server : Server Call Call.Reply σ) (server' : Server Call Call.Reply τ) : Prop :=
  Server.Twins Eq (AnswersAlike hidden) R server server'

variable {hidden : Repository → Digest → Bool}

theorem AnswersAlike.outline_eq {c : Call} {a a' : c.Reply} (h : AnswersAlike hidden c c a a') :
    c.outline hidden a = c.outline hidden a' := by
  cases h with
  | same h => exact h

theorem AnswersAlike.fetch {r : Repository} {q : BlobRequest} {a a' : Outcome Blob.Stream}
    (h : AnswersAlike hidden (.fetch r q) (.fetch r q) a a') :
    Outcome.Alike (fun s s' => s.blank = s'.blank ∧ (hidden r q.digest = false → s = s')) a a' := by
  have h : (if hidden r q.digest then Except.map Blob.Stream.blank a else a) =
      if hidden r q.digest then Except.map Blob.Stream.blank a' else a' := h.outline_eq
  cases hh : hidden r q.digest with
  | false =>
    rw [hh] at h
    cases (h : a = a')
    cases a with
    | error e => exact .error e
    | ok s => exact .ok ⟨rfl, fun _ => rfl⟩
  | true =>
    rw [hh] at h
    cases a with
    | error e =>
      cases a' with
      | error e' =>
        cases h
        exact .error e
      | ok s' => cases h
    | ok s =>
      cases a' with
      | error e' => cases h
      | ok s' => exact .ok ⟨Except.ok.inj h, by simp⟩

theorem AnswersAlike.of_fetch {r : Repository} {q : BlobRequest} {a a' : Outcome Blob.Stream}
    (h : Outcome.Alike
      (fun s s' => s.blank = s'.blank ∧ (hidden r q.digest = false → s = s')) a a') :
    AnswersAlike hidden (.fetch r q) (.fetch r q) a a' := by
  refine .same ?_
  cases h with
  | error e => rfl
  | ok h =>
    obtain ⟨hblank, hopen⟩ := h
    simp only [Call.outline, Except.map, hblank]
    cases hh : hidden r q.digest with
    | false => rw [hopen hh]
    | true => rfl

theorem alike_connect (r : Repository) : ReadAlike hidden Eq (connect r) (connect r) :=
  .ask rfl fun _ _ h => .done (Outcome.alike_of_eq h.outline_eq)

theorem alike_size (r : Repository) (d : Digest) : ReadAlike hidden Eq (size r d) (size r d) :=
  .ask rfl fun _ _ h => .done (Outcome.alike_of_eq h.outline_eq)

theorem alike_fetch (r : Repository) (q : BlobRequest) :
    ReadAlike hidden (fun s s' => s.blank = s'.blank ∧ (hidden r q.digest = false → s = s'))
      (fetch r q) (fetch r q) :=
  .ask rfl fun _ _ h => .done h.fetch

end Transport

open Transport

variable {hidden : Repository → Digest → Bool}

/-! ### Layers -/

namespace Layer

theorem alike_size (l : Layer) : ReadAlike hidden Eq l.size l.size := by
  obtain ⟨b, origin, handle⟩ := l
  cases b with
  | held content d t => exact Task.alike_pure rfl
  | remote r d listed => exact Transport.alike_size r d

theorem alike_content (l : Layer) :
    ReadAlike hidden (fun s s' => s.blank = s'.blank) l.content l.content := by
  obtain ⟨b, origin, handle⟩ := l
  cases b with
  | held content d t => exact Task.alike_pure rfl
  | remote r d listed => exact (alike_fetch r _).mono fun s s' h => h.1

theorem alike_ofPinned (p : Pinned) : ReadAlike hidden Eq (ofPinned p) (ofPinned p) := by
  refine Task.alike_bind (V := Eq) ?_ ?_
  · refine Task.alike_bind (alike_connect p.repository) fun u u' _ => ?_
    exact Task.alike_pure rfl
  · rintro l _ rfl
    exact Task.alike_pure rfl

end Layer

namespace Bundle

theorem alike_readLayer (v : Log.Verbosity) (p : Pinned) :
    ReadAlike hidden (fun x y => x.1 = y.1 ∧ x.2.blank = y.2.blank) (readLayer v p)
      (readLayer v p) := by
  refine Task.alike_bind (Layer.alike_ofPinned p) ?_
  rintro l _ rfl
  refine Task.alike_bind l.alike_size ?_
  rintro size _ rfl
  refine Task.alike_tell_bind ?_
  refine Task.alike_bind l.alike_content fun s s' h => ?_
  exact Task.alike_pure ⟨rfl, h⟩

/-! ### Entries -/

def SameProgress {α : Type} (x y : Archive × Outcome α) : Prop :=
  x.1.blank = y.1.blank ∧ x.2 = y.2

variable {a a' : Archive}

theorem alike_addLayer (v : Log.Verbosity) (p : Pinned) (ha : a.blank = a'.blank) :
    Procedure.Alike Eq (AnswersAlike hidden) SameProgress (addLayer v p a) (addLayer v p a') := by
  refine Procedure.alike_bind (alike_readLayer v p) fun o o' ho => ?_
  cases ho with
  | error e => exact .done ⟨ha, rfl⟩
  | ok h =>
    rename_i x y
    obtain ⟨d, s⟩ := x
    obtain ⟨d', s'⟩ := y
    obtain ⟨hd, hs⟩ := h
    cases (hd : d = d')
    have hs : s.blank = s'.blank := hs
    obtain ⟨harchive, houtcome⟩ := Archive.append_congr (layerEntry d.digest) d.size ha
      (congrArg Blob.Stream.chunks hs)
    exact .done ⟨harchive, congrArg (Except.map fun _ => d) houtcome⟩

theorem alike_addLayers (v : Log.Verbosity) (total : Nat) (ps : List Pinned) (index : Nat)
    (ha : a.blank = a'.blank) :
    Procedure.Alike Eq (AnswersAlike hidden) SameProgress (addLayers v total index ps a)
      (addLayers v total index ps a') := by
  induction ps generalizing index a a' with
  | nil => exact .done ⟨ha, rfl⟩
  | cons p r ih =>
    refine Procedure.alike_tell (Procedure.alike_bind (alike_addLayer v p ha) ?_)
    rintro ⟨b, o⟩ ⟨b', _⟩ ⟨hb, rfl⟩
    cases o with
    | error e => exact .done ⟨hb, rfl⟩
    | ok d =>
      refine Procedure.alike_bind (ih (index + 1) hb) ?_
      rintro ⟨c, o⟩ ⟨c', _⟩ ⟨hc, rfl⟩
      exact .done ⟨hc, rfl⟩

theorem addDocuments_congr (ds : List (Outcome (String × Bytes))) (ha : a.blank = a'.blank) :
    SameProgress (addDocuments ds a) (addDocuments ds a') := by
  induction ds generalizing a a' with
  | nil => exact ⟨ha, rfl⟩
  | cons d r ih =>
    cases d with
    | error e => exact ⟨ha, rfl⟩
    | ok x =>
      obtain ⟨name, content⟩ := x
      obtain ⟨hb, ho⟩ :=
        Archive.append_congr name (UInt64.ofNat content.length) ha rfl
      simp only [addDocuments, Archive.appendBytes]
      cases hx : a.append name (UInt64.ofNat content.length) [.data content] with
      | mk b o =>
        cases hy : a'.append name (UInt64.ofNat content.length) [.data content] with
        | mk b' o' =>
          rw [hx, hy] at hb ho
          cases (ho : o = o')
          cases o with
          | error e => exact ⟨hb, rfl⟩
          | ok u => exact ih hb

theorem alike_addEntries (v : Log.Verbosity) (ps : List Pinned) (i : Image) (ha : a.blank = a'.blank) :
    Procedure.Alike Eq (AnswersAlike hidden) SameProgress (addEntries v ps i a)
      (addEntries v ps i a') := by
  refine Procedure.alike_bind (alike_addLayers v ps.length ps 0 ha) ?_
  rintro ⟨b, o⟩ ⟨b', _⟩ ⟨hb, rfl⟩
  cases o with
  | error e => exact .done ⟨hb, rfl⟩
  | ok ds =>
    obtain ⟨hc, ho⟩ := addDocuments_congr (documents i ds) hb
    exact .done ⟨hc, congrArg (Except.map fun _ => ds) ho⟩

def Exported.blank (e : Exported) : Exported :=
  { e with file := e.file.map Bytes.blank }

theorem alike_write (v : Log.Verbosity) (m : Machine) (ps : List Pinned) (path : String)
    (i : Image) :
    Procedure.Alike Eq (AnswersAlike hidden) (fun x y => x.blank = y.blank) (write v m ps path i)
      (write v m ps path i) := by
  unfold write
  refine Procedure.alike_tell (Procedure.alike_tell ?_)
  cases Archive.create m path with
  | error e => exact .done rfl
  | ok a =>
    refine Procedure.alike_bind (alike_addEntries v ps i rfl) ?_
    rintro ⟨b, o⟩ ⟨b', _⟩ ⟨hb, rfl⟩
    cases o with
    | error e =>
      refine .done ?_
      simp only [Exported.blank, Option.map_some, Archive.ended_congr hb]
    | ok ds =>
      refine Procedure.alike_tell (.done ?_)
      simp only [Exported.blank, Option.map_some, Archive.ended_congr hb]

end Bundle

end LayerTransfer
