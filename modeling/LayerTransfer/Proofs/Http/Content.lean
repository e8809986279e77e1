import LayerTransfer.Proofs.Http.Transfer

namespace LayerTransfer.Http

open Name Transport Push
open Blob.Stream (collect delivered delivered_of_collect)

theorem Delivery.complete_cut (n : Nat) (cs : List Blob.Chunk) :
    (Delivery.cut n cs).complete = true ↔ n ≤ (delivered cs).length := by
  induction cs generalizing n with
  | nil => cases n <;> simp [cut, delivered]
  | cons x r ih =>
    cases n with
    | zero => simp [cut]
    | succ n =>
      cases x with
      | failure text | interrupted text => simp [cut, delivered]
      | data b =>
        rw [cut, delivered, List.length_append]
        split
        · next hn => simp; omega
        · next hn =>
          simp only [ih]
          omega

variable {c : Client} {r : Repository} {l : Layer} {base start : Url} {xs : List Sent}

theorem Sending.put {o : Outcome Unit} (h : Sending c l start xs o) {x : Sent} (hx : x ∈ xs)
    (hm : x.1.method = .put) :
    ∃ us vs size stream, xs = us ++ vs ++ [x] ∧ (c.reading l.size).Yields us (.ok size) ∧
      (c.reading l.content).Yields vs (.ok stream) ∧ x.1 = c.sending l start size stream := by
  obtain ⟨reads, hreads, ⟨rfl, -⟩ | ⟨size, stream, a, rfl, -, us, vs, rfl, hs, hc⟩⟩ := h.split
  · exact absurd hm (ne_of_reading (hreads x hx)).2
  · rcases List.mem_append.1 hx with hx | hx
    · exact absurd hm (ne_of_reading (hreads x hx)).2
    · rw [List.mem_singleton] at hx
      exact ⟨us, vs, size, stream, by rw [hx], hs, hc, by rw [hx]⟩

theorem Course.put {o : Outcome Unit} (h : Course c r l base xs o) {x : Sent} (hx : x ∈ xs)
    (hm : x.1.method = .put) : ∃ start ys, ys <:+ xs ∧ x ∈ ys ∧ Sending c l start ys o := by
  cases h with
  | unknown e hmiss => simp [hmiss.request x hx] at hm
  | there s => simp [List.mem_singleton.1 hx] at hm
  | unopened s hq hs ho =>
    rcases List.mem_cons.1 hx with rfl | hx
    · simp at hm
    · simp [ho.method x hx] at hm
  | mounted s hq hs ho =>
    rcases List.mem_cons.1 hx with rfl | hx
    · simp at hm
    · simp [ho.method x hx] at hm
  | @sent us ys start _ s hq hs ho hy =>
    rcases List.mem_cons.1 hx with rfl | hx
    · simp at hm
    rcases List.mem_append.1 hx with hx | hx
    · simp [ho.method x hx] at hm
    · exact ⟨start, ys, (List.suffix_append us ys).trans (List.suffix_cons ..), hx, hy⟩

variable {σ : Type}

theorem responded {lib : Library} {net : Network σ} {s : σ} {α : Type}
    {p : Procedure Request (fun _ => Answer) α} {us : List Sent} {x : Sent}
    {t : Response} (hu : Trail Library.maxRedirects x us)
    (hus : us ⊆ Event.exchanges (lib.run net s p).2.1) (hx : x.2 = .response t) :
    ∃ s' t', (net s' x.1).1 = .response t' := by
  obtain ⟨answer, rest, rfl⟩ := hu.eq_cons
  obtain ⟨t', ht'⟩ := (hu.answered hx).1 _ (List.mem_cons_self ..)
  have hanswered : ∀ y ∈ Event.exchanges (lib.run net s p).2.1,
      ∃ s', True ∧ (net s' y.1).1 = y.2 :=
    Procedure.answered_run (fun _ _ _ => trivial) trivial (p.through lib.carry)
  obtain ⟨s', -, hs'⟩ := hanswered _ (hus (List.mem_cons_self ..))
  exact ⟨s', t', hs'.trans ht'⟩

/-- An upload announces the size that was read and offers all of the content, of which the library
sends a front. A library that cuts at the announced length sends as much as was announced. If
servers await that, an upload succeeds only if the content is as long at least, so that content that
ends or breaks before never succeeds, and it carries all of the content exactly if the size is
right. -/
theorem upload_carries_front (lib : Library) (c : Client) (net : Network σ) (s : σ)
    (r : Repository) (l : Layer) :
    ∃ xs, Carried xs (Event.exchanges (lib.run net s (c.writeLayer r l).run).2.1) ∧
      ∀ x ∈ xs, x.1.method = .put → ∃ us vs size stream,
        us ++ vs ++ [x] <:+ xs ∧ (c.reading l.size).Yields us (.ok size) ∧
        (c.reading l.content).Yields vs (.ok stream) ∧
        x.1.contentLength = some size ∧ x.1.body = .streamed stream.chunks ∧
        (lib.deliver x.1).octets <+: delivered stream.chunks ∧
        (lib.CutsAtLength →
          (lib.deliver x.1).octets = (delivered stream.chunks).take size.toNat ∧
          (net.AwaitsBodies lib → (lib.run net s (c.writeLayer r l).run).1 = .ok () →
            size.toNat ≤ (delivered stream.chunks).length ∧
            (lib.deliver x.1).octets.length = size.toNat ∧
            ∀ b, collect stream.chunks = .ok b →
              ((lib.deliver x.1).octets = b ↔ b.length = size.toNat))) := by
  obtain ⟨xs, hy, hc⟩ := lib.carried_run net s (c.writeLayer r l).run
  refine ⟨xs, hc, fun x hx hm => ?_⟩
  obtain ⟨rfl, -⟩ | ⟨base, -, hcourse⟩ := course_of_yields_writeLayer hy
  · simp at hx
  obtain ⟨start, ys, hsuffix, hx, hsending⟩ := hcourse.put hx hm
  obtain ⟨us, vs, size, stream, rfl, hs, hread, hq⟩ := hsending.put hx hm
  have hlength : x.1.contentLength = some size := by rw [hq]; rfl
  have hbody : x.1.body = .streamed stream.chunks := by rw [hq]; rfl
  have hfront : (lib.deliver x.1).octets <+: delivered stream.chunks := by
    have h := lib.fronts x.1
    rwa [hbody] at h
  refine ⟨us, vs, size, stream, hsuffix, hs, hread, hlength, hbody, hfront, fun hcuts => ?_⟩
  have hdeliver : lib.deliver x.1 = .cut size.toNat stream.chunks := by
    rw [hcuts x.1 size hlength, hbody]
    rfl
  rw [hdeliver, Delivery.octets_cut]
  refine ⟨rfl, fun hawaits hok => ?_⟩
  -- the one put of the run has been answered, and so its body was complete
  obtain ⟨z, hz, hput, t, ht, -⟩ := hsending.ok_iff.1 hok
  obtain ⟨us', vs', size', stream', hxs, -, -, hq'⟩ := hsending.put hz hput
  obtain ⟨-, hxz⟩ := List.append_inj' hxs rfl
  cases hxz
  obtain ⟨before, rfl⟩ := hsuffix
  rw [← List.append_assoc] at hc
  obtain ⟨front, trail, hws, -, htrail⟩ := hc.split
  have hus : trail ⊆ Event.exchanges (lib.run net s (c.writeLayer r l).run).2.1 := by
    rw [hws]
    exact List.subset_append_right ..
  obtain ⟨s', t', hs'⟩ := responded htrail.single hus ht
  have hcomplete := hawaits s' x.1 t' hs'
  rw [hdeliver, Delivery.complete_cut] at hcomplete
  refine ⟨hcomplete, by rw [List.length_take]; omega, fun b hb => ?_⟩
  rw [delivered_of_collect hb] at hcomplete ⊢
  constructor
  · intro he
    have hl := congrArg List.length he
    rw [List.length_take] at hl
    omega
  · intro hl
    exact List.take_of_length_le (by omega)

def awaited :=
  Library.usual.run (Network.scripted.awaiting Library.usual) declining
    (Client.writeLayer {} copyReference.repository heldLayer).run

theorem awaited_carries_all : awaited.1 = .ok () ∧ Library.usual.CutsAtLength ∧
    (Network.scripted.awaiting Library.usual).AwaitsBodies Library.usual ∧
    ∃ x ∈ Event.exchanges awaited.2.1, x.1.method = .put ∧
      (Library.usual.deliver x.1).octets = [1, 2, 3] ∧
      ∃ (size : UInt64) (stream : Blob.Stream), x.1.contentLength = some size ∧
        x.1.body = .streamed stream.chunks ∧
        (Library.usual.deliver x.1).octets = (delivered stream.chunks).take size.toNat ∧
        size.toNat ≤ (delivered stream.chunks).length := by
  have hrun : awaited.1 = .ok () ∧ (∀ y ∈ Event.exchanges awaited.2.1, y.2.isRedirect = false) ∧
      ∃ x ∈ Event.exchanges awaited.2.1, x.1.method = .put ∧
        (Library.usual.deliver x.1).octets = [1, 2, 3] := by
    decide +kernel
  obtain ⟨ho, hdirect, x, hx, hm, hoctets⟩ := hrun
  have hcuts := Library.cutsAtLength_usual
  have hawaits := Network.scripted.awaitsBodies_awaiting Library.usual
  unfold awaited at ho hdirect hx ⊢
  obtain ⟨xs, hc, hputs⟩ := upload_carries_front Library.usual {}
    (Network.scripted.awaiting Library.usual) declining copyReference.repository heldLayer
  obtain ⟨us, vs, size, stream, -, -, -, hlength, hbody, -, hfront⟩ :=
    hputs x (hc.eq_of_direct hdirect ▸ hx) hm
  obtain ⟨htake, hok⟩ := hfront hcuts
  exact ⟨ho, hcuts, hawaits, x, hx, hm, hoctets, size, stream, hlength, hbody, htake,
    (hok hawaits ho).1⟩

def elsewhere : Layer where
  blob := .remote siteReference.repository listedLayer.digest none

/-- The registry says that the layer has two octets, and delivers three. -/
def overrunning : List Answer :=
  [.response { status := 404 },
    .response { status := 202, headers := [("location", Bytes.ofText "session")] },
    .response { status := 200, headers := [("content-length", Bytes.ofText "2")] },
    .response { status := 200, chunks := [Bytes.ofText "abc"] },
    .response { status := 201 }]

def overrun :=
  Library.usual.run (Network.scripted.awaiting Library.usual) overrunning
    (Client.writeLayer {} copyReference.repository elsewhere).run

/-- Content that is longer than its size is cut, and the upload succeeds. -/
theorem overrun_is_cut : overrun.1 = .ok () ∧
    (Event.exchanges overrun.2.1).map (·.2) = overrunning ∧
    (Event.exchanges overrun.2.1).map
        (fun x => (x.1.method, x.1.contentLength, (Library.usual.deliver x.1).octets)) =
      [(.head, none, []), (.post, some 0, []), (.head, none, []), (.get, none, []),
        (.put, some 2, Bytes.ofText "ab")] ∧
    (Event.exchanges overrun.2.1).getLast?.map (·.1.body) =
      some (.streamed [.data (Bytes.ofText "abc")]) := by
  decide +kernel

end LayerTransfer.Http
