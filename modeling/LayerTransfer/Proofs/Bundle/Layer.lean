import LayerTransfer.Proofs.Archive.RoundTrip
import LayerTransfer.Proofs.Bundle.Name
import LayerTransfer.Proofs.Procedure.Yields

namespace LayerTransfer.Bundle

open Name Transport
open Archive (Member whole opening)
open Blob.Stream (collect delivered resumed)

/-- A layer that has been read, with all its content. -/
structure Shipped where
  reference : Pinned
  size : UInt64
  stream : Blob.Stream
  content : Bytes
  content_eq : collect (resumed stream.chunks) = .ok content
  size_eq : content.length = size.toNat

abbrev CallExchange := Exchanged Call Call.Reply

namespace Shipped

def descriptor (x : Shipped) : Descriptor := ⟨.dockerLayer, x.size, x.reference.digest⟩

def name (x : Shipped) : Bytes := Bytes.ofText (layerEntry x.reference.digest)

def exchanges (x : Shipped) : List CallExchange :=
  [⟨.connect x.reference.repository, .ok ()⟩,
    ⟨.size x.reference.repository x.reference.digest, .ok x.size⟩,
    ⟨.fetch x.reference.repository (.layer x.reference.digest), .ok x.stream⟩]

def octets (x : Shipped) : Bytes := whole x.name x.content

def member (x : Shipped) : Member := .plain x.name x.content

end Shipped

/-- How a layer fails: the calls up to the failing one, the failure, and what it leaves in the
archive at a path. -/
inductive Failing (path : String) (p : Pinned) :
    List CallExchange → TransferError → Bytes → Prop
  | refused (e : TransferError) :
      Failing path p [⟨.connect p.repository, .error e⟩] e []
  | unsized (e : TransferError) :
      Failing path p
        [⟨.connect p.repository, .ok ()⟩, ⟨.size p.repository p.digest, .error e⟩] e []
  | unfetched (size : UInt64) (e : TransferError) :
      Failing path p
        [⟨.connect p.repository, .ok ()⟩, ⟨.size p.repository p.digest, .ok size⟩,
          ⟨.fetch p.repository (.layer p.digest), .error e⟩] e []
  | torn (size : UInt64) (stream : Blob.Stream) (content : Bytes) (f : Archive.ContentFault)
      (hf : f.Explains size.toNat 0 (resumed stream.chunks))
      (hp : content <+: delivered (resumed stream.chunks)) (hl : content.length ≤ size.toNat) :
      Failing path p
        [⟨.connect p.repository, .ok ()⟩, ⟨.size p.repository p.digest, .ok size⟩,
          ⟨.fetch p.repository (.layer p.digest), .ok stream⟩]
        (.archive path (some (layerEntry p.digest)) f.message)
        (opening (Bytes.ofText (layerEntry p.digest)) size ++ content)

variable {v : Log.Verbosity} {p : Pinned} {xs : List CallExchange}

theorem yields_ofPinned {o : Outcome Layer} (h : (Layer.ofPinned p).Yields xs o) :
    (∃ e, xs = [⟨.connect p.repository, .error e⟩] ∧ o = .error e) ∨
      xs = [⟨.connect p.repository, .ok ()⟩] ∧
        o = .ok ⟨.remote p.repository p.digest none, some (.pinned p), none⟩ := by
  obtain ⟨e, hp, rfl⟩ | ⟨l, ys, zs, rfl, hp, hw⟩ := Task.yields_bind.1 h
  · obtain ⟨e', hc, he⟩ | ⟨u, ys, zs, rfl, hc, hl⟩ := Task.yields_bind.1 hp
    · cases he
      exact .inl ⟨e, Procedure.yields_single.1 hc, rfl⟩
    · cases (Task.yields_pure.1 hl).2
  · obtain ⟨e', hc, he⟩ | ⟨u, us, vs, rfl, hc, hl⟩ := Task.yields_bind.1 hp
    · cases he
    · obtain ⟨rfl, hl⟩ := Task.yields_pure.1 hl
      obtain ⟨rfl, rfl⟩ := Task.yields_pure.1 hw
      cases hl
      refine .inr ⟨?_, rfl⟩
      rw [Procedure.yields_single.1 hc]
      rfl

theorem yields_readLayer {o : Outcome (Descriptor × Blob.Stream)}
    (h : (readLayer v p).Yields xs o) :
    (∃ e, o = .error e ∧ ∀ path, Failing path p xs e []) ∨
      ∃ size stream, o = .ok (⟨.dockerLayer, size, p.digest⟩, stream) ∧
        xs = [⟨.connect p.repository, .ok ()⟩, ⟨.size p.repository p.digest, .ok size⟩,
          ⟨.fetch p.repository (.layer p.digest), .ok stream⟩] := by
  obtain ⟨e, hl, rfl⟩ | ⟨l, ys, zs, rfl, hl, hsize⟩ := Task.yields_bind.1 h
  · obtain ⟨e', rfl, he⟩ | ⟨-, he⟩ := yields_ofPinned hl
    · cases he
      exact .inl ⟨e, rfl, fun _ => .refused e⟩
    · cases he
  obtain ⟨e', -, he⟩ | ⟨rfl, heq⟩ := yields_ofPinned hl
  · cases he
  cases heq
  obtain ⟨e, hs, rfl⟩ | ⟨size, us, vs, rfl, hs, htell⟩ := Task.yields_bind.1 hsize
  · obtain rfl := Procedure.yields_single.1 hs
    exact .inl ⟨e, rfl, fun _ => .unsized e⟩
  obtain rfl := Procedure.yields_single.1 hs
  have hfetch := Task.yields_tell_bind.1 htell
  obtain ⟨e, hf, rfl⟩ | ⟨stream, us, ws, rfl, hf, hdone⟩ := Task.yields_bind.1 hfetch
  · obtain rfl := Procedure.yields_single.1 hf
    exact .inl ⟨e, rfl, fun _ => .unfetched size e⟩
  obtain rfl := Procedure.yields_single.1 hf
  obtain ⟨rfl, rfl⟩ := Task.yields_pure.1 hdone
  exact .inr ⟨size, stream, rfl, rfl⟩

theorem yields_addLayer {a : Archive} {r : Archive × Outcome Descriptor}
    (h : Procedure.Yields (addLayer v p a) xs r) :
    (∃ x : Shipped, x.reference = p ∧ xs = x.exchanges ∧
      r = (a.extended x.octets, .ok x.descriptor)) ∨
    ∃ e residue, Failing a.path p xs e residue ∧ r = (a.extended residue, .error e) := by
  obtain ⟨o, ys, zs, rfl, hr, hd⟩ := Procedure.yields_bind.1 h
  obtain ⟨e, rfl, hf⟩ | ⟨size, stream, rfl, rfl⟩ := yields_readLayer hr
  · obtain ⟨rfl, rfl⟩ := Procedure.yields_done.1 hd
    rw [List.append_nil]
    exact .inr ⟨e, [], hf a.path, by rw [a.extended_nil]⟩
  have hadd : Procedure.Yields (.done ((a.append (layerEntry p.digest) size stream.chunks).1,
      (a.append (layerEntry p.digest) size stream.chunks).2.map fun _ =>
        ⟨.dockerLayer, size, p.digest⟩)) zs r := hd
  obtain ⟨rfl, rfl⟩ := Procedure.yields_done.1 hadd
  cases ha : (a.append (layerEntry p.digest) size stream.chunks).2 with
  | ok u =>
    obtain ⟨b, hb, hsize, hw⟩ := Archive.append_of_ok ha
    refine .inl ⟨⟨p, size, stream, b, hb, hsize⟩, rfl, rfl, ?_⟩
    rw [hw]
    rfl
  | error e =>
    have hn := (isFileName_layerEntry p.digest).plain
    obtain ⟨hw, f, rfl, hx⟩ := Archive.append_of_error hn ha
    have hp := Archive.copied_prefix size stream.chunks
    have hl := Archive.length_copied_le size stream.chunks
    refine .inr ⟨_, _, .torn size stream _ f hx hp hl, ?_⟩
    rw [hw]
    rfl

/-- What adding layers leads to: all have been shipped, or the first that failed ended it. -/
inductive Advance (path : String) (ps : List Pinned) :
    List CallExchange → Bytes → Outcome (List Descriptor) → Prop
  | complete (ss : List Shipped) (hp : ss.map Shipped.reference = ps) :
      Advance path ps (ss.flatMap Shipped.exchanges) (ss.flatMap Shipped.octets)
        (.ok (ss.map Shipped.descriptor))
  | failed (ss : List Shipped) (p : Pinned) (after : List Pinned) (ys : List CallExchange)
      (e : TransferError) (residue : Bytes) (hp : ps = ss.map Shipped.reference ++ p :: after)
      (hf : Failing path p ys e residue) :
      Advance path ps (ss.flatMap Shipped.exchanges ++ ys)
        (ss.flatMap Shipped.octets ++ residue) (.error (e.forLayer p.text))

theorem Advance.cons {path : String} {ps : List Pinned} {xs : List CallExchange} {b : Bytes}
    {o : Outcome (List Descriptor)} (x : Shipped) (h : Advance path ps xs b o) :
    Advance path (x.reference :: ps) (x.exchanges ++ xs) (x.octets ++ b)
      (o.map (x.descriptor :: ·)) := by
  cases h with
  | complete ss hp => exact .complete (x :: ss) (by rw [List.map_cons, hp])
  | failed ss p after ys e residue hp hf =>
    have hps : x.reference :: ps = (x :: ss).map Shipped.reference ++ p :: after := by
      rw [hp, List.map_cons, List.cons_append]
    have hc := Advance.failed (x :: ss) p after ys e residue hps hf
    rw [List.flatMap_cons, List.flatMap_cons, List.append_assoc, List.append_assoc] at hc
    exact hc

theorem yields_addLayers {total index : Nat} {ps : List Pinned} {a : Archive}
    {r : Archive × Outcome (List Descriptor)}
    (h : Procedure.Yields (addLayers v total index ps a) xs r) :
    ∃ b, Advance a.path ps xs b r.2 ∧ r.1 = a.extended b := by
  induction ps generalizing index a xs r with
  | nil =>
    obtain ⟨rfl, rfl⟩ := Procedure.yields_done.1 h
    exact ⟨[], .complete [] rfl, a.extended_nil.symm⟩
  | cons p ps ih =>
    obtain ⟨q, ys, zs, rfl, hp, hrest⟩ := Procedure.yields_bind.1 (Procedure.yields_tell.1 h)
    obtain ⟨x, rfl, rfl, rfl⟩ | ⟨e, residue, hf, rfl⟩ := yields_addLayer hp
    · obtain ⟨s, us, vs, rfl, hs, hd⟩ := Procedure.yields_bind.1 hrest
      obtain ⟨rfl, rfl⟩ := Procedure.yields_done.1 hd
      obtain ⟨b, hb, hw⟩ := ih hs
      refine ⟨x.octets ++ b, ?_, ?_⟩
      · rw [List.append_nil]
        exact hb.cons x
      · rw [hw, Archive.extended_extended]
    · obtain ⟨rfl, rfl⟩ := Procedure.yields_done.1 hrest
      refine ⟨residue, ?_, rfl⟩
      rw [List.append_nil]
      exact .failed [] p ps ys e residue rfl hf

end LayerTransfer.Bundle
