import LayerTransfer.CommandLine.Runner
import LayerTransfer.Proofs.Bundle.Identity
import LayerTransfer.Proofs.Http.Push
import LayerTransfer.Proofs.Procedure.Muted
import Mathlib.Algebra.Order.BigOperators.Group.List
import Mathlib.Algebra.Order.Ring.Nat

namespace LayerTransfer

namespace Bundle

open Archive (Member whole endMarker)

theorem length_content_le (name content : Bytes) :
    content.length ≤ (whole name content).length := by
  rw [whole, List.length_append, Archive.length_padded]
  omega

namespace Contents

variable {c : Contents}

/-- The octets of all layers together, without anything around them. -/
def layerLength (c : Contents) : Nat := (c.layers.map (·.content.length)).sum

theorem layerLength_le (c : Contents) : c.layerLength ≤ (c.octets ++ endMarker).length := by
  have hlayers : c.layerLength ≤ (c.layers.map (·.octets.length)).sum :=
    List.sum_le_sum fun x _ => length_content_le x.name x.content
  rw [octets, List.append_assoc, List.length_append, List.length_flatMap]
  exact Nat.le_add_right_of_le hlayers

theorem map_size (c : Contents) :
    c.descriptors.map (·.size.toNat) = c.layers.map (·.content.length) := by
  rw [descriptors, List.map_map]
  exact List.map_congr_left fun x _ => x.size_eq.symm

end Contents

end Bundle

namespace CommandLine

open Http Name Transport
open Archive (Member members? endMarker)
open LayerTransfer.Bundle (Contents layerEntry IsDocument)

theorem toNat_foldl_size (ds : List Descriptor) (n : UInt64)
    (h : n.toNat + (ds.map (·.size.toNat)).sum < UInt64.size) :
    (ds.foldl (fun n d => n + d.size) n).toNat = n.toNat + (ds.map (·.size.toNat)).sum := by
  induction ds generalizing n with
  | nil => simp
  | cons d ds ih =>
    rw [List.map_cons, List.sum_cons] at h ⊢
    have hstep : (n + d.size).toNat = n.toNat + d.size.toNat := by
      rw [UInt64.toNat_add]
      exact Nat.mod_eq_of_lt (by simp only [UInt64.size] at h; omega)
    rw [List.foldl_cons, ih _ (by omega), hstep, Nat.add_assoc]

theorem toNat_totalSize {ds : List Descriptor}
    (h : (ds.map (·.size.toNat)).sum < UInt64.size) :
    (totalSize ds).toNat = (ds.map (·.size.toNat)).sum := by
  have hsum := toNat_foldl_size ds 0 (by simpa using h)
  simpa [totalSize] using hsum

variable {σ : Type} {network : Network σ} {s : σ} {c : Client} {m : Machine} {o : Options}
  {image : String} {layers : List String} {path : String} {source : RemoteImage}
  {ps : List Pinned} {ds : List Descriptor}

/-- The run of the bundle in an export, behind what is asked for the image. -/
def bundleRun (network : Network σ) (s : σ) (c : Client) (m : Machine) (o : Options)
    (image : String) (layers : List String) (path : String) (source : RemoteImage)
    (ps : List Pinned) :=
  Procedure.run network (Procedure.run network s (readSource c o image layers).run).2.2
    ((Bundle.write c.logger m ps path source.toImage).through c.serve)

/-- An export whose bundle is complete ends well, and last it tells what is in the bundle, unless it
is quiet. -/
theorem run_runExport_of_ok {content : Bytes}
    (hs : (Procedure.run network s (readSource c o image layers).run).1 = .ok (source, ps))
    (hw : (bundleRun network s c m o image layers path source ps).1 = ⟨some content, .ok ds⟩) :
    (Procedure.run network s (runExport c m o image layers path)).1 =
        (some ⟨path, content⟩, .ok ()) ∧
      (c.logger.quiet = false →
        (Event.messages
          (Procedure.run network s (runExport c m o image layers path)).2.1).getLast? =
          some (bundleSummary path ds)) := by
  rw [bundleRun] at hw
  have hrun : Procedure.run network s (runExport c m o image layers path) =
      let r := Procedure.run network s (readSource c o image layers).run
      let b := Procedure.run network r.2.2
        ((Bundle.write c.logger m ps path source.toImage).through c.serve)
      let e := Procedure.run network b.2.2
        (.tell c.logger (bundleSummary path ds) (.done (some ⟨path, content⟩, .ok ())))
      (e.1, r.2.1 ++ (b.2.1 ++ e.2.1), e.2.2) := by
    simp only [runExport, Procedure.run_bind, hs, hw, Option.map_some]
  rw [hrun]
  refine ⟨Procedure.value_run_tell .., fun hquiet => ?_⟩
  have htold : c.logger.shows (bundleSummary path ds) = true := by
    simp [Log.Verbosity.shows, hquiet, bundleSummary, Log.Message.isMinor]
  simp only [Procedure.tell, htold, if_true, Procedure.run, Event.messages_append,
    Event.messages_printed, ← List.append_assoc]
  exact List.getLast?_concat

/-- An export whose bundle is complete ends well and, unless it is quiet, tells the total of the
sizes that the registry claimed, whatever these are. In the file that it leaves, the layers have
exactly these sizes, so the total is the number of layer octets in the file. It is at most the
length of the file, and in a file of less than 2^64 octets no step of adding it up wraps. -/
theorem exported_total_is_true
    (hs : (Procedure.run network s (readSource c o image layers).run).1 = .ok (source, ps))
    (hw : (bundleRun network s c m o image layers path source ps).1.result = .ok ds) :
    ∃ (content : Bytes) (ms docs : List Member),
      (Procedure.run network s (runExport c m o image layers path)).1 =
        (some ⟨path, content⟩, .ok ()) ∧
      (c.logger.quiet = false →
        (Event.messages
          (Procedure.run network s (runExport c m o image layers path)).2.1).getLast? =
          some (bundleSummary path ds)) ∧
      members? content = some (ms ++ docs, endMarker) ∧
      (∀ x ∈ docs, IsDocument x.label.name) ∧
      ms.map (fun x => (x.label.name, x.content.length)) =
        ds.map (fun d => (Bytes.ofText (layerEntry d.digest), d.size.toNat)) ∧
      (ms.map (·.content.length)).sum ≤ content.length ∧
      (content.length < UInt64.size →
        (totalSize ds).toNat = (ms.map (·.content.length)).sum ∧
        ∀ n, (totalSize (ds.take n)).toNat = ((ds.take n).map (·.size.toNat)).sum) := by
  obtain ⟨xs, hx, -⟩ := Procedure.expands_of_yields_through (Procedure.yields_run network _
    ((Bundle.write c.logger m ps path source.toImage).through c.serve))
  obtain ⟨b, hb, rfl, -, hfile⟩ := Bundle.yields_write_ok hx hw
  have hexported : (bundleRun network s c m o image layers path source ps).1 =
      ⟨some (b.octets ++ endMarker), .ok b.descriptors⟩ := by
    rw [← hfile, ← hw]
    rfl
  obtain ⟨hrun, hlast⟩ := run_runExport_of_ok hs hexported
  have hlength : ((b.layers.map Bundle.Shipped.member).map (·.content.length)).sum =
      b.layerLength := by
    rw [List.map_map]
    rfl
  have hsizes : (b.descriptors.map (·.size.toNat)).sum = b.layerLength :=
    congrArg List.sum b.map_size
  refine ⟨_, b.layers.map Bundle.Shipped.member, _, hrun, hlast,
    Archive.members?_of_spells hb.spells, ?_, ?_, ?_, ?_⟩
  · intro x hx
    obtain ⟨v, hv, rfl⟩ := List.mem_map.1 hx
    exact Contents.isDocument_of_mem hv
  · rw [Contents.descriptors, List.map_map, List.map_map]
    exact List.map_congr_left fun x _ => Prod.ext rfl x.size_eq
  · rw [hlength]
    exact b.layerLength_le
  · intro hcontent
    have htotal : (b.descriptors.map (·.size.toNat)).sum < UInt64.size :=
      hsizes ▸ b.layerLength_le.trans_lt hcontent
    refine ⟨?_, fun n => toNat_totalSize ?_⟩
    · rw [toNat_totalSize htotal, hsizes, hlength]
    · -- the first summands make at most the whole sum
      refine lt_of_le_of_lt ?_ htotal
      exact ((List.take_sublist n _).map _).sum_le_sum fun _ _ => Nat.zero_le _

def siteAnswers : List Answer :=
  [.response { status := 200, chunks := [listing] },
    .response { status := 200, chunks := [[0x7b, 0x7d]] },
    .response { status := 200, headers := [("content-length", Bytes.ofText "3")] },
    .response { status := 200, chunks := [[1], [2, 3]] }]

def siteBlob : Pinned := ⟨siteReference.repository, listedLayer.digest⟩

def siteShipped : Descriptor := ⟨.dockerLayer, 3, listedLayer.digest⟩

def siteExport : (Option Written × Outcome Unit) × List (Event Request fun _ => Answer) ×
    List Answer :=
  Procedure.run Network.scripted siteAnswers
    (runExport {} .emptyDirectory {} siteReference.text [listedLayer.digest.text] "site.tar")

theorem site_total_is_true :
    (Procedure.run Network.scripted siteAnswers
      (readSource {} {} siteReference.text [listedLayer.digest.text]).run).1 =
        .ok (siteImage, [siteBlob]) ∧
    (bundleRun Network.scripted siteAnswers {} .emptyDirectory {} siteReference.text
      [listedLayer.digest.text] "site.tar" siteImage [siteBlob]).1.result = .ok [siteShipped] ∧
    ∃ (content : Bytes) (ms docs : List Member),
      siteExport.1 = (some ⟨"site.tar", content⟩, .ok ()) ∧
      (Event.messages siteExport.2.1).getLast? = some (bundleSummary "site.tar" [siteShipped]) ∧
      members? content = some (ms ++ docs, endMarker) ∧
      (∀ x ∈ docs, IsDocument x.label.name) ∧
      ms.map (fun x => (x.label.name, x.content.length)) =
        [siteShipped].map (fun d => (Bytes.ofText (layerEntry d.digest), d.size.toNat)) ∧
      (ms.map (·.content.length)).sum ≤ content.length ∧
      (content.length < UInt64.size →
        (totalSize [siteShipped]).toNat = (ms.map (·.content.length)).sum ∧
        ∀ n, (totalSize ([siteShipped].take n)).toNat =
          (([siteShipped].take n).map (·.size.toNat)).sum) := by
  have hread : (Procedure.run Network.scripted siteAnswers
      (readSource {} {} siteReference.text [listedLayer.digest.text]).run).1 =
        .ok (siteImage, [siteBlob]) ∧
      (Procedure.run Network.scripted siteAnswers
        (readSource {} {} siteReference.text [listedLayer.digest.text]).run).2.2 =
        siteAnswers.drop 2 := by
    decide +kernel
  have hw : (bundleRun Network.scripted siteAnswers {} .emptyDirectory {} siteReference.text
      [listedLayer.digest.text] "site.tar" siteImage [siteBlob]).1.result = .ok [siteShipped] := by
    rw [bundleRun, hread.2]
    decide +kernel
  obtain ⟨content, ms, docs, hrun, htold, hfile⟩ := exported_total_is_true hread.1 hw
  exact ⟨hread.1, hw, content, ms, docs, hrun, htold rfl, hfile⟩

end CommandLine

end LayerTransfer
