import LayerTransfer.Proofs.CommandLine.Verbosity
import LayerTransfer.Proofs.Http.Discreet
import LayerTransfer.Proofs.Http.FailFast
import LayerTransfer.Transport.Memory

namespace LayerTransfer.CommandLine

open Http Name Transport

/-! ### Commands -/

def Command.Reads (o : Options) (command : Command) (ref : Reference) : Prop :=
  ∃ text, Reference.parse text o = .ok ref ∧
    ((∃ layers output, command = .export text layers output) ∨
      ∃ destination, command = .copy text destination)

def Written.blank (w : Written) : Written :=
  { w with content := w.content.blank }

def SameEnd (x y : Option Written × Outcome Unit) : Prop :=
  x.1.map Written.blank = y.1.map Written.blank ∧ x.2 = y.2

abbrev RunAlike (c : Client) (hidden : Url → Bool) (Reads : Reference → Prop) (p p' : Run) : Prop :=
  Procedure.Alike Request.Alike (ResponsesAlike c hidden Reads) SameEnd p p'

variable {c : Client} {hidden : Url → Bool} {Reads : Reference → Prop} {o : Options}

theorem alike_noFile {t : Exchange Unit} (h : ExchangeAlike c hidden Reads Eq t t) :
    RunAlike c hidden Reads (noFile t) (noFile t) :=
  Procedure.alike_bind h fun _ _ ho => .done ⟨rfl, Outcome.eq_of_alike ho⟩

theorem alike_readSource {image : String} (layers : List String)
    (hr : ∀ ref, Reference.parse image o = .ok ref → Reads ref) :
    ExchangeAlike c hidden Reads Eq (readSource c o image layers)
      (readSource c o image layers) := by
  refine Task.alike_ofOutcome_bind fun ref href => ?_
  refine Task.alike_ofOutcome_bind fun ps _ => Task.alike_tell_bind ?_
  refine Task.alike_bind (alike_image (hr ref (Outcome.ok_of_mapError href))) ?_
  rintro source _ rfl
  exact Task.alike_tell_bind (Task.alike_pure rfl)

theorem alike_runExport {image : String} (m : Machine) (layers : List String) (path : String)
    (hr : ∀ ref, Reference.parse image o = .ok ref → Reads ref) :
    RunAlike c hidden Reads (runExport c m o image layers path)
      (runExport c m o image layers path) := by
  refine Procedure.alike_bind (alike_readSource layers hr) fun x y h => ?_
  cases Outcome.eq_of_alike h
  cases x with
  | error e => exact .done ⟨rfl, rfl⟩
  | ok source =>
    obtain ⟨i, ps⟩ := source
    refine Procedure.alike_bind
      (Procedure.alike_through alike_serve (Bundle.alike_write c.logger m ps path i.toImage)) ?_
    rintro ⟨file, result⟩ ⟨file', result'⟩ he
    obtain ⟨hfile, hresult⟩ := Bundle.Exported.mk.inj he
    cases (hresult : result = result')
    have hwritten : (file.map fun content => (⟨path, content⟩ : Written)).map Written.blank =
        (file'.map fun content => (⟨path, content⟩ : Written)).map Written.blank := by
      have hpath (f : Option Bytes) :
          (f.map fun content => (⟨path, content⟩ : Written)).map Written.blank =
            (f.map Bytes.blank).map fun content => ⟨path, content⟩ := by
        rw [Option.map_map, Option.map_map]
        rfl
      rw [hpath, hpath]
      exact congrArg _ hfile
    cases result with
    | error e => exact .done ⟨hwritten, rfl⟩
    | ok ds => exact Procedure.alike_tell (.done ⟨hwritten, rfl⟩)

theorem alike_runCopy {source : String} (destination : String)
    (hr : ∀ ref, Reference.parse source o = .ok ref → Reads ref) :
    ExchangeAlike c hidden Reads Eq (runCopy c o source destination)
      (runCopy c o source destination) := by
  refine Task.alike_ofOutcome_bind fun ref href => Task.alike_tell_bind ?_
  refine Task.alike_bind (alike_image (hr ref (Outcome.ok_of_mapError href))) ?_
  rintro image _ rfl
  refine Task.alike_tell_bind ?_
  unfold Push.push
  split
  · exact alike_write _ _
  · exact Task.alike_fail _

theorem alike_runUpload (source destination : String) :
    ExchangeAlike c hidden Reads Eq (runUpload c o source destination)
      (runUpload c o source destination) := by
  refine Task.alike_ofOutcome_bind fun p _ => ?_
  refine Task.alike_bind (alike_reading (Layer.alike_ofPinned p)) ?_
  rintro l _ rfl
  refine Task.alike_tell_bind ?_
  unfold Push.upload
  split
  · exact alike_writeLayer _ _
  · exact Task.alike_fail _

theorem alike_runCommand (m : Machine) (command : Command) :
    RunAlike c hidden (command.Reads o) (runCommand c m o command)
      (runCommand c m o command) := by
  cases command with
  | «export» image layers output =>
    exact alike_runExport m layers output fun ref href =>
      ⟨image, href, .inl ⟨layers, output, rfl⟩⟩
  | copy source destination =>
    exact alike_noFile (alike_runCopy destination fun ref href =>
      ⟨source, href, .inr ⟨destination, rfl⟩⟩)
  | upload source destination => exact alike_noFile (alike_runUpload source destination)

theorem alike_whole (m : Machine) (s : Settings) (command : Command) :
    RunAlike (client s) hidden (command.Reads s.nameOptions) (whole m s command)
      (whole m s command) := by
  refine Procedure.alike_bind (V := SameEnd) (Procedure.alike_tell (Procedure.alike_tell ?_)) ?_
  · refine Procedure.alike_bind (alike_runCommand m command) ?_
    rintro ⟨file, o⟩ ⟨file', _⟩ ⟨hfile, rfl⟩
    cases o with
    | error e => exact .done ⟨hfile, rfl⟩
    | ok u => exact Procedure.alike_tell (.done ⟨hfile, rfl⟩)
  · rintro ⟨file, o⟩ ⟨file', _⟩ ⟨hfile, rfl⟩
    unfold ending
    simp only
    induction closing o with
    | nil => exact .done ⟨hfile, rfl⟩
    | cons message more ih => exact Procedure.alike_tell ih

/-! ### Redactions -/

theorem redaction_of_content {σ : Type} (server : Server Call Call.Reply σ) (st : σ)
    (r : Repository) (d : Digest) (listed : Option Descriptor) {q : Call}
    (h : q ∈ Event.questions
      (Procedure.run server st (Blob.remote r d listed).content.run).2.1) :
    ∃ b : BlobRequest, q = .fetch r b ∧ b.digest = d ∧ b.redaction = some .binaryBlob := by
  have hasked : Event.questions
      (Procedure.run server st (Blob.remote r d listed).content.run).2.1 =
        [.fetch r (.layer d)] := rfl
  rw [hasked] at h
  exact ⟨.layer d, List.mem_singleton.1 h, rfl, rfl⟩

theorem redaction_of_fetch {σ : Type} (net : Network σ) (st : σ) (c : Client) (r : Repository)
    (b : BlobRequest) {s : Blob.Stream} (h : (Procedure.run net st (c.fetch r b).run).1 = .ok s) :
    s.redaction = b.redaction := by
  have hmark : (c.fetch r b).Ensures (fun _ => True) (fun s => s.redaction = b.redaction)
      TransferError.IsRegistry := by
    refine Task.ensures_ofOutcome_bind (fun e => isRegistry_of_endpoint) fun u _ => ?_
    refine Task.ensures_tell_bind ?_
    refine ensures_exchange (q := c.request .get u) trivial fun t _ => ?_
    exact Task.ensures_pure rfl
  have hyields := Task.yields_run net st (c.fetch r b)
  rw [h] at hyields
  exact (hmark.of_yields hyields).2

theorem redaction_of_answerFor {m : Memory} {r : Repository} {b : BlobRequest} {s : Blob.Stream}
    (h : m.answer (.fetch r b) = .ok s) : s.redaction = b.redaction := by
  simp only [Memory.answer] at h
  split at h
  · cases h
  · unfold Memory.answerFor at h
    split at h
    · cases h
    · cases h
      rfl

/-! ### Whole runs -/

/-- Layer content is not shown. Registries that behave alike but for the octets of layers, which
come in chunks of the same lengths and break off alike, cannot be told apart by what a command, a
bundle or a push prints at any verbosity, by what it asks, apart from the bodies of uploads, or by
its result. The content of a remote layer is marked from the request to the stream, and what is
shown of a marked body does not depend on it. -/
theorem content_never_shown (c : Client) (m : Machine) :
    (∀ {σ τ : Type} {R : σ → τ → Prop} {hidden : Url → Bool} {net : Network σ} {net' : Network τ}
      (s : Settings) (command : Command),
      Network.Twins (client s) hidden (command.Reads s.nameOptions) R net net' →
      ∀ st st', R st st' →
      Procedure.Indistinct Request.Alike SameEnd (Procedure.run net st (whole m s command))
        (Procedure.run net' st' (whole m s command))) ∧
    (∀ {σ τ : Type} {R : σ → τ → Prop} {hidden : Repository → Digest → Bool}
      {server : Server Call Call.Reply σ} {server' : Server Call Call.Reply τ} (ps : List Pinned)
      (path : String) (i : Image),
      Transport.Twins hidden R server server' → ∀ st st', R st st' → ∀ v,
      Procedure.Indistinct Eq (fun x y => x.blank = y.blank)
        (Procedure.run server st (Bundle.write v m ps path i))
        (Procedure.run server' st' (Bundle.write v m ps path i))) ∧
    (∀ {σ τ : Type} {R : σ → τ → Prop} {hidden : Url → Bool} {net : Network σ} {net' : Network τ},
      Network.Twins c hidden (fun _ => False) R net net' →
      ∀ st st', R st st' →
      (∀ ref i, Procedure.Indistinct Request.Alike Eq (Procedure.run net st (c.write ref i).run)
        (Procedure.run net' st' (c.write ref i).run)) ∧
      (∀ r l, Procedure.Indistinct Request.Alike Eq (Procedure.run net st (c.writeLayer r l).run)
        (Procedure.run net' st' (c.writeLayer r l).run)) ∧
      ∀ v ps path i, Procedure.Indistinct Request.Alike (fun x y => x.blank = y.blank)
        (Procedure.run net st ((Bundle.write v m ps path i).through c.serve))
        (Procedure.run net' st' ((Bundle.write v m ps path i).through c.serve))) ∧
    (∀ (r : Repository) (d : Digest) (listed : Option Descriptor),
      (∀ {σ : Type} (server : Server Call Call.Reply σ) st,
        ∀ q ∈ Event.questions (Procedure.run server st (Blob.remote r d listed).content.run).2.1,
          ∃ b : BlobRequest, q = .fetch r b ∧ b.digest = d ∧ b.redaction = some .binaryBlob) ∧
      (∀ {σ : Type} (net : Network σ) st s,
        (Procedure.run net st (c.reading (Blob.remote r d listed).content).run).1 = .ok s →
          s.redaction = some .binaryBlob) ∧
      ∀ (held : Memory) s,
        (Procedure.run Memory.server held (Blob.remote r d listed).content.run).1 = .ok s →
          s.redaction = some .binaryBlob) ∧
    ∀ (b b' : Bytes) (mark : Log.Redaction),
      Log.renderBody b (some mark) = Log.renderBody b' (some mark) := by
  refine ⟨fun s command ht st st' hs => ?_, fun ps path i ht st st' hs v => ?_,
    fun ht st st' hs => ⟨fun ref i => ?_, fun r l => ?_, fun v ps path i => ?_⟩,
    fun r d listed => ⟨fun server st q hq => ?_, fun net st s hs => ?_, fun held s hs => ?_⟩,
    fun _ _ _ => rfl⟩
  · exact (alike_whole m s command).indistinct ht hs
  · exact (Bundle.alike_write v m ps path i).indistinct ht hs
  · exact (Procedure.Alike.mono (alike_write ref i) fun _ _ => Outcome.eq_of_alike).indistinct ht hs
  · exact (Procedure.Alike.mono (alike_writeLayer r l) fun _ _ => Outcome.eq_of_alike).indistinct
      ht hs
  · exact (Procedure.alike_through alike_serve
      (Bundle.alike_write v m ps path i)).indistinct ht hs
  · exact redaction_of_content server st r d listed hq
  · have hfetch : c.reading (Blob.remote r d listed).content = c.fetch r (.layer d) :=
      reading_content (l := ⟨.remote r d listed, none, none⟩) rfl
    rw [hfetch] at hs
    exact redaction_of_fetch net st c r (.layer d) hs
  · exact redaction_of_answerFor (r := r) (b := .layer d) hs

/-! ### A copied layer -/

def isLayerAddress (u : Url) : Bool :=
  u.text = "http://[::1]:5000/v2/web/site/" ++ blobPath listedLayer.digest

/-- The responses of a registry with an image whose layer has some content; a copy of the image
lacks the layer, but not the config. -/
def page (content : Bytes) (method : Method) (isManifest : Bool) (u : Url) : Response :=
  match method with
  | .get =>
    { status := 200
      chunks := [if isManifest then listing
        else if isLayerAddress u then content else [0x7b, 0x7d]] }
  | .head =>
    if u.text = "http://[::1]:5000/v2/web/copy/" ++ blobPath listedLayer.digest then
      { status := 404 }
    else { status := 200, headers := [("content-length", Bytes.ofText "3")] }
  | .post => { status := 202, headers := [("location", Bytes.ofText "session")] }
  | .put => { status := 201 }

def serving (content : Bytes) : Network Unit := fun _ q =>
  (.response (page content q.method q.accept.isSome q.url), ())

theorem twins_serving {content content' : Bytes} (h : content.length = content'.length)
    (hr : ∀ ref, Reads ref → ref = siteReference) :
    Network.Twins {} isLayerAddress Reads (fun _ _ => True) (serving content)
      (serving content') where
  states := fun _ _ _ _ _ _ => trivial
  answers := by
    rintro _ _ - q q' hq
    have hm : q.method = q'.method := by
      rw [← Request.outline_method, hq, Request.outline_method]
    have ha : q.accept = q'.accept := by
      rw [← Request.outline_accept, hq, Request.outline_accept]
    refine ⟨?_, ?_⟩
    · simp only [serving, Answer.outline, ← hq.isHidden, ← hm, ← ha, ← hq.url]
      cases ho : q.isHidden isLayerAddress with
      | true =>
        simp only [Request.isHidden, Bool.and_eq_true, decide_eq_true_eq] at ho
        obtain ⟨⟨hget, hplain⟩, haddress⟩ := ho
        simp [page, hget, hplain, haddress, Status.isSuccess, Response.blank,
          Bytes.blank_eq_iff.2 h]
      | false =>
        have hsame : page content q.method q.accept.isSome q.url =
            page content' q.method q.accept.isSome q.url := by
          unfold page
          cases hget : q.method with
          | get =>
            cases hmark : q.accept with
            | some t => rfl
            | none =>
              have hother : isLayerAddress q.url = false := by
                simpa [Request.isHidden, hget, hmark] using ho
              simp [hother]
          | _ => rfl
        simp [hsame]
    · rintro ref href raw m ⟨u, s, hu, hask, hs, -, -, hraw⟩ hparse
      cases hr ref href
      have hlisting : Manifest.parse listing = .ok ⟨none, listedConfig, [listedLayer]⟩ := by
        decide +kernel
      have hbody : raw = listing := by
        cases (hask : q = _)
        cases hs
        rw [← hraw]
        simp [page]
      rw [hbody, hlisting] at hparse
      cases hparse
      decide +kernel

def copying : Command := .copy "[::1]:5000/web/site:v1" "[::1]:5000/web/copy:v1"

theorem eq_of_copying_reads {ref : Reference}
    (h : copying.Reads ({} : Settings).nameOptions ref) : ref = siteReference := by
  have hparse : Reference.parse "[::1]:5000/web/site:v1" ({} : Settings).nameOptions =
      .ok siteReference := by decide +kernel
  obtain ⟨text, href, ⟨layers, output, hc⟩ | ⟨destination, hc⟩⟩ := h
  · cases hc
  · cases hc
    rw [hparse] at href
    exact (Except.ok.inj href).symm

def copyOf (content : Bytes) :=
  Procedure.run (serving content) () (whole { createFault := fun _ => none } {} copying)

def holding (content : Bytes) : Memory :=
  { blobs := [{ digest := listedLayer.digest, chunks := [.data content], hint := none, size := 3 }] }

theorem twins_holding {content content' : Bytes} (h : content.length = content'.length) :
    Transport.Twins (fun _ _ => true) (fun a b => a = holding content ∧ b = holding content')
      Memory.server Memory.server where
  states := by
    rintro _ _ ⟨rfl, rfl⟩ _ _ _
    exact ⟨rfl, rfl⟩
  answers := by
    rintro _ _ ⟨rfl, rfl⟩ q _ rfl
    have hfind (b : Bytes) (d : Digest) : (holding b).find? d =
        if listedLayer.digest = d then some
          { digest := listedLayer.digest, chunks := [.data b], hint := none, size := 3 }
        else none := by
      by_cases hd : listedLayer.digest = d <;> simp [Memory.find?, holding, hd]
    refine .same ?_
    cases q with
    | connect r => rfl
    | size r d =>
      by_cases hd : listedLayer.digest = d <;>
        simp [Memory.server, Memory.answer, hfind, hd, Memory.answerFor, Call.outline]
    | present r d =>
      by_cases hd : listedLayer.digest = d <;>
        simp [Memory.server, Memory.answer, hfind, hd, Memory.answerFor, Call.outline]
    | fetch r b =>
      by_cases hd : listedLayer.digest = b.digest <;>
        simp [Memory.server, Memory.answer, hfind, hd, Memory.answerFor, Call.outline, Except.map,
          Blob.Stream.blank, Blob.Chunk.blank, Bytes.blank_eq_iff.2 h]

def bundleOf (content : Bytes) :=
  Procedure.run Memory.server (holding content)
    (Bundle.write ⟨true, false⟩ { createFault := fun _ => none }
      [⟨siteReference.repository, listedLayer.digest⟩] "bundle.tar" siteImage.toImage)

def pushOf (content : Bytes) :=
  Procedure.run (serving content) () (Client.write {} copyReference siteImage.toImage).run

/-- Copies, bundles and pushes of layers with different octets look the same, though the octets are
sent and written. -/
theorem copied_content_never_shown :
    Procedure.Indistinct Request.Alike SameEnd (copyOf (Bytes.ofText "abc"))
        (copyOf (Bytes.ofText "xyz")) ∧
      Procedure.Indistinct Eq (fun x y => x.blank = y.blank) (bundleOf (Bytes.ofText "abc"))
        (bundleOf (Bytes.ofText "xyz")) ∧
      Procedure.Indistinct Request.Alike Eq (pushOf (Bytes.ofText "abc"))
        (pushOf (Bytes.ofText "xyz")) ∧
      (bundleOf (Bytes.ofText "abc")).1.file ≠ (bundleOf (Bytes.ofText "xyz")).1.file ∧
      Body.streamed [.data (Bytes.ofText "abc")] ∈
        (Event.questions (pushOf (Bytes.ofText "abc")).2.1).map (·.body) := by
  have hlength : (Bytes.ofText "abc").length = (Bytes.ofText "xyz").length := by decide +kernel
  have hwritten : (bundleOf (Bytes.ofText "abc")).1.file ≠
      (bundleOf (Bytes.ofText "xyz")).1.file := by decide +kernel
  have hsent : Body.streamed [.data (Bytes.ofText "abc")] ∈
      (Event.questions (pushOf (Bytes.ofText "abc")).2.1).map (·.body) := by
    decide +kernel
  obtain ⟨hcommands, hbundles, hpushes, -⟩ :=
    content_never_shown {} { createFault := fun _ => none }
  refine ⟨?_, ?_, ?_, hwritten, hsent⟩
  · exact hcommands {} copying
      (twins_serving hlength fun _ => eq_of_copying_reads) () () trivial
  · exact hbundles _ "bundle.tar" siteImage.toImage (twins_holding hlength) _ _ ⟨rfl, rfl⟩ _
  · exact (hpushes (twins_serving hlength nofun) () () trivial).1 copyReference
      siteImage.toImage

end LayerTransfer.CommandLine
