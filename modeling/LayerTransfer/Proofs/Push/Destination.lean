import LayerTransfer.Http.Push
import LayerTransfer.Proofs.Name.Refusal

namespace LayerTransfer.Push

open Name

variable {m : Type → Type} {ρ : Type} [Monad m] [MonadExceptOf TransferError m] {t : String}
  {o : Options} {e : TransferError}

theorem push_of_refused (h : readName (Reference.parse t o) = .error e) (w : Writer m ρ)
    (i : Image) : push w i t o = throw e := by
  unfold push
  rw [h]

theorem upload_of_refused (h : readName (Repository.parse t o) = .error e) (w : Writer m ρ)
    (l : Layer) : upload w l t o = throw e := by
  unfold upload
  rw [h]

/-- A text that is no repository, tag, digest or reference is refused as a name, and the refusal
tells the whole text without the blanks around it, whichever part is at fault. A destination that is
refused ends a push or an upload with that error, whatever the writer and the image or layer are. So
a push over HTTP tells nothing and sends nothing. -/
theorem refused_destination_ends_push :
    RefusesWhole Repository.parse ∧ RefusesWhole Tagged.parse ∧ RefusesWhole Pinned.parse ∧
    RefusesWhole Reference.parse ∧
    (∀ (m : Type → Type) (ρ : Type) [Monad m] [MonadExceptOf TransferError m] (w : Writer m ρ)
      (t : String) (o : Options) (e : TransferError),
      (readName (Reference.parse t o) = .error e → ∀ i, push w i t o = throw e) ∧
      (readName (Repository.parse t o) = .error e → ∀ l, upload w l t o = throw e)) ∧
    (∀ (σ : Type) (net : Http.Network σ) (s : σ) (c : Http.Client) (t : String) (o : Options)
      (e : TransferError),
      (readName (Reference.parse t o) = .error e →
        ∀ i, (push c.writer i t o).run.run net s = (.error e, [], s)) ∧
      (readName (Repository.parse t o) = .error e →
        ∀ l, (upload c.writer l t o).run.run net s = (.error e, [], s))) := by
  refine ⟨refusesWhole_of_attach Repository.parse_eq, refusesWhole_of_attach Tagged.parse_eq,
    refusesWhole_of_attach Pinned.parse_eq, refusesWhole_of_attach Reference.parse_eq, ?_, ?_⟩
  · intro m ρ _ _ w t o e
    exact ⟨fun h => push_of_refused h w, fun h => upload_of_refused h w⟩
  · intro σ net s c t o e
    constructor
    · intro h i
      rw [push_of_refused h]
      rfl
    · intro h l
      rw [upload_of_refused h]
      rfl

def loudApp : String := "\tghcr.io/Team/app:v1 "

/-- What is wrong is the path, and the error tells the tag too. -/
theorem loudApp_ends_push :
    Repository.parse "ghcr.io/Team/app" {} = .error ⟨"ghcr.io/Team/app", .repository⟩ ∧
    readName (Reference.parse loudApp {}) =
      .error (.reference ⟨"ghcr.io/Team/app:v1", .repository⟩) ∧
    (∃ fault, TransferError.reference ⟨"ghcr.io/Team/app:v1", .repository⟩ =
      .reference ⟨Text.Blank.trimText loudApp, fault⟩) ∧
    readName (Repository.parse loudApp {}) =
      .error (.reference ⟨"ghcr.io/Team/app:v1", .repository⟩) ∧
    (∀ i, (push (Http.Client.writer {}) i loudApp {}).run.run Http.Network.offline () =
      (.error (.reference ⟨"ghcr.io/Team/app:v1", .repository⟩), [], ())) ∧
    (∀ l, (upload (Http.Client.writer {}) l loudApp {}).run.run Http.Network.offline () =
      (.error (.reference ⟨"ghcr.io/Team/app:v1", .repository⟩), [], ())) := by
  obtain ⟨-, -, -, hwhole, -, hpush⟩ := refused_destination_ends_push
  have hr : readName (Reference.parse loudApp {}) =
      .error (.reference ⟨"ghcr.io/Team/app:v1", .repository⟩) := by rfl
  have hp : readName (Repository.parse loudApp {}) =
      .error (.reference ⟨"ghcr.io/Team/app:v1", .repository⟩) := by rfl
  obtain ⟨hpushed, huploaded⟩ := hpush Unit Http.Network.offline () {} loudApp {} _
  exact ⟨by rfl, hr, hwhole loudApp {} _ hr, hp, hpushed hr, huploaded hp⟩

end LayerTransfer.Push
