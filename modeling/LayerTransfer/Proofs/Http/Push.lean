import LayerTransfer.Proofs.Http.Course
import LayerTransfer.Proofs.Http.Library

namespace LayerTransfer.Http

open Name Transport Push

/-- Whether an exchange puts a manifest at a reference. -/
def IsManifestPut (c : Client) (r : Reference) (x : Sent) : Prop :=
  x.1.method = .put ∧ ∃ u, endpoint r.repository (manifestPath r) = .ok u ∧
    x.1.url = (c.request .put u).url

/-- Whether the answer to a request, which may have asked for a mount, is where to send a blob. -/
def Opens (c : Client) (r : Repository) (d : Digest) (start : Url) (x : Sent) : Prop :=
  ∃ base s, endpoint r uploadsPath = .ok base ∧
    (x.1 = c.post base ∨
      ∃ source, x.1 = c.post ((base.addPair "mount" d.text).addPair "from" source)) ∧
    x.2 = .response s ∧ s.status = 202 ∧ location base r s = .ok start

/-- How exchanges tell that a blob is in a repository: it was there, was mounted, or was sent. -/
inductive Confirmed (c : Client) (r : Repository) (d : Digest) (xs : List Sent) : Prop
  | present (u : Url) (x : Sent) (hx : x ∈ xs) (hu : endpoint r (blobPath d) = .ok u)
      (hq : x.1 = c.request .head u) (ha : Accepted Status.isSuccess x)
  | mounted (base : Url) (source : String) (x : Sent) (hx : x ∈ xs)
      (hb : endpoint r uploadsPath = .ok base)
      (hq : x.1 = c.post ((base.addPair "mount" d.text).addPair "from" source))
      (ha : Accepted (· == 201) x)
  | uploaded (start : Url) (x y : Sent) (hxy : [x, y].Sublist xs) (hx : Opens c r d start x)
      (hm : y.1.method = .put)
      (hu : y.1.url = (c.request .put (start.addPair "digest" d.text)).url)
      (ha : Accepted Status.isSuccess y)

theorem Confirmed.mono {c : Client} {r : Repository} {d : Digest} {xs ys : List Sent}
    (h : Confirmed c r d xs) (hs : xs.Sublist ys) : Confirmed c r d ys := by
  cases h with
  | present u x hx hu hq ha => exact .present u x (hs.subset hx) hu hq ha
  | mounted base source x hx hb hq ha => exact .mounted base source x (hs.subset hx) hb hq ha
  | uploaded start x y hxy hx hm hu ha =>
    exact .uploaded start x y (hxy.trans hs) hx hm hu ha

/-- Whether a request puts no manifest anywhere. What it puts, if anything, cannot be sent again. -/
def Request.IsQuiet (q : Request) : Prop :=
  q.method = .put → q.body.isHeld = false ∧ q.url.query ≠ none

theorem not_isManifestPut {c : Client} {r : Reference} {x : Sent} (h : x.1.IsQuiet) :
    ¬IsManifestPut c r x := by
  rintro ⟨hm, u, hu, hx⟩
  apply (h hm).2
  rw [hx, Client.request_query]
  exact query_of_manifest_endpoint hu

theorem isQuiet_of_ne {q : Request} (h : q.method ≠ .put) : q.IsQuiet := fun hm => absurd hm h

/-- A redirect makes no put out of another request, and none of a body that is gone. -/
theorem isQuiet_of_redirects {q next : Request} {s : Response} (hq : q.IsQuiet)
    (h : Redirects q s next) : next.IsQuiet := by
  obtain ⟨hm, hheld, -⟩ | ⟨hm, -⟩ := h.body
  · intro hput
    obtain ⟨hgone, -⟩ := hq (hm ▸ hput)
    rw [hheld] at hgone
    cases hgone
  · refine isQuiet_of_ne ?_
    obtain hm | ⟨hm, -⟩ := hm
    · simp [hm]
    · simp [hm]

theorem Carried.isQuiet {xs ws : List Sent} (h : Carried xs ws) (hxs : ∀ x ∈ xs, x.1.IsQuiet) :
    ∀ y ∈ ws, y.1.IsQuiet :=
  h.forall_request (fun _ _ _ => isQuiet_of_redirects) hxs

theorem query_addPair (u : Url) (key value : String) : (u.addPair key value).query ≠ none := by
  rw [Url.addPair]
  cases u.query <;> simp

/-! ### Uploads -/

variable {c : Client} {r : Repository} {d : Digest} {l : Layer} {base start : Url}
  {xs : List Sent}

theorem opening_eq (c : Client) (r : Repository) (l : Layer) (base : Url) :
    c.opening r l base = c.post base ∨ ∃ source, c.opening r l base =
      c.post ((base.addPair "mount" l.digest.text).addPair "from" source) := by
  unfold Client.opening openingUrl
  cases mountSource l r with
  | none => exact .inl rfl
  | some source => exact .inr ⟨source.name, rfl⟩

theorem Opened.opens (hb : endpoint r uploadsPath = .ok base)
    (h : Opened c r l base xs (.ok (some start))) : ∃ x ∈ xs, Opens c r l.digest start x := by
  cases h with
  | session s start hq hs hl =>
    exact ⟨_, List.mem_singleton_self _, base, s, hb, opening_eq c r l base, rfl, hs, hl⟩

theorem Opened.confirmed (hb : endpoint r uploadsPath = .ok base)
    (h : Opened c r l base xs (.ok none)) : Confirmed c r l.digest xs := by
  cases h with
  | mounted s source hq hr hs =>
    refine .mounted base source.name _ (List.mem_singleton_self _) hb ?_ ⟨s, rfl, by simpa using hs⟩
    rw [Client.opening, openingUrl, hr]

theorem Opened.isQuiet {o : Outcome (Option Url)} (h : Opened c r l base xs o) :
    ∀ x ∈ xs, x.1.IsQuiet := by
  obtain ⟨rfl, -⟩ | ⟨a, rfl⟩ := h.request
  · simp
  · simpa using isQuiet_of_ne (q := c.opening r l base) (by simp)

/-- Whatever address the registry names, the digest is added to its query. -/
theorem isQuiet_sending {size : UInt64} {stream : Blob.Stream} :
    (c.sending l start size stream).IsQuiet := by
  intro _
  exact ⟨rfl, (c.request_query .put _).trans_ne (query_addPair start "digest" l.digest.text)⟩

theorem Sending.isQuiet {o : Outcome Unit} (h : Sending c l start xs o) : ∀ x ∈ xs, x.1.IsQuiet := by
  obtain ⟨reads, hreads, ⟨rfl, -⟩ | ⟨size, stream, a, rfl, -⟩⟩ := h.split
  · exact fun x hx => isQuiet_of_ne (ne_of_reading (hreads x hx)).2
  · intro x hx
    rcases List.mem_append.1 hx with hx | hx
    · exact isQuiet_of_ne (ne_of_reading (hreads x hx)).2
    · rw [List.mem_singleton.1 hx]
      exact isQuiet_sending

/-- Bringing a blob puts no manifest, and succeeds only once the blob is confirmed. -/
theorem yields_writeLayer {o : Outcome Unit} (h : (c.writeLayer r l).Yields xs o) :
    (∀ x ∈ xs, x.1.IsQuiet) ∧ (o = .ok () → Confirmed c r l.digest xs) := by
  obtain ⟨rfl, -, ho⟩ | ⟨base, hb, hcourse⟩ := course_of_yields_writeLayer h
  · exact ⟨by simp, fun h => absurd h ho⟩
  have hu := endpoint_of_endpoint isPlainPath_uploadsPath (isPlainPath_blobPath l.digest) hb
  have hask : (c.asking r l base).IsQuiet := isQuiet_of_ne (by simp)
  cases hcourse with
  | unknown e hm =>
    refine ⟨fun x hx => isQuiet_of_ne ?_, by simp⟩
    simp [hm.request x hx]
  | there s hq hs =>
    refine ⟨by simpa using hask, fun _ => ?_⟩
    exact .present _ _ (List.mem_singleton_self _) hu rfl ⟨s, rfl, hs⟩
  | unopened s hq hs ho => exact ⟨List.forall_mem_cons.2 ⟨hask, ho.isQuiet⟩, by simp⟩
  | mounted s hq hs ho =>
    refine ⟨List.forall_mem_cons.2 ⟨hask, ho.isQuiet⟩, fun _ => ?_⟩
    exact (ho.confirmed hb).mono (List.sublist_cons_self ..)
  | @sent us vs next _ s hq hs ho hy =>
    refine ⟨List.forall_mem_cons.2 ⟨hask, List.forall_mem_append.2 ⟨ho.isQuiet, hy.isQuiet⟩⟩, ?_⟩
    intro hok
    -- the exchange that opened the upload stands before the put
    obtain ⟨x, hx, hstart⟩ := ho.opens hb
    obtain ⟨reads, -, ⟨-, hne⟩ | ⟨size, stream, a, rfl, hiff, -⟩⟩ := hy.split
    · exact absurd hok hne
    have ha := hiff.1 hok
    have hput : [(⟨c.sending l next size stream, a⟩ : Sent)].Sublist
        (reads ++ [⟨c.sending l next size stream, a⟩]) := List.sublist_append_right ..
    have hxy := (List.singleton_sublist.2 hx).append hput
    have hconfirmed : Confirmed c r l.digest (us ++ (reads ++ [⟨c.sending l next size stream, a⟩])) :=
      .uploaded next x _ hxy hstart (by simp) rfl ha
    exact hconfirmed.mono (List.sublist_cons_self ..)

theorem yields_writeLayers {total index : Nat} {ls : List Layer} {o : Outcome Unit}
    (h : (c.writeLayers r total index ls).Yields xs o) :
    (∀ x ∈ xs, x.1.IsQuiet) ∧ (o = .ok () → ∀ l ∈ ls, Confirmed c r l.digest xs) := by
  induction ls generalizing index xs with
  | nil =>
    obtain ⟨rfl, -⟩ := Task.yields_pure.1 h
    simp
  | cons l ls ih =>
    have hstep := Task.yields_tell_bind.1 h
    obtain ⟨e, hl, rfl⟩ | ⟨u, ys, zs, rfl, hl, hmore⟩ := Task.yields_bind.1 hstep
    · obtain ⟨o', hl, -⟩ := Task.yields_forLayer.1 hl
      exact ⟨(yields_writeLayer hl).1, by simp⟩
    obtain ⟨o', hl, ho⟩ := Task.yields_forLayer.1 hl
    obtain ⟨hquiet, hconfirmed⟩ := yields_writeLayer hl
    obtain ⟨hquiets, hrest⟩ := ih hmore
    refine ⟨List.forall_mem_append.2 ⟨hquiet, hquiets⟩, ?_⟩
    intro hok l' hl'
    rcases List.mem_cons.1 hl' with rfl | hl'
    · exact (hconfirmed (Outcome.ok_of_mapError ho.symm)).mono (List.sublist_append_left ys zs)
    · exact (hrest hok l' hl').mono (List.sublist_append_right ys zs)

/-! ### Manifests -/

variable {ref : Reference} {raw : Bytes}

theorem yields_putManifest {mediaType : MediaType} {o : Outcome Unit}
    (h : (c.putManifest ref raw mediaType).Yields xs o) :
    (xs = [] ∧ o ≠ .ok ()) ∨ ∃ x, xs = [x] ∧ IsManifestPut c ref x ∧
      x.1.body = .held raw ∧ (o = .ok () ↔ Accepted Status.isSuccess x) := by
  obtain ⟨e, -, rfl, rfl⟩ | ⟨u, hu, hsend⟩ := Task.yields_ofOutcome_bind.1 h
  · exact .inl ⟨rfl, by simp⟩
  obtain ⟨e, rfl, hm⟩ | ⟨s, ys, rfl, hm, hf⟩ := yields_exchange hsend
  · cases hm with
    | unsent => exact .inl ⟨rfl, by simp⟩
    | refused a _ ha =>
      refine .inr ⟨_, rfl, ⟨Client.request_method c _ _, u, hu, rfl⟩, rfl, ?_⟩
      constructor
      · intro he
        cases he
      · intro hx
        exact absurd hx ha
  · obtain ⟨rfl, rfl⟩ := Task.yields_tell.1 hf
    refine .inr ⟨_, rfl, ⟨Client.request_method c _ _, u, hu, rfl⟩, rfl, ?_⟩
    exact ⟨fun _ => ⟨s, rfl, hm.status⟩, fun _ => rfl⟩

/-- What precedes the manifest of an image: all of its blobs, confirmed. -/
structure Prepared (c : Client) (r : Repository) (i : Image) (raw : Bytes) (xs : List Sent) :
    Prop where
  manifest : i.rawManifest = .ok raw
  layers : ∃ ls, i.layers = .ok ls ∧ ∀ l ∈ ls, Confirmed c r l.digest xs
  config : ∃ l, i.configLayer = .ok l ∧ Confirmed c r l.digest xs

theorem yields_write {i : Image} {o : Outcome Unit} (h : (c.write ref i).Yields xs o) :
    ((∀ x ∈ xs, x.1.IsQuiet) ∧ o ≠ .ok ()) ∨
      ∃ before x raw, xs = before ++ [x] ∧ (∀ y ∈ before, y.1.IsQuiet) ∧
        Prepared c ref.repository i raw before ∧ IsManifestPut c ref x ∧
        x.1.body = .held raw ∧ (o = .ok () ↔ Accepted Status.isSuccess x) := by
  obtain ⟨e, -, rfl, rfl⟩ | ⟨ls, hls, htell⟩ := Task.yields_ofOutcome_bind.1 h
  · exact .inl ⟨by simp, by simp⟩
  have hlayers := Task.yields_tell_bind.1 htell
  obtain ⟨e, hl, rfl⟩ | ⟨u, ys, zs, rfl, hl, hrest⟩ := Task.yields_bind.1 hlayers
  · exact .inl ⟨(yields_writeLayers hl).1, by simp⟩
  obtain ⟨hquiet, hconfirmed⟩ := yields_writeLayers hl
  obtain ⟨e, -, rfl, rfl⟩ | ⟨config, hc, hwrite⟩ := Task.yields_ofOutcome_bind.1 hrest
  · exact .inl ⟨by simpa using hquiet, by simp⟩
  obtain ⟨e, hw, rfl⟩ | ⟨u, us, vs, rfl, hw, hraw⟩ := Task.yields_bind.1 hwrite
  · obtain ⟨o', hw, -⟩ := Task.yields_forLayer.1 hw
    exact .inl ⟨List.forall_mem_append.2 ⟨hquiet, (yields_writeLayer hw).1⟩, by simp⟩
  obtain ⟨o', hw, ho⟩ := Task.yields_forLayer.1 hw
  obtain ⟨hquiet', hconfirmed'⟩ := yields_writeLayer hw
  have hbefore : ∀ x ∈ ys ++ us, x.1.IsQuiet := List.forall_mem_append.2 ⟨hquiet, hquiet'⟩
  rw [← List.append_assoc]
  obtain ⟨e, -, rfl, rfl⟩ | ⟨raw, hm, htype⟩ := Task.yields_ofOutcome_bind.1 hraw
  · exact .inl ⟨by simpa using hbefore, by simp⟩
  obtain ⟨e, -, rfl, rfl⟩ | ⟨mediaType, -, hput⟩ := Task.yields_ofOutcome_bind.1 htype
  · exact .inl ⟨by simpa using hbefore, by simp⟩
  obtain ⟨rfl, ho'⟩ | ⟨x, rfl, hx, hp, hok⟩ := yields_putManifest hput
  · exact .inl ⟨by simpa using hbefore, ho'⟩
  refine .inr ⟨ys ++ us, x, raw, rfl, hbefore, ⟨hm, ⟨ls, hls, ?_⟩, config, hc, ?_⟩, hx, hp, hok⟩
  · exact fun l hl => (hconfirmed rfl l hl).mono (List.sublist_append_left ys us)
  · exact (hconfirmed' (Outcome.ok_of_mapError ho.symm)).mono (List.sublist_append_right ys us)

/-- The blobs of a fetched image are those that its manifest lists. -/
theorem Prepared.of_remote {i : RemoteImage} {origin : Reference} {raw : Bytes}
    (h : Prepared c r (i.toImage.mountable origin) raw xs) :
    raw = i.rawManifest ∧ ∀ d ∈ i.manifest.layers ++ [i.manifest.config],
      Confirmed c r d.digest xs := by
  obtain ⟨hm, ⟨ls, hls, hl⟩, config, hc, hconfig⟩ := h
  cases hm
  cases hls
  cases hc
  refine ⟨rfl, ?_⟩
  intro d hd
  rcases List.mem_append.1 hd with hd | hd
  · exact hl _ (List.mem_map_of_mem (List.mem_map_of_mem hd))
  · rw [List.mem_singleton] at hd
    rw [hd]
    exact hconfig

/-- A manifest that is put: it is the last thing the client asks for, behind everything that had to
be there before, and the library sends nothing after it but what redirects of it ask for. -/
structure Publication (c : Client) (ref : Reference) (i : Image) (xs ws : List Sent) where
  before : List Sent
  put : Sent
  raw : Bytes
  front : List Sent
  trail : List Sent
  last : xs = before ++ [put]
  isPut : IsManifestPut c ref put
  only : ∀ y ∈ before, ¬IsManifestPut c ref y
  body : put.1.body = .held raw
  prepared : Prepared c ref.repository i raw before
  sent : ws = front ++ trail
  carried : Carried before front
  isTrail : Trail Library.maxRedirects put trail
  onlySent : ∀ y ∈ front, ¬IsManifestPut c ref y

namespace Publication

variable {i : Image} {ws : List Sent}

theorem put_eq (p p' : Publication c ref i xs ws) : p.put = p'.put := by
  obtain ⟨-, hput⟩ := List.append_inj' (p.last.symm.trans p'.last) rfl
  exact (List.cons.inj hput).1

theorem put_mem (p : Publication c ref i xs ws) : p.put ∈ xs := by
  obtain ⟨before, put, -, -, -, rfl, -⟩ := p
  exact List.mem_append_right _ (List.mem_singleton_self _)

end Publication

theorem publication_of_yields {i : Image} {o : Outcome Unit} {ws : List Sent}
    (h : (c.write ref i).Yields xs o) (hc : Carried xs ws) :
    ((∀ x ∈ xs, x.1.IsQuiet) ∧ (∀ y ∈ ws, y.1.IsQuiet) ∧ o ≠ .ok ()) ∨
      ∃ p : Publication c ref i xs ws, (o = .ok () ↔ Accepted Status.isSuccess p.put) := by
  obtain ⟨hquiet, ho⟩ | ⟨before, x, raw, rfl, hquiet, hprep, hx, hbody, ho⟩ := yields_write h
  · exact .inl ⟨hquiet, hc.isQuiet hquiet, ho⟩
  · obtain ⟨front, us, rfl, hfront, hus⟩ := hc.split
    have honly : ∀ y ∈ before, ¬IsManifestPut c ref y := fun y hy => not_isManifestPut (hquiet y hy)
    have honlySent : ∀ y ∈ front, ¬IsManifestPut c ref y := fun y hy =>
      not_isManifestPut (hfront.isQuiet hquiet y hy)
    exact .inr ⟨⟨before, x, raw, front, us, rfl, hx, honly, hbody, hprep, rfl, hfront, hus.single,
      honlySent⟩, ho⟩

variable {σ : Type}

/-- A push succeeds exactly if its manifest is put and accepted. A manifest is put once at most, as
the last thing that is asked for, and only when exchanges before it have confirmed every layer and
the config in the destination. It is sent once unless a redirect asks for it elsewhere. A copy puts
the very octets that were fetched, and the blobs that they list have been confirmed. -/
theorem manifest_follows_blobs (lib : Library) (c : Client) (net : Network σ) (s : σ)
    (ref : Reference) (i : Image) {ws : List Sent} {o : Outcome Unit}
    (hws : Event.exchanges (lib.run net s (c.write ref i).run).2.1 = ws)
    (ho : (lib.run net s (c.write ref i).run).1 = o) :
    ∃ xs, Carried xs ws ∧ ((∀ y ∈ ws, y.2.isRedirect = false) → ws = xs) ∧
      (o = .ok () ↔ ∃ p : Publication c ref i xs ws, Accepted Status.isSuccess p.put) ∧
      (∀ y ∈ ws, IsManifestPut c ref y → ∃ p : Publication c ref i xs ws, y ∈ p.trail) ∧
      ∀ {τ : Type} (lib' : Library) (c' : Client) (net' : Network τ) (t : τ)
        (source origin : Reference) (j : RemoteImage),
        (lib'.run net' t (c'.image source).run).1 = .ok j → i = j.toImage.mountable origin →
        ∃ ys, Carried ys (Event.exchanges (lib'.run net' t (c'.image source).run).2.1) ∧
          ∀ p : Publication c ref i xs ws, ∃ y m, y ∈ ys ∧ Delivers c' source p.raw y ∧
            Manifest.parse p.raw = .ok m ∧
            ∀ d ∈ m.layers ++ [m.config], Confirmed c ref.repository d.digest p.before := by
  obtain ⟨xs, hy, hc⟩ := lib.carried_run net s (c.write ref i).run
  rw [hws] at hc
  rw [ho] at hy
  refine ⟨xs, hc, hc.eq_of_direct, ?_, ?_, ?_⟩
  · obtain ⟨hquiet, -, hne⟩ | ⟨p, hp⟩ := publication_of_yields hy hc
    · refine ⟨fun h => absurd h hne, ?_⟩
      rintro ⟨p, -⟩
      exact absurd p.isPut (not_isManifestPut (hquiet _ p.put_mem))
    · refine ⟨fun h => ⟨p, hp.1 h⟩, ?_⟩
      rintro ⟨p', ha⟩
      exact hp.2 (p.put_eq p' ▸ ha)
  · intro y hmem hput
    obtain ⟨-, hquiet, -⟩ | ⟨p, -⟩ := publication_of_yields hy hc
    · exact absurd hput (not_isManifestPut (hquiet y hmem))
    · rw [p.sent] at hmem
      exact ⟨p, (List.mem_append.1 hmem).resolve_left fun hfront => p.onlySent y hfront hput⟩
  · intro τ lib' c' net' t source origin j hj hi
    obtain ⟨ys, hj', hys⟩ := lib'.carried_run net' t (c'.image source).run
    rw [hj] at hj'
    obtain ⟨z, hz, hd, hm⟩ := delivers_of_yields_image hj'
    refine ⟨ys, hys, fun p => ?_⟩
    subst hi
    obtain ⟨hraw, hall⟩ := p.prepared.of_remote
    rw [hraw]
    exact ⟨z, j.manifest, hz, hd, hm, hall⟩

def loopback : Registry := ⟨"[::1]:5000", false, by decide, by decide⟩

def siteReference : Reference := .tagged ⟨⟨loopback, "web/site", by decide, by decide⟩, "v1", by decide⟩

def copyReference : Reference :=
  .tagged ⟨⟨loopback, "web/copy", by decide, by decide⟩, "v1", by decide⟩

def listedLayer : Descriptor :=
  ⟨⟨"layer"⟩, 3, ⟨.sha256, String.ofList (List.replicate 64 'c'), by decide +kernel⟩⟩

def listedConfig : Descriptor :=
  ⟨⟨"config"⟩, 2, ⟨.sha256, String.ofList (List.replicate 64 'd'), by decide +kernel⟩⟩

def listing : Bytes :=
  Json.printObject
    [("schemaVersion", Json.printNatural 2), ("config", listedConfig.print),
      ("layers", Json.printList [listedLayer.print])]

def siteImage : RemoteImage where
  repository := siteReference.repository
  rawManifest := listing
  manifest := ⟨none, listedConfig, [listedLayer]⟩
  rawConfig := [0x7b, 0x7d]
  config := ⟨[]⟩

def siteFetched :=
  Library.usual.run Network.scripted
    [.response { status := 200, chunks := [listing] },
      .response { status := 200, chunks := [[0x7b], [0x7d]] }]
    (Client.image {} siteReference).run

def siteCopied :=
  Library.usual.run Network.scripted
    [.response { status := 404 }, .response { status := 201 }, .response { status := 200 },
      .response { status := 201 }]
    (Client.write {} copyReference (siteImage.toImage.mountable siteReference)).run

theorem siteCopied_follows_blobs :
    siteFetched.1 = .ok siteImage ∧ siteCopied.1 = .ok () ∧
      ∃ xs ys, Carried xs (Event.exchanges siteCopied.2.1) ∧
        Carried ys (Event.exchanges siteFetched.2.1) ∧
        ∃ p : Publication {} copyReference (siteImage.toImage.mountable siteReference) xs
            (Event.exchanges siteCopied.2.1),
          Accepted Status.isSuccess p.put ∧
          ∃ y m, y ∈ ys ∧ Delivers {} siteReference p.raw y ∧ Manifest.parse p.raw = .ok m ∧
            ∀ d ∈ m.layers ++ [m.config],
              Confirmed {} copyReference.repository d.digest p.before := by
  have hf : siteFetched.1 = .ok siteImage := by decide +kernel
  have hc : siteCopied.1 = .ok () := by decide +kernel
  unfold siteFetched at hf ⊢
  unfold siteCopied at hc ⊢
  obtain ⟨xs, hxs, -, hiff, -, hcopy⟩ := manifest_follows_blobs Library.usual {} Network.scripted
    [.response { status := 404 }, .response { status := 201 }, .response { status := 200 },
      .response { status := 201 }] copyReference (siteImage.toImage.mountable siteReference) rfl hc
  obtain ⟨p, ha⟩ := hiff.1 rfl
  obtain ⟨ys, hys, hd⟩ := hcopy Library.usual {} Network.scripted _ siteReference siteReference
    siteImage hf rfl
  exact ⟨hf, hc, xs, ys, hxs, hys, p, ha, hd p⟩

/-- A put of the manifest that is answered with the way to the very same place. -/
def resending :=
  Library.usual.run Network.scripted
    [.response { status := 200 }, .response { status := 200 },
      .response { status := 307, headers := [("location", Bytes.ofText "v1")] },
      .response { status := 201 }]
    (Client.write {} copyReference siteImage.toImage).run

def copyManifest : Url :=
  { scheme := "http", host := some "[::1]", port := some 5000, path := "/v2/web/copy/manifests/v1" }

theorem redirected_manifest_is_put_twice :
    resending.1 = .ok () ∧
      (Event.exchanges resending.2.1).map (·.1.method) = [.head, .head, .put, .put] ∧
      ∃ x y, (Event.exchanges resending.2.1).drop 2 = [x, y] ∧
        IsManifestPut {} copyReference x ∧ IsManifestPut {} copyReference y := by
  have hu : endpoint copyReference.repository (manifestPath copyReference) = .ok copyManifest := by
    rfl
  have hrun : resending.1 = .ok () ∧
      (Event.exchanges resending.2.1).map (·.1.method) = [.head, .head, .put, .put] ∧
      ((Event.exchanges resending.2.1).drop 2).map (fun x => (x.1.method, x.1.url)) =
        [(.put, copyManifest), (.put, copyManifest)] := by
    decide +kernel
  obtain ⟨ho, hmethods, hputs⟩ := hrun
  obtain ⟨x, rest, hx, hput, hrest⟩ := List.map_eq_cons_iff.1 hputs
  obtain ⟨y, rest, rfl, hput', hnil⟩ := List.map_eq_cons_iff.1 hrest
  obtain rfl := List.map_eq_nil_iff.1 hnil
  have hisPut {z : Sent} (h : (z.1.method, z.1.url) = (.put, copyManifest)) :
      IsManifestPut {} copyReference z :=
    ⟨congrArg Prod.fst h, copyManifest, hu, congrArg Prod.snd h⟩
  exact ⟨ho, hmethods, x, y, hx, hisPut hput, hisPut hput'⟩

end LayerTransfer.Http
