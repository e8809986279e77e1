import LayerTransfer.Proofs.Descriptor.Origin
import LayerTransfer.Proofs.Digest.Format
import LayerTransfer.Proofs.Json.Rearranged
import Mathlib.Logic.Relation

namespace LayerTransfer

open Json

/-! ### Descriptors -/

namespace Descriptor

theorem takes_readMediaType : Takes readMediaType :=
  takes_readText.map _

theorem puts_mediaType : mediaTypeField.Puts readMediaType fun p m => { p with mediaType := some m } :=
  ⟨takes_readMediaType, fun _ _ => rfl, fun _ _ => rfl⟩

theorem puts_size : sizeField.Puts readSize fun p n => { p with size := some n } :=
  ⟨(takes_readNatural _ _).map _, fun _ _ => rfl, fun _ _ => rfl⟩

theorem puts_digest : digestField.Puts Json.readDigest fun p d => { p with digest := some d } :=
  ⟨takes_readDigest, fun _ _ => rfl, fun _ _ => rfl⟩

theorem orderly : Orderly shape.fields :=
  .cons puts_mediaType
    (List.forall_mem_cons.2
      ⟨apart_of_puts puts_mediaType puts_size (fun _ _ => rfl) (fun _ _ => rfl) fun _ _ _ => rfl,
        List.forall_mem_singleton.2 (apart_of_puts puts_mediaType puts_digest (fun _ _ => rfl)
          (fun _ _ => rfl) fun _ _ _ => rfl)⟩)
    (.cons puts_size
      (List.forall_mem_singleton.2 (apart_of_puts puts_size puts_digest (fun _ _ => rfl)
        (fun _ _ => rfl) fun _ _ _ => rfl))
      (.cons puts_digest (List.forall_mem_nil _) .nil))

theorem takes_read : Takes read :=
  takes_readRecord orderly.takes

end Descriptor

/-! ### Manifests -/

namespace Manifest

def versionField : Json.Field Members := shape.fields.get ⟨0, by decide⟩

def mediaTypeField : Json.Field Members := shape.fields.get ⟨1, by decide⟩

def configField : Json.Field Members := shape.fields.get ⟨2, by decide⟩

def layersField : Json.Field Members := shape.fields.get ⟨3, by decide⟩

theorem fields_eq : shape.fields = [versionField, mediaTypeField, configField, layersField] := rfl

theorem puts_version : versionField.Puts (readNatural UInt32.size "u32")
    fun p n => { p with schemaVersion := some n } :=
  ⟨takes_readNatural _ _, fun _ _ => rfl, fun _ _ => rfl⟩

theorem puts_mediaType : mediaTypeField.Puts (readOption Descriptor.readMediaType)
    fun p m => { p with mediaType := some m } :=
  ⟨takes_readOption Descriptor.takes_readMediaType, fun _ _ => rfl, fun _ _ => rfl⟩

theorem puts_config : configField.Puts Descriptor.read fun p d => { p with config := some d } :=
  ⟨Descriptor.takes_read, fun _ _ => rfl, fun _ _ => rfl⟩

theorem puts_layers : layersField.Puts (readList Descriptor.read)
    fun p ds => { p with layers := some ds } :=
  ⟨takes_readList Descriptor.takes_read, fun _ _ => rfl, fun _ _ => rfl⟩

theorem orderly : Orderly shape.fields := by
  rw [fields_eq]
  refine .cons puts_version ?_ (.cons puts_mediaType ?_ (.cons puts_config ?_
    (.cons puts_layers (List.forall_mem_nil _) .nil)))
  · refine List.forall_mem_cons.2 ⟨?_, List.forall_mem_cons.2 ⟨?_, List.forall_mem_singleton.2 ?_⟩⟩
    · exact apart_of_puts puts_version puts_mediaType (fun _ _ => rfl) (fun _ _ => rfl)
        fun _ _ _ => rfl
    · exact apart_of_puts puts_version puts_config (fun _ _ => rfl) (fun _ _ => rfl)
        fun _ _ _ => rfl
    · exact apart_of_puts puts_version puts_layers (fun _ _ => rfl) (fun _ _ => rfl)
        fun _ _ _ => rfl
  · refine List.forall_mem_cons.2 ⟨?_, List.forall_mem_singleton.2 ?_⟩
    · exact apart_of_puts puts_mediaType puts_config (fun _ _ => rfl) (fun _ _ => rfl)
        fun _ _ _ => rfl
    · exact apart_of_puts puts_mediaType puts_layers (fun _ _ => rfl) (fun _ _ => rfl)
        fun _ _ _ => rfl
  · exact List.forall_mem_singleton.2 (apart_of_puts puts_config puts_layers (fun _ _ => rfl)
      (fun _ _ => rfl) fun _ _ _ => rfl)

/-- Manifests of which one is the other with one object rearranged: the manifest itself, its config
or one of its layers. -/
inductive Revised : List Member → List Member → Prop
  | top {ms ms' : List Member} (h : Rearranged shape.names ms ms') : Revised ms ms'
  | config (before after : List Member) {key : List Piece} {inner inner' : List Member}
    (hkey : string none key = .ok "config") (h : Rearranged Descriptor.shape.names inner inner') :
    Revised (before ++ (key, .object inner) :: after) (before ++ (key, .object inner') :: after)
  | layer (before after : List Member) (above below : List Value) {key : List Piece}
    {inner inner' : List Member} (hkey : string none key = .ok "layers")
    (h : Rearranged Descriptor.shape.names inner inner') :
    Revised (before ++ (key, .list (above ++ .object inner :: below)) :: after)
      (before ++ (key, .list (above ++ .object inner' :: below)) :: after)

theorem replaces_of_revised {ms ms' : List Member} (h : Revised ms ms') :
    Replaces (readRecord shape) (.object ms) (.object ms') := by
  cases h with
  | top h => exact replaces_object orderly h
  | config before after hkey h =>
    have hd : Replaces Descriptor.read _ _ := replaces_object Descriptor.orderly h
    exact replaces_member (f := configField) orderly rfl hkey (puts_config.replaces hd) before after
  | layer before after above below hkey h =>
    have hd : Replaces Descriptor.read _ _ := replaces_object Descriptor.orderly h
    have hsame (vs : List Value) : List.Forall₂ (Replaces Descriptor.read) vs vs :=
      List.forall₂_same.2 fun _ _ _ h => h
    have hlist := replaces_list Descriptor.takes_read
      (List.rel_append (hsame above) (.cons hd (hsame below)))
    exact replaces_member (f := layersField) orderly rfl hkey (puts_layers.replaces hlist) before
      after

theorem replaces_of_revisions {ms ms' : List Member} (h : Relation.ReflTransGen Revised ms ms') :
    Replaces (readRecord shape) (.object ms) (.object ms') := by
  induction h with
  | refl => exact fun _ h => h
  | tail _ hlast ih => exact fun a ha => replaces_of_revised hlast a (ih a ha)

theorem parse_eq_ok_iff {raw : Bytes} {m : Manifest} :
    parse raw = .ok m ↔ readDocument (readRecord shape) raw = .ok (2, m) := by
  unfold parse
  cases readDocument (readRecord shape) raw with
  | error f => simp
  | ok x =>
    obtain ⟨version, m'⟩ := x
    by_cases hv : version = 2
    · simp [hv, schemaVersion]
    · simp [hv, schemaVersion]

theorem parse_isText_iff {v : Value} {raw : Bytes} (h : v.IsText raw) {m : Manifest} :
    parse raw = .ok m ↔ Reads (readRecord shape) v.tokens (2, m) :=
  parse_eq_ok_iff.trans (readDocument_iff (takes_readRecord orderly.takes) h)

/-- Whether the members of an object say what a manifest is. -/
structure StatedBy (ms : List Member) (m : Manifest) : Prop where
  named : ∀ x ∈ ms, ∃ name, x.IsNamed name
  version : ∃ x ∈ ms, x.IsNamed "schemaVersion" ∧
    ∃ n, x.2 = .number n ∧ n.number = some (.natural 2)
  declared : ∀ x ∈ ms, x.IsNamed "mediaType" →
    Reads (readOption Descriptor.readMediaType) x.2.tokens m.declared
  config : ∃ x ∈ ms, x.IsNamed "config" ∧ Reads Descriptor.read x.2.tokens m.config
  layers : ∀ x ∈ ms, x.IsNamed "layers" →
    ∃ items, x.2 = .list items ∧ List.Forall₂ (fun d v => Reads Descriptor.read v.tokens d) m.layers items
  undeclared : (∀ x ∈ ms, ¬x.IsNamed "mediaType") → m.declared = none
  empty : (∀ x ∈ ms, ¬x.IsNamed "layers") → m.layers = []

theorem statedBy_of_reads {ms : List Member} {m : Manifest}
    (h : Reads (readRecord shape) (Value.object ms).tokens (2, m)) : StatedBy ms m := by
  obtain ⟨-, p, hms, hfinish⟩ := of_readRecord_object orderly.takes (h [])
  obtain ⟨version, hversion, hrest⟩ := Outcome.ok_of_bind hfinish
  obtain ⟨config, hconfig, hmade⟩ := Outcome.ok_of_bind hrest
  cases hmade
  have hv : p.schemaVersion = some 2 := mem_of_required hversion
  have hc : p.config = some config := mem_of_required hconfig
  refine ⟨hms.exists_name, ?_, fun x hx hname => ?_, ?_, fun x hx hname => ?_, fun hnone => ?_,
    fun hnone => ?_⟩
  · obtain ⟨x, hx, hname⟩ := hms.exists_member orderly (f := versionField)
      (by simp [fields_eq]) rfl (by simp [versionField, shape, hv])
    obtain ⟨u, n, hn, rfl⟩ := hms.exists_put orderly (f := versionField) rfl puts_version hx hname
    obtain rfl : n = 2 := Option.some.inj hv
    obtain ⟨-, k, hk, hnumber, -⟩ := of_readNatural (hn [])
    exact ⟨x, hx, hname, k, hk, hnumber⟩
  · obtain ⟨u, d, hd, rfl⟩ := hms.exists_put orderly (f := mediaTypeField) rfl puts_mediaType hx hname
    exact hd
  · obtain ⟨x, hx, hname⟩ := hms.exists_member orderly (f := configField)
      (by simp [fields_eq]) rfl (by simp [configField, shape, hc])
    obtain ⟨u, d, hd, rfl⟩ := hms.exists_put orderly (f := configField) rfl puts_config hx hname
    obtain rfl : d = config := Option.some.inj hc
    exact ⟨x, hx, hname, hd⟩
  · obtain ⟨u, ds, hds, rfl⟩ := hms.exists_put orderly (f := layersField) rfl puts_layers hx hname
    obtain ⟨-, items, hitems, hall⟩ := of_readList Descriptor.takes_read (hds [])
    exact ⟨items, hitems, hall⟩
  · have hset := hms.isSet_eq orderly (f := mediaTypeField) (by simp [fields_eq]) hnone
    cases hp : p.mediaType with
    | none => rfl
    | some d => cases hset.symm.trans (congrArg Option.isSome hp)
  · have hset := hms.isSet_eq orderly (f := layersField) (by simp [fields_eq]) hnone
    cases hp : p.layers with
    | none => rfl
    | some ds => cases hset.symm.trans (congrArg Option.isSome hp)

end Manifest

/-! ### Configs -/

namespace ImageConfig

def diffIdsField : Json.Field (Option (List Digest)) := rootfsShape.fields.get ⟨0, by decide⟩

def rootfsField : Json.Field (Option (List Digest)) := shape.fields.get ⟨0, by decide⟩

theorem puts_diffIds : diffIdsField.Puts (readList Json.readDigest) fun _ ds => some ds :=
  ⟨takes_readList takes_readDigest, fun _ _ => rfl, fun _ _ => rfl⟩

theorem rootfs_orderly : Orderly rootfsShape.fields :=
  .cons puts_diffIds (List.forall_mem_nil _) .nil

theorem puts_rootfs : rootfsField.Puts (readRecord rootfsShape) fun _ ds => some ds :=
  ⟨takes_readRecord rootfs_orderly.takes, fun _ _ => rfl, fun _ _ => rfl⟩

theorem orderly : Orderly shape.fields :=
  .cons puts_rootfs (List.forall_mem_nil _) .nil

inductive Revised : List Member → List Member → Prop
  | top {ms ms' : List Member} (h : Rearranged shape.names ms ms') : Revised ms ms'
  | rootfs (before after : List Member) {key : List Piece} {inner inner' : List Member}
    (hkey : string none key = .ok "rootfs") (h : Rearranged rootfsShape.names inner inner') :
    Revised (before ++ (key, .object inner) :: after) (before ++ (key, .object inner') :: after)

theorem replaces_of_revised {ms ms' : List Member} (h : Revised ms ms') :
    Replaces (readRecord shape) (.object ms) (.object ms') := by
  cases h with
  | top h => exact replaces_object orderly h
  | rootfs before after hkey h =>
    exact replaces_member (f := rootfsField) orderly rfl hkey
      (puts_rootfs.replaces (replaces_object rootfs_orderly h)) before after

theorem replaces_of_revisions {ms ms' : List Member} (h : Relation.ReflTransGen Revised ms ms') :
    Replaces (readRecord shape) (.object ms) (.object ms') := by
  induction h with
  | refl => exact fun _ h => h
  | tail _ hlast ih => exact fun a ha => replaces_of_revised hlast a (ih a ha)

theorem parse_isText_iff {v : Value} {raw : Bytes} (h : v.IsText raw) {c : ImageConfig} :
    parse raw = .ok c ↔ Reads (readRecord shape) v.tokens c := by
  rw [← readDocument_iff (takes_readRecord orderly.takes) h, parse]
  cases readDocument (readRecord shape) raw with
  | error f => simp [Except.mapError]
  | ok c' => simp [Except.mapError]

/-- Whether the members of an object say what a config is. -/
structure StatedBy (ms : List Member) (c : ImageConfig) : Prop where
  named : ∀ x ∈ ms, ∃ name, x.IsNamed name
  diffIds : ∀ x ∈ ms, x.IsNamed "rootfs" → ∀ inner : List Member, x.2 = .object inner →
    ∀ y ∈ inner, Member.IsNamed y "diff_ids" → ∃ items, y.2 = .list items ∧
      List.Forall₂ (fun d v => Reads Json.readDigest v.tokens d) c.diffIds items
  empty : (∀ x ∈ ms, ¬x.IsNamed "rootfs") → c.diffIds = []

theorem statedBy_of_reads {ms : List Member} {c : ImageConfig}
    (h : Reads (readRecord shape) (Value.object ms).tokens c) : StatedBy ms c := by
  obtain ⟨-, p, hms, hfinish⟩ := of_readRecord_object orderly.takes (h [])
  cases hfinish
  refine ⟨hms.exists_name, fun x hx hname inner hinner y hy hname' => ?_, fun hnone => ?_⟩
  · obtain ⟨u, ds, hds, rfl⟩ := hms.exists_put orderly (f := rootfsField) rfl puts_rootfs hx hname
    rw [hinner] at hds
    obtain ⟨-, q, hinner, hfinish⟩ := of_readRecord_object rootfs_orderly.takes (hds [])
    cases hfinish
    obtain ⟨u, ids, hids, rfl⟩ :=
      hinner.exists_put rootfs_orderly (f := diffIdsField) rfl puts_diffIds hy hname'
    obtain ⟨-, items, hitems, hall⟩ := of_readList takes_readDigest (hids [])
    exact ⟨items, hitems, hall⟩
  · have hset := hms.isSet_eq orderly (f := rootfsField) (List.mem_cons_self ..) hnone
    cases p with
    | none => rfl
    | some ds => cases (show true = false from hset)

end ImageConfig

/-! ### Meaning -/

/-- Manifests and configs mean what their members say. A text of an object that is accepted as a
manifest may have its objects rearranged and its blanks changed: every such text is accepted, as the
same manifest. It is of schema version 2, its digests are valid, and its layers stand in the order
of the list. The same holds for configs and their diff ids. -/
theorem documents_keep_their_meaning :
    (∀ ms ms' raw raw' m, Relation.ReflTransGen Manifest.Revised ms ms' →
      (Value.object ms).IsText raw → (Value.object ms').IsText raw' →
      Manifest.parse raw = .ok m → Manifest.parse raw' = .ok m) ∧
    (∀ ms raw m, (Value.object ms).IsText raw → Manifest.parse raw = .ok m →
      Manifest.StatedBy ms m) ∧
    (∀ raw m, Manifest.parse raw = .ok m →
      readDocument (readRecord Manifest.shape) raw = .ok (2, m) ∧
      ∀ d ∈ m.config :: m.layers, Digest.IsText d.digest.text ∧
        WrittenIn (Token.ofBytes raw) d.digest) ∧
    (∀ ms ms' raw raw' c, Relation.ReflTransGen ImageConfig.Revised ms ms' →
      (Value.object ms).IsText raw → (Value.object ms').IsText raw' →
      ImageConfig.parse raw = .ok c → ImageConfig.parse raw' = .ok c) ∧
    (∀ ms raw c, (Value.object ms).IsText raw → ImageConfig.parse raw = .ok c →
      ImageConfig.StatedBy ms c) := by
  refine ⟨fun ms ms' raw raw' m hms hraw hraw' h => ?_, fun ms raw m hraw h => ?_,
    fun raw m h => ⟨Manifest.parse_eq_ok_iff.1 h, ?_⟩,
    fun ms ms' raw raw' c hms hraw hraw' h => ?_, fun ms raw c hraw h => ?_⟩
  · exact (Manifest.parse_isText_iff hraw').2
      (Manifest.replaces_of_revisions hms _ ((Manifest.parse_isText_iff hraw).1 h))
  · exact Manifest.statedBy_of_reads ((Manifest.parse_isText_iff hraw).1 h)
  · obtain ⟨hconfig, hlayers⟩ := Manifest.written_of_parse h
    have hall : ∀ d ∈ m.config :: m.layers, WrittenIn (Token.ofBytes raw) d.digest :=
      List.forall_mem_cons.2 ⟨hconfig, hlayers⟩
    exact fun d hd => ⟨Digest.isText_text d.digest, hall d hd⟩
  · exact (ImageConfig.parse_isText_iff hraw').2
      (ImageConfig.replaces_of_revisions hms _ ((ImageConfig.parse_isText_iff hraw).1 h))
  · exact ImageConfig.statedBy_of_reads ((ImageConfig.parse_isText_iff hraw).1 h)

namespace Documents

open Json.Written

def odd : Literal where
  negative := true
  lead := Fin.last 9
  more := []
  lead_valid _ := rfl
  fraction := [Fin.last 9, Fin.last 9]
  exponent := some ⟨true, some false, Fin.last 9, []⟩

def blob : List (String × Written) :=
  [("mediaType", string "a/b"), ("size", natural 2), ("digest", string Digest.zeroDigest.text)]

def note : String × Written := ("note", list [null, number odd, object [("\"", list [])]])

def listing : Manifest where
  declared := none
  config := ⟨⟨"a/b"⟩, 2, Digest.zeroDigest⟩
  layers := [⟨⟨"a/b"⟩, 2, Digest.zeroDigest⟩]

def plain : List (String × Written) :=
  [("schemaVersion", natural 2), ("config", object blob), ("layers", list [object blob])]

def noted : List (String × Written) :=
  [("layers", list [object (note :: blob)]), ("config", onLine (object (note :: blob.reverse))),
    ("schemaVersion", natural 2), note]

theorem revisions : Relation.ReflTransGen Manifest.Revised (plain.map member) (noted.map member) := by
  have hnote : (member note).IsNamed "note" := isNamed_member _ _
  have hblob : Rearranged Descriptor.shape.names (blob.map member) ((note :: blob).map member) :=
    .insert [] (blob.map member) hnote (by decide)
  have hback : Rearranged Descriptor.shape.names ((note :: blob).map member)
      ((note :: blob.reverse).map member) :=
    .reorder (((List.reverse_perm blob).symm.cons note).map member)
  refine .head (.layer [member ("schemaVersion", natural 2), member ("config", object blob)] [] [] []
    (isNamed_member "layers" null) hblob) ?_
  refine .head (.config [member ("schemaVersion", natural 2)] _
    (isNamed_member "config" null) hblob) ?_
  refine .head (.config [member ("schemaVersion", natural 2)] _
    (isNamed_member "config" null) hback) ?_
  refine .head (.top (.insert [] _ hnote (by decide))) ?_
  exact .single (.top (.reorder (List.reverse_perm _).symm))

def plainConfig : List (String × Written) :=
  [("rootfs", object [("diff_ids", list [string Digest.zeroDigest.text])])]

def notedConfig : List (String × Written) :=
  [note, ("rootfs", object [("diff_ids", list [string Digest.zeroDigest.text]), note])]

theorem config_revisions :
    Relation.ReflTransGen ImageConfig.Revised (plainConfig.map member) (notedConfig.map member) := by
  have hnote : (member note).IsNamed "note" := isNamed_member _ _
  have hrootfs : Rearranged ImageConfig.rootfsShape.names
      [member ("diff_ids", list [string Digest.zeroDigest.text])]
      [member ("diff_ids", list [string Digest.zeroDigest.text]), member note] :=
    .insert [_] [] hnote (by decide)
  refine .head (.rootfs [] [] (isNamed_member "rootfs" null) hrootfs) (.single (.top ?_))
  exact .insert [] _ hnote (by decide)

end Documents

open Documents in
theorem notes_change_nothing :
    Manifest.parse (Written.object noted).onLine.text = .ok listing ∧
    Manifest.StatedBy (plain.map Written.member) listing ∧
    (∀ d ∈ listing.config :: listing.layers, Digest.IsText d.digest.text) ∧
    ImageConfig.parse (Written.object notedConfig).onLine.text = .ok ⟨[Digest.zeroDigest]⟩ ∧
    ImageConfig.StatedBy (plainConfig.map Written.member) ⟨[Digest.zeroDigest]⟩ := by
  obtain ⟨hsame, hstated, hvalid, hsameConfig, hstatedConfig⟩ := documents_keep_their_meaning
  have hplain : Manifest.parse (Written.object plain).text = .ok listing := by decide +kernel
  have hconfig : ImageConfig.parse (Written.object plainConfig).text = .ok ⟨[Digest.zeroDigest]⟩ := by
    decide +kernel
  refine ⟨?_, ?_, ?_, ?_, ?_⟩
  · exact hsame _ _ _ _ _ revisions (Written.object plain).isText
      (Written.object noted).onLine.isText hplain
  · exact hstated _ _ _ (Written.object plain).isText hplain
  · exact fun d hd => ((hvalid _ _ hplain).2 d hd).1
  · exact hsameConfig _ _ _ _ _ config_revisions (Written.object plainConfig).isText
      (Written.object notedConfig).onLine.isText hconfig
  · exact hstatedConfig _ _ _ (Written.object plainConfig).isText hconfig

end LayerTransfer
