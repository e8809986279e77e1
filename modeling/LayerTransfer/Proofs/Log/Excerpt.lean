import LayerTransfer.Log.Message
import Mathlib.Data.List.TakeDrop

namespace LayerTransfer.Log

open Bytes (ofText)

def cutMark (size : Nat) : String :=
  "... (" ++ toString size ++ " bytes)"

/-- The octets of a body parted in two, of which the first are a text and so end with a character. A
mark may stand behind this text. -/
structure Excerpt (content : Bytes) where
  head : String
  left : Bytes
  marked : Bool
  parts : ofText head ++ left = content

namespace Excerpt

variable {text : String}

/-- What is printed of a body: the text in front, and the mark if there is one. -/
def shown {content : Bytes} (e : Excerpt content) : String :=
  if e.marked then e.head ++ cutMark content.length else e.head

/-- The mark stands exactly where something is left out. -/
def IsHonest {content : Bytes} (e : Excerpt content) : Prop :=
  e.marked = true ↔ e.left ≠ []

theorem left_eq_nil_iff (e : Excerpt (ofText text)) : e.left = [] ↔ e.head = text := by
  have hparts := e.parts
  constructor
  · intro h
    rw [h, List.append_nil] at hparts
    exact Bytes.ofText_injective hparts
  · intro h
    rwa [h, List.append_right_eq_self] at hparts

theorem not_isHonest_of_shown {e : Excerpt (ofText text)}
    (h : e.shown = text ++ cutMark (ofText text).length) : ¬e.IsHonest := by
  intro honest
  unfold shown at h
  cases hm : e.marked with
  | true =>
    -- the mark stands, and the text in front of it is the whole one
    rw [if_pos hm, String.append_left_inj] at h
    exact honest.1 hm (e.left_eq_nil_iff.2 h)
  | false =>
    have hleft : e.left = [] := by
      by_contra hne
      rw [honest.2 hne] at hm
      exact Bool.noConfusion hm
    -- nothing is left out, so the text would be the same with the mark behind it
    rw [if_neg (by simp [hm]), e.left_eq_nil_iff.1 hleft] at h
    have hnil := String.append_eq_left_iff.1 h.symm
    simp [cutMark] at hnil

def front (text : String) : Excerpt (ofText text) where
  head := String.ofList (text.toList.take bodyLimit)
  left := ofText (String.ofList (text.toList.drop bodyLimit))
  marked := bodyLimit < (ofText text).length
  parts := by
    rw [← Bytes.ofText_append, ← String.ofList_append, List.take_append_drop, String.ofList_toList]

theorem front_marked_iff : (front text).marked = true ↔ bodyLimit < (ofText text).length :=
  decide_eq_true_iff

theorem length_head_front : (front text).head.length = min bodyLimit text.length := by
  rw [front, String.length_ofList, List.length_take, String.length_toList]

theorem front_head_eq_iff : (front text).head = text ↔ text.length ≤ bodyLimit := by
  rw [front, ← String.toList_inj, String.toList_ofList, List.take_eq_self_iff,
    String.length_toList]

theorem front_left_ne_nil_iff : (front text).left ≠ [] ↔ bodyLimit < text.length := by
  rw [Ne, left_eq_nil_iff, front_head_eq_iff, Nat.not_le]

/-- Nothing is left out without the mark, since a text has no more characters than octets. -/
theorem front_marked_of_left_ne_nil (h : (front text).left ≠ []) : (front text).marked = true :=
  front_marked_iff.2
    (Nat.lt_of_lt_of_le (front_left_ne_nil_iff.1 h) (Bytes.length_le_length_ofText text))

theorem shown_front_of_short (h : (ofText text).length ≤ bodyLimit) :
    (front text).shown = text := by
  have hm : ¬(front text).marked = true := fun hm => Nat.not_lt.2 h (front_marked_iff.1 hm)
  rw [shown, if_neg hm]
  exact front_head_eq_iff.2 (Nat.le_trans (Bytes.length_le_length_ofText text) h)

theorem shown_front_of_long (h : bodyLimit < (ofText text).length) :
    (front text).shown = (front text).head ++ cutMark (ofText text).length := by
  rw [shown, if_pos (front_marked_iff.2 h)]

end Excerpt

open Excerpt

variable {text : String}

theorem renderBody_ofText (text : String) : renderBody (ofText text) none = (front text).shown := by
  rw [renderBody, Bytes.text?_ofText]
  by_cases h : (ofText text).length ≤ bodyLimit
  · rw [shown_front_of_short h]
    exact if_pos h
  · rw [shown_front_of_long (Nat.not_le.1 h), cutMark]
    simp only [if_neg h, front, String.append_assoc]

/-- A text is printed as it is if it is short, and otherwise only if it goes on by itself with the
mark that is set in place of the rest. -/
theorem renderBody_eq_self_iff :
    renderBody (ofText text) none = text ↔ (ofText text).length ≤ bodyLimit ∨
      text.toList.drop bodyLimit = (cutMark (ofText text).length).toList := by
  rw [renderBody_ofText]
  by_cases h : (ofText text).length ≤ bodyLimit
  · simp only [shown_front_of_short h, h, true_or]
  · have hsplit := List.take_append_drop bodyLimit text.toList
    rw [shown_front_of_long (Nat.not_le.1 h), ← String.toList_inj, String.toList_append, front,
      String.toList_ofList]
    constructor
    · intro he
      exact .inr (List.append_cancel_left (hsplit.trans he.symm))
    · rintro (hle | hdrop)
      · exact absurd hle h
      · rwa [hdrop] at hsplit

theorem exists_isHonest_iff :
    (∃ e : Excerpt (ofText text), renderBody (ofText text) none = e.shown ∧ e.IsHonest) ↔
      (ofText text).length ≤ bodyLimit ∨ bodyLimit < text.length := by
  rw [renderBody_ofText]
  constructor
  · rintro ⟨e, he, honest⟩
    by_contra hno
    obtain ⟨hlong, hfew⟩ : bodyLimit < (ofText text).length ∧ text.length ≤ bodyLimit := by omega
    rw [shown_front_of_long hlong, front_head_eq_iff.2 hfew] at he
    exact not_isHonest_of_shown he.symm honest
  · intro h
    refine ⟨front text, rfl, ?_⟩
    rw [IsHonest, front_marked_iff, front_left_ne_nil_iff]
    have hle := Bytes.length_le_length_ofText text
    omega

/-! ### Bodies that are no text -/

def IsBinary (content : Bytes) : Prop :=
  ∀ text, content ≠ ofText text

theorem isBinary_iff {content : Bytes} : IsBinary content ↔ content.text? = none := by
  simp only [IsBinary, Option.eq_none_iff_forall_ne_some, ne_eq, Bytes.text?_eq_some_iff]

instance (content : Bytes) : Decidable (IsBinary content) :=
  decidable_of_iff _ isBinary_iff.symm

theorem renderBody_of_isBinary {content : Bytes} (h : IsBinary content) :
    renderBody content none = "<" ++ toString content.length ++ " bytes of binary data>" := by
  rw [renderBody, isBinary_iff.1 h]

theorem renderBody_of_length_eq {content content' : Bytes} (h : IsBinary content)
    (h' : IsBinary content') (hl : content.length = content'.length) :
    renderBody content none = renderBody content' none := by
  rw [renderBody_of_isBinary h, renderBody_of_isBinary h', hl]

theorem Verbosity.written_body_eq {content content' : Bytes} {r r' : Option Redaction}
    (h : renderBody content r = renderBody content' r') (v : Verbosity) (c : Channel)
    (label : String) (before after : List Message) :
    v.written c (before ++ .body label content r :: after) =
      v.written c (before ++ .body label content' r' :: after) := by
  have htext : (Message.body label content r).text = (Message.body label content' r').text :=
    congrArg ("   " ++ label ++ ": " ++ ·) h
  have hshows : v.shows (.body label content r) = v.shows (.body label content' r') := rfl
  have hchannel : (Message.body label content r).channel =
      (Message.body label content' r').channel := rfl
  simp only [written, List.filter_append, List.filter_cons, List.map_append, hshows, hchannel]
  split
  · rw [List.map_cons, List.map_cons, htext]
  · rfl

/-! ### Every body -/

/-- What is shown of a text are its first 512 characters, with a mark behind them if it has more
than 512 octets. So whatever is left out is marked, and the mark is true of all texts but those of
more than 512 octets in at most 512 characters, of which nothing is left out. Octets that are no
text are not shown at all: with others of the same number in their place, any reader of the log sees
the same. -/
theorem left_out_is_marked (content : Bytes) :
    (∀ text, content = ofText text →
      (∃ e : Excerpt content, renderBody content none = e.shown ∧
        e.head.length = min 512 text.length ∧ (e.left ≠ [] ↔ 512 < text.length) ∧
        (e.marked = true ↔ 512 < content.length) ∧ (e.left ≠ [] → e.marked = true)) ∧
      (renderBody content none = text ↔
        content.length ≤ 512 ∨ text.toList.drop 512 = (cutMark content.length).toList) ∧
      ((∃ e : Excerpt content, renderBody content none = e.shown ∧ e.IsHonest) ↔
        content.length ≤ 512 ∨ 512 < text.length)) ∧
    (IsBinary content →
      renderBody content none = "<" ++ toString content.length ++ " bytes of binary data>" ∧
      ∀ content', IsBinary content' → content.length = content'.length →
        ∀ (v : Verbosity) (c : Channel) (label : String) (before after : List Message),
          v.written c (before ++ .body label content none :: after) =
            v.written c (before ++ .body label content' none :: after)) := by
  constructor
  · rintro text rfl
    refine ⟨⟨front text, renderBody_ofText text, ?_⟩, renderBody_eq_self_iff, exists_isHonest_iff⟩
    exact ⟨length_head_front, front_left_ne_nil_iff, front_marked_iff, front_marked_of_left_ne_nil⟩
  · intro h
    refine ⟨renderBody_of_isBinary h, fun content' h' hl v c label before after => ?_⟩
    exact v.written_body_eq (renderBody_of_length_eq h h' hl) c label before after

def letters : String := String.ofList (List.replicate 600 'a')

theorem letters_cut_and_octets_hidden :
    (∃ e : Excerpt (ofText letters), renderBody (ofText letters) none = e.shown ∧ e.IsHonest) ∧
    IsBinary [0xff, 0xfe, 0x00] ∧
    renderBody [0xff, 0xfe, 0x00] none = "<3 bytes of binary data>" ∧
    IsBinary [0x61, 0x62, 0x80] ∧
    ∀ (v : Verbosity) (c : Channel) (label : String) (before after : List Message),
      v.written c (before ++ .body label [0xff, 0xfe, 0x00] none :: after) =
        v.written c (before ++ .body label [0x61, 0x62, 0x80] none :: after) := by
  have hc : letters.length = 600 := String.length_ofList.trans List.length_replicate
  have hb : IsBinary [0xff, 0xfe, 0x00] := by decide +kernel
  have hb' : IsBinary [0x61, 0x62, 0x80] := by decide +kernel
  obtain ⟨htext, hsame⟩ := (left_out_is_marked [0xff, 0xfe, 0x00]).2 hb
  refine ⟨?_, hb, htext, hb', hsame _ hb' rfl⟩
  exact ((left_out_is_marked (ofText letters)).1 letters rfl).2.2.2 (.inr (by rw [hc]; decide))

/-- 600 octets in 300 characters. -/
def accents : String := String.ofList (List.replicate 300 'é')

/-- A text that is shown to its last character is marked as cut. -/
theorem whole_text_is_marked :
    renderBody (ofText accents) none = accents ++ "... (600 bytes)" ∧
      ¬∃ e : Excerpt (ofText accents), renderBody (ofText accents) none = e.shown ∧ e.IsHonest := by
  have hl : (ofText accents).length = 600 := by decide +kernel
  have hc : accents.length = 300 := String.length_ofList.trans List.length_replicate
  constructor
  · rw [renderBody_ofText, shown_front_of_long (by rw [hl]; decide),
      front_head_eq_iff.2 (by rw [hc]; decide), hl]
    rfl
  · rw [exists_isHonest_iff, hl, hc]
    decide

end LayerTransfer.Log
