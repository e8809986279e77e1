import LayerTransfer.Proofs.Json.Printed
import Mathlib.Data.List.Forall2

namespace LayerTransfer.Json

def separated : List (List Token) → List Token
  | [] => []
  | [ts] => ts
  | ts :: r => ts ++ .comma :: separated r

theorem separated_cons (ts : List Token) (tss : List (List Token)) :
    separated (ts :: tss) = ts ++ tss.flatMap (.comma :: ·) := by
  induction tss generalizing ts with
  | nil => simp [separated]
  | cons t tss ih => simp [separated, ih]

/-- Values up to a closing bracket, behind the opening one or behind another value. -/
def upcoming (first : Bool) (close : Token) (tss : List (List Token)) (r : List Token) : List Token :=
  (if first then separated tss else tss.flatMap (.comma :: ·)) ++ close :: r

variable {close : Token} {tss : List (List Token)} {r : List Token}

theorem upcoming_nil (first : Bool) : upcoming first close [] r = close :: r := by
  cases first <;> rfl

theorem upcoming_later (ts : List Token) :
    upcoming false close (ts :: tss) r = .comma :: (ts ++ upcoming false close tss r) := by
  simp [upcoming]

theorem upcoming_first (ts : List Token) :
    upcoming true close (ts :: tss) r = ts ++ upcoming false close tss r := by
  simp [upcoming, separated_cons]

theorem length_le_upcoming (first : Bool) (close : Token) (tss : List (List Token))
    (r : List Token) : tss.length ≤ (upcoming first close tss r).length := by
  have hlater : tss.length + 1 ≤ (upcoming false close tss r).length := by
    induction tss with
    | nil => simp [upcoming]
    | cons ts tss ih =>
      rw [upcoming_later, List.length_cons, List.length_cons, List.length_append]
      omega
  cases first with
  | false => exact Nat.le_of_succ_le hlater
  | true =>
    cases tss with
    | nil => exact Nat.zero_le _
    | cons ts tss =>
      rw [upcoming_later, List.length_cons, List.length_cons, List.length_append] at hlater
      rw [upcoming_first, List.length_cons, List.length_append]
      omega

inductive Value
  | word (w : Word)
  | number (n : Numeral)
  | text (pieces : List Piece)
  | list (items : List Value)
  | object (members : List (List Piece × Value))

abbrev Member := List Piece × Value

namespace Value

@[elab_as_elim, induction_eliminator]
theorem induct {P : Value → Prop} (word : ∀ w, P (.word w)) (number : ∀ n, P (.number n))
    (text : ∀ ps, P (.text ps)) (list : ∀ items, (∀ v ∈ items, P v) → P (.list items))
    (object : ∀ ms : List Member, (∀ m ∈ ms, P m.2) → P (.object ms)) (v : Value) : P v :=
  @Value.rec P (fun items => ∀ v ∈ items, P v) (fun ms => ∀ m ∈ ms, P m.2) (fun m => P m.2)
    word number text list object (List.forall_mem_nil _)
    (fun _ _ hv hr => List.forall_mem_cons.2 ⟨hv, hr⟩) (List.forall_mem_nil _)
    (fun _ _ hm hr => List.forall_mem_cons.2 ⟨hm, hr⟩) (fun _ _ hv => hv) v

def tokens : Value → List Token
  | word w => [.word w]
  | number n => [.number n]
  | text ps => [.text ps]
  | list items => .bracketOpen :: separated (items.map tokens) ++ [.bracketClose]
  | object ms =>
    .braceOpen :: separated (ms.map fun m => .text m.1 :: .colon :: m.2.tokens) ++ [.braceClose]
decreasing_by
  · have h := List.sizeOf_lt_of_mem ‹_ ∈ items›
    simp only [list.sizeOf_spec]
    omega
  · have h := List.sizeOf_lt_of_mem ‹_ ∈ ms›
    have hm : sizeOf m = 1 + sizeOf m.1 + sizeOf m.2 := rfl
    simp only [object.sizeOf_spec]
    omega

end Value

def Member.tokens (m : Member) : List Token :=
  .text m.1 :: .colon :: m.2.tokens

/-- Texts of a value, with any blanks between the tokens. -/
def Value.IsText (v : Value) (b : Bytes) : Prop :=
  Spells v.tokens b

/-! ### Tokens of values -/

theorem parted_append_mark {ts us : List Token} {t : Token} (ht : t.isMark = true)
    (hts : Parted ts) (hus : Parted us) : Parted (ts ++ t :: us) := by
  refine List.isChain_append.2 ⟨hts, hus.cons fun _ _ => .inl ht, fun _ _ u hu => .inr ?_⟩
  cases hu
  exact ht

theorem parted_separated {tss : List (List Token)} (h : ∀ ts ∈ tss, Parted ts) :
    Parted (separated tss) := by
  induction tss with
  | nil => exact .nil
  | cons ts tss ih =>
    obtain ⟨hts, htss⟩ := List.forall_mem_cons.1 h
    cases tss with
    | nil => exact hts
    | cons us tss => exact parted_append_mark rfl hts (ih htss)

theorem parted_enclosed {t u : Token} {tss : List (List Token)} (ht : t.isMark = true)
    (hu : u.isMark = true) (h : ∀ ts ∈ tss, Parted ts) : Parted (t :: separated tss ++ [u]) :=
  parted_append_mark hu ((parted_separated h).cons fun _ _ => .inl ht) .nil

/-- No two tokens of a value run into each other. -/
theorem Value.parted_tokens (v : Value) : Parted v.tokens := by
  induction v with
  | word w | number n | text ps =>
    rw [tokens]
    exact .singleton _
  | list items ih =>
    rw [tokens]
    exact parted_enclosed rfl rfl (List.forall_mem_map.2 ih)
  | object ms ih =>
    rw [tokens]
    refine parted_enclosed rfl rfl (List.forall_mem_map.2 fun m hm => ?_)
    refine ((ih m hm).cons fun _ _ => .inl rfl).cons fun u hu => .inr ?_
    cases hu
    rfl

theorem Value.ofBytes_of_isText {v : Value} {b : Bytes} (h : v.IsText b) :
    Token.ofBytes b = v.tokens :=
  ofBytes_of_spells h v.parted_tokens

theorem Value.exists_tokens_eq (v : Value) : ∃ t ts, v.tokens = t :: ts ∧ t ≠ .bracketClose := by
  cases v <;> rw [tokens] <;> exact ⟨_, _, rfl, by simp⟩

theorem Value.tokens_list (items : List Value) (r : List Token) : (list items).tokens ++ r =
    .bracketOpen :: upcoming true .bracketClose (items.map tokens) r := by
  simp [tokens, upcoming]

theorem Value.tokens_object (ms : List Member) (r : List Token) : (object ms).tokens ++ r =
    .braceOpen :: upcoming true .braceClose (ms.map Member.tokens) r := by
  have hms : ms.map (fun m => .text m.1 :: .colon :: m.2.tokens) = ms.map Member.tokens := rfl
  simp [tokens, upcoming, hms]

/-! ### Texts of values -/

theorem Value.isText_word (w : Word) : (word w).IsText w.octets := by
  rw [IsText, tokens]
  exact (Spelled.word w).spells

theorem Value.isText_number (l : Literal) : (number l.numeral).IsText l.octets := by
  rw [IsText, tokens]
  exact (Spelled.number l).spells

def Value.ofNatural (n : Nat) : Value :=
  .number { whole := decimals n }

theorem Value.isText_printNatural (n : Nat) : (ofNatural n).IsText (printNatural n) := by
  rw [IsText, ofNatural, tokens]
  exact (spelled_printNatural n).spells

def Value.ofText (s : String) : Value :=
  .text ((Bytes.ofText s).map piece)

theorem Value.isText_printText (s : String) : (ofText s).IsText (printText s) := by
  rw [IsText, ofText, tokens]
  exact (spelled_printText s).spells

theorem spells_printSeparated {tss : List (List Token)} {bs : List Bytes}
    (h : List.Forall₂ Spells tss bs) : Spells (separated tss) (printSeparated bs) := by
  induction h with
  | nil => exact .nil (by decide)
  | cons hb hbs ih =>
    cases hbs with
    | nil => exact hb
    | cons _ _ => exact hb.append (Spells.append Spelled.comma.spells ih)

theorem spells_enclosed {t u : Token} {c d : UInt8} {tss : List (List Token)} {bs : List Bytes}
    (ht : Spelled t [c]) (hu : Spelled u [d]) (h : List.Forall₂ Spells tss bs) :
    Spells (t :: separated tss ++ [u]) (c :: printSeparated bs ++ [d]) :=
  (Spells.append ht.spells (spells_printSeparated h)).append hu.spells

theorem Value.isText_printList {items : List Value} {bs : List Bytes}
    (h : List.Forall₂ IsText items bs) : (list items).IsText (printList bs) := by
  rw [IsText, tokens]
  exact spells_enclosed .bracketOpen .bracketClose (List.forall₂_map_left_iff.2 h)

theorem Value.isText_printObject {ms : List Member} {bs : List (String × Bytes)}
    (h : List.Forall₂ (fun m b => m.1 = (Bytes.ofText b.1).map piece ∧ m.2.IsText b.2) ms bs) :
    (object ms).IsText (printObject bs) := by
  have hms : List.Forall₂ Spells (ms.map Member.tokens)
      (bs.map fun m => printText m.1 ++ 0x3a :: m.2) := by
    rw [List.forall₂_map_left_iff, List.forall₂_map_right_iff]
    refine h.imp fun m b ⟨hkey, hvalue⟩ => ?_
    rw [Member.tokens, hkey]
    exact Spells.append (spelled_printText b.1).spells (Spells.append Spelled.colon.spells hvalue)
  rw [IsText, tokens]
  exact spells_enclosed .braceOpen .braceClose hms

theorem Value.isText_blanks {v : Value} {b ws vs : Bytes} (h : v.IsText b) (hws : IsBlank ws)
    (hvs : IsBlank vs) : v.IsText (ws ++ b ++ vs) := by
  have hb := (Spells.blanks hws h).append (Spells.nil hvs)
  rwa [List.append_nil] at hb

structure Written where
  value : Value
  text : Bytes
  isText : value.IsText text

namespace Written

def null : Written := ⟨.word .null, _, Value.isText_word .null⟩

def number (l : Literal) : Written := ⟨.number l.numeral, _, Value.isText_number l⟩

def natural (n : Nat) : Written := ⟨.ofNatural n, _, Value.isText_printNatural n⟩

def string (s : String) : Written := ⟨.ofText s, _, Value.isText_printText s⟩

def list (ws : List Written) : Written where
  value := .list (ws.map value)
  text := printList (ws.map text)
  isText := by
    refine Value.isText_printList ?_
    rw [List.forall₂_map_left_iff, List.forall₂_map_right_iff, List.forall₂_same]
    exact fun w _ => w.isText

def member (m : String × Written) : Member :=
  ((Bytes.ofText m.1).map piece, m.2.value)

def object (ms : List (String × Written)) : Written where
  value := .object (ms.map member)
  text := printObject (ms.map fun m => (m.1, m.2.text))
  isText := by
    refine Value.isText_printObject ?_
    rw [List.forall₂_map_left_iff, List.forall₂_map_right_iff, List.forall₂_same]
    exact fun m _ => ⟨rfl, m.2.isText⟩

def onLine (w : Written) : Written where
  value := w.value
  text := [0x0a, 0x09] ++ w.text ++ [0x0d, 0x20]
  isText := Value.isText_blanks w.isText (by decide) (by decide)

end Written

end LayerTransfer.Json
