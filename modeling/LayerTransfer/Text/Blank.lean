namespace LayerTransfer.Text.Blank

def isBlank (c : Char) : Bool :=
  let n := c.toNat
  (9 ≤ n && n ≤ 13) || n == 0x20 || n == 0x85 || n == 0xa0 || n == 0x1680 ||
    (0x2000 ≤ n && n ≤ 0x200a) || n == 0x2028 || n == 0x2029 || n == 0x202f || n == 0x205f ||
    n == 0x3000

def trimRight : List Char → List Char
  | [] => []
  | c :: r =>
    match trimRight r with
    | [] => if isBlank c then [] else [c]
    | kept => c :: kept

def trim (cs : List Char) : List Char :=
  trimRight (cs.dropWhile isBlank)

def trimText (s : String) : String :=
  String.ofList (trim s.toList)

theorem trimRight_of_blank (ws : List Char) (h : ∀ c ∈ ws, isBlank c = true) :
    trimRight ws = [] := by
  induction ws with
  | nil => rfl
  | cons c r ih =>
    have hr := ih (fun d hd => h d (List.mem_cons_of_mem _ hd))
    simp [trimRight, hr, h c (List.mem_cons_self ..)]

theorem trimRight_append_of_blank (cs ws : List Char) (h : ∀ c ∈ ws, isBlank c = true) :
    trimRight (cs ++ ws) = trimRight cs := by
  induction cs with
  | nil => simpa [trimRight] using trimRight_of_blank ws h
  | cons c r ih => simp [trimRight, ih]

theorem trimRight_of_no_blank {cs : List Char} (h : ∀ c ∈ cs, isBlank c = false) :
    trimRight cs = cs := by
  induction cs with
  | nil => rfl
  | cons c r ih =>
    have hr := ih fun d hd => h d (List.mem_cons_of_mem _ hd)
    cases r with
    | nil => simp [trimRight, h c (List.mem_cons_self ..)]
    | cons d r => rw [trimRight, hr]

theorem trim_of_no_blank {cs : List Char} (h : ∀ c ∈ cs, isBlank c = false) : trim cs = cs := by
  have hd : cs.dropWhile isBlank = cs := by
    cases cs with
    | nil => rfl
    | cons c r => simp [h c (List.mem_cons_self ..)]
  rw [trim, hd, trimRight_of_no_blank h]

theorem trim_between {before after : List Char} (hb : ∀ c ∈ before, isBlank c = true)
    (ha : ∀ c ∈ after, isBlank c = true) (cs : List Char) :
    trim (before ++ cs ++ after) = trim cs := by
  have hd : (before ++ cs ++ after).dropWhile isBlank = (cs ++ after).dropWhile isBlank := by
    rw [List.append_assoc, List.dropWhile_append_of_pos hb]
  rw [trim, hd, List.dropWhile_append]
  split
  next h =>
    have hall : ∀ c ∈ after.dropWhile isBlank, isBlank c = true :=
      fun c hc => ha c ((List.dropWhile_sublist isBlank).subset hc)
    rw [trimRight_of_blank _ hall, trim, List.isEmpty_iff.1 h]
    rfl
  next => rw [trimRight_append_of_blank _ _ ha, trim]

theorem exists_blanks_trimRight (cs : List Char) :
    ∃ blanks, (∀ c ∈ blanks, isBlank c = true) ∧ cs = trimRight cs ++ blanks := by
  induction cs with
  | nil => exact ⟨[], by simp, rfl⟩
  | cons c r ih =>
    obtain ⟨blanks, hb, hr⟩ := ih
    unfold trimRight
    split
    next hnil =>
      rw [hnil, List.nil_append] at hr
      subst hr
      split
      next hc => exact ⟨c :: r, List.forall_mem_cons.2 ⟨hc, hb⟩, rfl⟩
      next => exact ⟨r, hb, rfl⟩
    next => exact ⟨blanks, hb, by rw [List.cons_append, ← hr]⟩

theorem exists_blanks_of_front {front rest cs : List Char} (h : trim cs = front ++ rest) :
    ∃ blanks, (∀ c ∈ blanks, isBlank c = true) ∧ front = trim front ++ blanks := by
  have hd : front.dropWhile isBlank = front := by
    cases front with
    | nil => rfl
    | cons c r =>
      obtain ⟨blanks, -, he⟩ := exists_blanks_trimRight (cs.dropWhile isBlank)
      have hc := List.head?_dropWhile_not isBlank cs
      rw [he, ← trim, h] at hc
      have hc : isBlank c = false := by simpa using hc
      simp [hc]
  obtain ⟨blanks, hb, he⟩ := exists_blanks_trimRight front
  exact ⟨blanks, hb, by rw [trim, hd]; exact he⟩

theorem exists_blanks_trim (cs : List Char) :
    ∃ before after, (∀ c ∈ before, isBlank c = true) ∧ (∀ c ∈ after, isBlank c = true) ∧
      cs = before ++ trim cs ++ after := by
  obtain ⟨after, ha, he⟩ := exists_blanks_trimRight (cs.dropWhile isBlank)
  refine ⟨cs.takeWhile isBlank, after, List.all_eq_true.1 List.all_takeWhile, ha, ?_⟩
  rw [List.append_assoc, trim, ← he, List.takeWhile_append_dropWhile]

end LayerTransfer.Text.Blank
