/-
  Cutting — what a text is cut into gives the text back, and the places are
  those that the text before or after them does not have (`cutFirst?_append`,
  `cutLast?_append`, `pieces_eq_splitOn`).

  A text between blanks is trimmed to what stands between them (`trim_append`),
  and blanks are all that trimming takes away (`exists_trim`).
-/
import GrpcRelay.Text.Blank
import GrpcRelay.Text.Cut
import Mathlib.Data.List.TakeWhile

namespace GrpcRelay.Text

/-! ## One separator -/

section Cuts

variable {sep : Char} {s a b : List Char}

theorem cutFirst?_eq_some (h : cutFirst? sep s = some (a, b)) : s = a ++ sep :: b ∧ sep ∉ a := by
  induction s generalizing a with
  | nil => cases h
  | cons c r ih =>
    simp only [cutFirst?] at h
    split at h
    · next hc =>
      cases h
      exact ⟨by rw [hc]; rfl, List.not_mem_nil⟩
    · next hc =>
      obtain ⟨⟨a', b'⟩, hr, hp⟩ := Option.map_eq_some_iff.1 h
      cases hp
      obtain ⟨rfl, hmem⟩ := ih hr
      exact ⟨rfl, by rw [List.mem_cons]; rintro (rfl | h) <;> contradiction⟩

theorem cutFirst?_append (h : sep ∉ a) : cutFirst? sep (a ++ sep :: b) = some (a, b) := by
  induction a with
  | nil => simp [cutFirst?]
  | cons c r ih =>
    obtain ⟨hc, hr⟩ : ¬ sep = c ∧ sep ∉ r := by simpa using h
    have hne : ¬ c = sep := fun h => hc h.symm
    simp [cutFirst?, hne, ih hr]

theorem cutFirst?_eq_none_iff : cutFirst? sep s = none ↔ sep ∉ s := by
  induction s with
  | nil => simp [cutFirst?]
  | cons c r ih =>
    by_cases hc : c = sep
    · simp [cutFirst?, hc]
    · simp [cutFirst?, hc, ih, Ne.symm hc]

theorem cutLast?_eq_none_iff : cutLast? sep s = none ↔ sep ∉ s := by
  induction s with
  | nil => simp [cutLast?]
  | cons c r ih =>
    cases hr : cutLast? sep r with
    | some p =>
      have hmem : sep ∈ r := by
        rw [hr] at ih
        simpa using ih
      simp [cutLast?, hr, hmem]
    | none =>
      have hnot : sep ∉ r := ih.1 hr
      by_cases hc : c = sep
      · simp [cutLast?, hr, hc]
      · simp [cutLast?, hr, hc, hnot, Ne.symm hc]

theorem cutLast?_append (h : sep ∉ b) : cutLast? sep (a ++ sep :: b) = some (a, b) := by
  induction a with
  | nil => simp [cutLast?, cutLast?_eq_none_iff.2 h]
  | cons c r ih => rw [List.cons_append, cutLast?, ih]

theorem cutLast?_eq_some (h : cutLast? sep s = some (a, b)) : s = a ++ sep :: b ∧ sep ∉ b := by
  induction s generalizing a with
  | nil => cases h
  | cons c r ih =>
    simp only [cutLast?] at h
    split at h
    · next p hr =>
      cases h
      obtain ⟨rfl, hnot⟩ := ih hr
      exact ⟨rfl, hnot⟩
    · next hr =>
      split at h
      · next hc =>
        cases h
        exact ⟨by rw [hc]; rfl, cutLast?_eq_none_iff.1 hr⟩
      · cases h

end Cuts

/-! ## A start -/

theorem append_of_after? {start s r : List Char} (h : after? start s = some r) :
    s = start ++ r := by
  induction start generalizing s with
  | nil => exact Option.some.inj h
  | cons a start ih =>
    cases s with
    | nil => cases h
    | cons c s =>
      simp only [after?] at h
      split at h
      · next hac => rw [hac, List.cons_append, ← ih h]
      · cases h

theorem after?_append (start r : List Char) : after? start (start ++ r) = some r := by
  induction start with
  | nil => rfl
  | cons a start ih => rw [List.cons_append, after?, if_pos rfl, ih]

theorem after?_isSome_iff {start s : List Char} :
    (after? start s).isSome = true ↔ start <+: s := by
  constructor
  · intro h
    obtain ⟨r, hr⟩ := Option.isSome_iff_exists.1 h
    exact ⟨r, (append_of_after? hr).symm⟩
  · rintro ⟨r, rfl⟩
    rw [after?_append]; rfl

/-! ## Pieces -/

section Pieces

variable {sep : Char} {s a b : List Char}

theorem pieces_of_not_mem (h : sep ∉ s) : pieces sep s = [s] := by
  induction s with
  | nil => rfl
  | cons c r ih =>
    obtain ⟨hc, hr⟩ : ¬ sep = c ∧ sep ∉ r := by simpa using h
    rw [pieces, if_neg fun h => hc h.symm, ih hr]

theorem pieces_append (h : sep ∉ a) : pieces sep (a ++ sep :: b) = a :: pieces sep b := by
  induction a with
  | nil => rw [List.nil_append, pieces, if_pos rfl]
  | cons c r ih =>
    obtain ⟨hc, hr⟩ : ¬ sep = c ∧ sep ∉ r := by simpa using h
    rw [List.cons_append, pieces, if_neg fun h => hc h.symm, ih hr]

/-- The pieces are those of the standard library. -/
theorem pieces_eq_splitOn : pieces sep s = s.splitOn sep := by
  induction s with
  | nil => rfl
  | cons c r ih =>
    rw [pieces, List.splitOn_cons_eq_if_modifyHead, ih]
    by_cases hc : c = sep
    · simp [hc]
    · obtain ⟨p, ps, hr⟩ := List.exists_cons_of_ne_nil (List.splitOn_ne_nil sep r)
      simp [hc, hr]

theorem not_mem_of_mem_splitOn (h : a ∈ s.splitOn sep) : sep ∉ a := by
  induction s generalizing a with
  | nil =>
    rw [List.splitOn_nil, List.mem_singleton] at h
    rw [h]
    exact List.not_mem_nil
  | cons c r ih =>
    rw [List.splitOn_cons_eq_if_modifyHead] at h
    by_cases hc : c = sep
    · rw [if_pos (by simpa using hc)] at h
      rcases List.mem_cons.1 h with rfl | hmem
      · exact List.not_mem_nil
      · exact ih hmem
    · rw [if_neg (by simpa using hc)] at h
      obtain ⟨p, ps, hr⟩ := List.exists_cons_of_ne_nil (List.splitOn_ne_nil sep r)
      rw [hr, List.modifyHead_cons] at h
      rcases List.mem_cons.1 h with rfl | hmem
      · have hp : sep ∉ p := ih (by rw [hr]; exact .head ps)
        simp [hp, Ne.symm hc]
      · exact ih (by rw [hr]; exact .tail p hmem)

end Pieces

/-! ## Blanks -/

/-- A text that is not empty and has no blank at either end. -/
structure Tight (s : List Char) : Prop where
  head : ∃ c r, s = c :: r ∧ isBlank c = false
  last : ∃ r c, s = r ++ [c] ∧ isBlank c = false

section Blanks

variable {s a b : List Char} {sep : Char}

theorem Tight.ne_nil (h : Tight s) : s ≠ [] := by
  obtain ⟨c, r, rfl, -⟩ := h.head
  exact List.cons_ne_nil c r

theorem not_mem_of_isBlankText (h : isBlankText s = true) (hsep : isBlank sep = false) :
    sep ∉ s := by
  intro hmem
  rw [List.all_eq_true.1 h sep hmem] at hsep
  cases hsep

theorem isBlankText_reverse : isBlankText s.reverse = isBlankText s := List.all_reverse

theorem isBlankText_append (ha : isBlankText a = true) (hb : isBlankText b = true) :
    isBlankText (a ++ b) = true := by
  rw [isBlankText, List.all_append, Bool.and_eq_true]
  exact ⟨ha, hb⟩

/-! ### At one end -/

theorem trimEnd_eq (s : List Char) : trimEnd s = (trimStart s.reverse).reverse := rfl

theorem trimStart_append (h : isBlankText a = true) : trimStart (a ++ s) = trimStart s :=
  List.dropWhile_append_of_pos (List.all_eq_true.1 h)

theorem trimEnd_append (h : isBlankText b = true) : trimEnd (s ++ b) = trimEnd s := by
  rw [trimEnd_eq, List.reverse_append, trimStart_append (isBlankText_reverse.trans h), trimEnd_eq]

/-- Trimming stops at what is no blank. -/
theorem trimStart_append_cons (h : isBlank sep = false) :
    trimStart (a ++ sep :: b) = trimStart a ++ sep :: b := by
  have hstop : trimStart (sep :: b) = sep :: b := List.dropWhile_cons_of_neg (by simp [h])
  unfold trimStart at hstop ⊢
  rw [List.dropWhile_append, hstop]
  split
  · next hnil => rw [List.isEmpty_iff.1 hnil, List.nil_append]
  · rfl

theorem trimEnd_append_cons (h : isBlank sep = false) :
    trimEnd (a ++ sep :: b) = a ++ sep :: trimEnd b := by
  rw [trimEnd_eq, List.reverse_append, List.reverse_cons, List.append_assoc, List.singleton_append,
    trimStart_append_cons h, trimEnd_eq]
  simp

theorem exists_trimStart (s : List Char) : ∃ a, isBlankText a = true ∧ s = a ++ trimStart s :=
  ⟨s.takeWhile isBlank, List.all_takeWhile, List.takeWhile_append_dropWhile.symm⟩

theorem exists_trimEnd (s : List Char) : ∃ b, isBlankText b = true ∧ s = trimEnd s ++ b := by
  obtain ⟨a, ha, hs⟩ := exists_trimStart s.reverse
  refine ⟨a.reverse, isBlankText_reverse.trans ha, ?_⟩
  rw [trimEnd_eq, ← List.reverse_append, ← hs, List.reverse_reverse]

theorem head_trimStart (h : trimStart s ≠ []) :
    ∃ c r, trimStart s = c :: r ∧ isBlank c = false := by
  obtain ⟨c, r, hs⟩ := List.exists_cons_of_ne_nil h
  have hnot := List.head?_dropWhile_not isBlank s
  rw [show s.dropWhile isBlank = c :: r from hs] at hnot
  exact ⟨c, r, hs, hnot⟩

/-! ### At both ends -/

theorem trim_eq_nil_iff : trim s = [] ↔ isBlankText s = true := by
  constructor
  · intro h
    obtain ⟨a, ha, hs⟩ := exists_trimStart s
    obtain ⟨b, hb, ht⟩ := exists_trimEnd (trimStart s)
    rw [hs, ht, show trimEnd (trimStart s) = [] from h]
    exact isBlankText_append ha hb
  · intro h
    have hstart : trimStart s = [] := List.dropWhile_eq_nil_iff.2 (List.all_eq_true.1 h)
    rw [trim, hstart]
    rfl

/-- Blanks are all that is taken away. -/
theorem exists_trim (s : List Char) :
    ∃ a b, isBlankText a = true ∧ isBlankText b = true ∧ s = a ++ trim s ++ b := by
  obtain ⟨a, ha, hs⟩ := exists_trimStart s
  obtain ⟨b, hb, ht⟩ := exists_trimEnd (trimStart s)
  refine ⟨a, b, ha, hb, ?_⟩
  rw [trim, List.append_assoc, ← ht, ← hs]

theorem mem_of_mem_trim (h : sep ∈ trim s) : sep ∈ s := by
  obtain ⟨a, b, -, -, hs⟩ := exists_trim s
  rw [hs]
  exact List.mem_append_left _ (List.mem_append_right _ h)

/-- A text between blanks is what is left of it. -/
theorem Tight.trim_append (h : Tight s) (ha : isBlankText a = true) (hb : isBlankText b = true) :
    trim (a ++ s ++ b) = s := by
  obtain ⟨c, r, rfl, hc⟩ := h.head
  have hstart : trimStart (a ++ (c :: r) ++ b) = c :: r ++ b := by
    rw [List.append_assoc, trimStart_append ha]
    exact trimStart_append_cons (a := []) hc
  have hend : trimEnd (c :: r) = c :: r := by
    obtain ⟨r', c', hlast, hc'⟩ := h.last
    rw [hlast]
    exact trimEnd_append_cons (b := []) hc'
  rw [trim, hstart, trimEnd_append hb, hend]

theorem tight_trim (h : isBlankText s = false) : Tight (trim s) := by
  have hne : trim s ≠ [] := by
    rw [Ne, trim_eq_nil_iff, h]
    nofun
  obtain ⟨b, -, ht⟩ := exists_trimEnd (trimStart s)
  constructor
  · obtain ⟨c, r, hs⟩ := List.exists_cons_of_ne_nil hne
    have hstart : trimStart s = c :: (r ++ b) := by
      rw [ht, show trimEnd (trimStart s) = c :: r from hs, List.cons_append]
    obtain ⟨c', r', hs', hc'⟩ := head_trimStart (by rw [hstart]; exact List.cons_ne_nil _ _)
    rw [hstart] at hs'
    cases hs'
    exact ⟨c, r, hs, hc'⟩
  · have hback : trimStart (trimStart s).reverse ≠ [] := by
      intro hnil
      exact hne (by rw [trim, trimEnd_eq, hnil]; rfl)
    obtain ⟨c, r, hs, hc⟩ := head_trimStart hback
    exact ⟨r.reverse, c, by rw [trim, trimEnd_eq, hs, List.reverse_cons], hc⟩

/-- Trimming moves no separator. -/
theorem cutFirst?_trim (hsep : isBlank sep = false) (h : cutFirst? sep s = some (a, b)) :
    cutFirst? sep (trim s) = some (trimStart a, trimEnd b) := by
  obtain ⟨rfl, hnot⟩ := cutFirst?_eq_some h
  rw [trim, trimStart_append_cons hsep, trimEnd_append_cons hsep]
  exact cutFirst?_append fun hmem => hnot ((List.dropWhile_suffix _).subset hmem)

/-- Blanks around a text do not count. -/
theorem trim_append (ha : isBlankText a = true) (hb : isBlankText b = true) :
    trim (a ++ s ++ b) = trim s := by
  by_cases hs : isBlankText s = true
  · rw [trim_eq_nil_iff.2 hs, trim_eq_nil_iff]
    exact isBlankText_append (isBlankText_append ha hs) hb
  · obtain ⟨a', b', ha', hb', h⟩ := exists_trim s
    have hparts : a ++ s ++ b = (a ++ a') ++ trim s ++ (b' ++ b) :=
      calc a ++ s ++ b = a ++ (a' ++ trim s ++ b') ++ b := by rw [← h]
        _ = (a ++ a') ++ trim s ++ (b' ++ b) := by simp
    rw [hparts]
    exact (tight_trim (Bool.not_eq_true _ ▸ hs)).trim_append (isBlankText_append ha ha')
      (isBlankText_append hb' hb)

theorem trim_trimStart (s : List Char) : trim (trimStart s) = trim s := by
  obtain ⟨a, ha, hs⟩ := exists_trimStart s
  calc trim (trimStart s) = trim (a ++ trimStart s ++ []) := (trim_append ha rfl).symm
    _ = trim s := by rw [List.append_nil, ← hs]

theorem trim_trimEnd (s : List Char) : trim (trimEnd s) = trim s := by
  obtain ⟨b, hb, hs⟩ := exists_trimEnd s
  calc trim (trimEnd s) = trim ([] ++ trimEnd s ++ b) := (trim_append rfl hb).symm
    _ = trim s := by rw [List.nil_append, ← hs]

end Blanks

end GrpcRelay.Text
