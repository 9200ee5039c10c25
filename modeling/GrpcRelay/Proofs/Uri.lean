/-
  URIs — the path of a URI is nothing, a star, or a text that begins with a slash
  and has neither a query nor a fragment, so that it reads as a path and a query
  without any change (`Uri.isPath_of_parse`).
-/
import GrpcRelay.Proofs.Text.Cut
import GrpcRelay.Uri

namespace GrpcRelay

/-- A part of a text has no more bytes than the text. -/
theorem Text.utf8ByteSize_le {s t : List Char} (h : s <:+: t) :
    (String.ofList s).utf8ByteSize ≤ (String.ofList t).utf8ByteSize := by
  obtain ⟨a, b, rfl⟩ := h
  simp only [String.ofList_append, String.utf8ByteSize_append]
  omega

/-! ## Paths and queries -/

namespace PathQuery

variable {s : List Char} {p : PathQuery}

/-- A text that begins with a slash and is a path as it stands, without a query. -/
structure IsPath (text : String) : Prop where
  slash : text.toList.head? = some '/'
  parse : PathQuery.parse text = .ok ⟨text.toList, none⟩

theorem not_end_of_isPathChar {c : Char} (h : isPathChar c = true) : c ≠ '?' ∧ c ≠ '#' := by
  constructor <;> rintro rfl <;> revert h <;> decide

/-- Where every character may stand in a path, all of the text is the path. -/
theorem take_of_isPathChar (h : ∀ c ∈ s, isPathChar c = true) : take s = .ok ⟨s, none⟩ := by
  induction s with
  | nil => rfl
  | cons c r ih =>
    obtain ⟨hc, hr⟩ := List.forall_mem_cons.1 h
    obtain ⟨hquery, hfragment⟩ := not_end_of_isPathChar hc
    rw [take, if_neg hquery, if_neg hfragment, if_pos hc, ih hr]
    rfl

/-- The path stands at the start of the text and holds nothing that may not stand in it. -/
theorem path_of_take (h : take s = .ok p) :
    p.path <+: s ∧ ∀ c ∈ p.path, isPathChar c = true := by
  induction s generalizing p with
  | nil => cases h; exact ⟨List.prefix_rfl, nofun⟩
  | cons c r ih =>
    simp only [take] at h
    split at h
    · cases hq : takeQuery r with
      | error e => rw [hq] at h; cases h
      | ok q => rw [hq] at h; cases h; exact ⟨List.nil_prefix, nofun⟩
    · split at h
      · cases h; exact ⟨List.nil_prefix, nofun⟩
      · split at h
        · next hc =>
          cases hr : take r with
          | error e => rw [hr] at h; cases h
          | ok q =>
            rw [hr] at h; cases h
            obtain ⟨hstart, hall⟩ := ih hr
            exact ⟨List.cons_prefix_cons.2 ⟨rfl, hstart⟩, List.forall_mem_cons.2 ⟨hc, hall⟩⟩
        · cases h

/-- Whether a character ends a path. -/
def isMark (c : Char) : Bool := c = '?' || c = '#'

theorem isMark_slash : isMark '/' = false := rfl

theorem takeQuery_eq_takeWhile {q : List Char} (h : takeQuery s = .ok q) :
    q = s.takeWhile (· ≠ '#') := by
  induction s generalizing q with
  | nil => cases h; rfl
  | cons c r ih =>
    simp only [takeQuery] at h
    split at h
    · next hc => cases h; simp [hc]
    · next hc =>
      split at h
      · cases hr : takeQuery r with
        | error e => rw [hr] at h; cases h
        | ok q' =>
          rw [hr] at h; cases h
          rw [List.takeWhile_cons_of_pos (by simpa using hc), ← ih hr]
      · cases h

/-- The path ends at the first mark, and the text at the first that begins a fragment. -/
theorem takeWhile_of_take (h : take s = .ok p) :
    p.path = s.takeWhile (! isMark ·) ∧ p.text.toList = s.takeWhile (· ≠ '#') := by
  induction s generalizing p with
  | nil => cases h; exact ⟨rfl, rfl⟩
  | cons c r ih =>
    simp only [take] at h
    split at h
    · next hc =>
      subst hc
      cases hq : takeQuery r with
      | error e => rw [hq] at h; cases h
      | ok q =>
        rw [hq] at h; cases h
        simp [isMark, text, takeQuery_eq_takeWhile hq]
    · next hquery =>
      split at h
      · next hc => subst hc; cases h; exact ⟨rfl, rfl⟩
      · next hfragment =>
        split at h
        · cases hr : take r with
          | error e => rw [hr] at h; cases h
          | ok q =>
            rw [hr] at h; cases h
            obtain ⟨hpath, htext⟩ := ih hr
            constructor
            · simp [isMark, hquery, hfragment, hpath]
            · rw [List.takeWhile_cons_of_pos (by simpa using hfragment), ← htext]
              unfold text
              cases q.query <;> simp
        · cases h

theorem isPath_ofList (hslash : s.head? = some '/') (hall : ∀ c ∈ s, isPathChar c = true)
    (hsize : (String.ofList s).utf8ByteSize ≤ maxLength) : IsPath (.ofList s) where
  slash := by rw [String.toList_ofList]; exact hslash
  parse := by
    rw [PathQuery.parse, if_neg (Nat.not_lt.2 hsize), String.toList_ofList]
    exact take_of_isPathChar hall

/-- What stands where a path begins gives one; where nothing does, the path is a slash. -/
theorem isPath_of_take (h : take s = .ok p)
    (hs : ∀ c, s.head? = some c → Authority.isEnd c = true)
    (hsize : (String.ofList s).utf8ByteSize ≤ maxLength) : IsPath p.pathText := by
  obtain ⟨hstart, hall⟩ := path_of_take h
  unfold pathText
  split
  · exact ⟨rfl, rfl⟩
  · next hne =>
    refine isPath_ofList ?_ hall ((Text.utf8ByteSize_le hstart.isInfix).trans hsize)
    obtain ⟨c, r, hp⟩ := List.exists_cons_of_ne_nil hne
    obtain ⟨t, rfl⟩ := hstart
    have hend := hs c (by rw [hp]; rfl)
    obtain ⟨hquery, hfragment⟩ := not_end_of_isPathChar (hall c (by rw [hp]; exact .head r))
    have hc : c = '/' := by simpa [Authority.isEnd, hquery, hfragment] using hend
    rw [hp, hc]; rfl

end PathQuery

/-! ## What stands before the path -/

theorem Authority.scan_eq_ok {k : Authority.Scan} {s a rest : List Char}
    (h : Authority.scan k s = .ok (a, rest)) :
    s = a ++ rest ∧ ∀ c, rest.head? = some c → Authority.isEnd c = true := by
  induction s generalizing k a with
  | nil =>
    simp only [scan] at h
    split at h
    · cases h
    · cases h; exact ⟨rfl, nofun⟩
  | cons c r ih =>
    simp only [scan] at h
    split at h
    · next hend =>
      split at h
      · cases h
      · cases h
        refine ⟨rfl, fun d hd => ?_⟩
        cases hd; exact hend
    · split at h
      · cases h
      · next k' _ =>
        cases hr : scan k' r with
        | error e => rw [hr] at h; cases h
        | ok q =>
          rw [hr] at h; cases h
          obtain ⟨rfl, hend⟩ := ih hr
          exact ⟨rfl, hend⟩

theorem Authority.cut_eq_ok {s a rest : List Char} (h : Authority.cut s = .ok (a, rest)) :
    s = a ++ rest ∧ ∀ c, rest.head? = some c → Authority.isEnd c = true := by
  unfold cut at h
  split at h
  · cases h
  · exact scan_eq_ok h

namespace Uri

variable {s rest : List Char} {scheme : Option (List Char)} {text : String} {u : Uri}

theorem suffix_of_splitScheme (h : splitScheme s = .ok (scheme, rest)) : rest <:+ s := by
  unfold splitScheme at h
  split at h
  · cases h; exact List.suffix_rfl
  · split at h
    · cases h; exact List.suffix_rfl
    · next name r hcut =>
      split at h
      · cases h
      · cases h
        unfold cutScheme? at hcut
        obtain ⟨r', hafter, he⟩ := Option.map_eq_some_iff.1 hcut
        cases he
        have hdrop := Text.append_of_after? hafter
        exact (hdrop ▸ List.suffix_append _ _ : _ <:+ s.drop _).trans (List.drop_suffix _ s)

theorem pathText_of_authorityAlone {left : UriError} (h : authorityAlone left s = .ok u) :
    u.pathText = "" := by
  unfold authorityAlone at h
  split at h
  · cases h
  · split at h
    · cases h; rfl
    · cases h

theorem isPath_of_parseFull (h : parseFull s = .ok u)
    (hsize : (String.ofList s).utf8ByteSize ≤ PathQuery.maxLength) :
    u.pathText = "" ∨ PathQuery.IsPath u.pathText := by
  unfold parseFull at h
  split at h
  · cases h
  · exact .inl (pathText_of_authorityAlone h)
  · next scheme r hsplit =>
    split at h
    · cases h
    · next a rest hcut =>
      split at h
      · cases h
      · obtain ⟨rfl, hend⟩ := Authority.cut_eq_ok hcut
        cases hp : PathQuery.take rest with
        | error e => rw [hp] at h; cases h
        | ok p =>
          rw [hp] at h; cases h
          have hpart : rest <:+: s :=
            ((List.suffix_append a rest).trans (suffix_of_splitScheme hsplit)).isInfix
          exact .inr (PathQuery.isPath_of_take hp hend ((Text.utf8ByteSize_le hpart).trans hsize))

/-- The path of a URI is nothing, a star, or a path as it stands. -/
theorem isPath_of_parse (h : parse text = .ok u) :
    u.pathText = "" ∨ u.pathText = "*" ∨ PathQuery.IsPath u.pathText := by
  unfold parse at h
  split at h
  · cases h
  · next hlong =>
    have hsize : (String.ofList text.toList).utf8ByteSize ≤ PathQuery.maxLength := by
      rw [String.ofList_toList]; exact Nat.not_lt.1 hlong
    split at h
    · cases h
    · cases h; exact .inr (.inr ⟨rfl, rfl⟩)
    · cases h; exact .inr (.inl rfl)
    · exact .inl (pathText_of_authorityAlone h)
    · next r _ htext =>
      rw [htext] at hsize
      cases hp : PathQuery.take ('/' :: r) with
      | error e => rw [hp] at h; cases h
      | ok p =>
        rw [hp] at h; cases h
        refine .inr (.inr (PathQuery.isPath_of_take hp (fun c hc => ?_) hsize))
        cases hc; rfl
    · exact (isPath_of_parseFull h hsize).imp_right .inr

end Uri

end GrpcRelay
