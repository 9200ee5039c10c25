/-
  Method paths — the paths that are read are the texts `/service/method` of two
  parts without a slash or a blank, the slash in front aside
  (`MethodPath.parse_eq_ok_iff`, `MethodPath.parse_eq_ok_iff_or`).  So a method
  is told by its text.
-/
import GrpcRelay.MethodPath
import GrpcRelay.Proofs.Text.Cut

namespace GrpcRelay.MethodPath

variable {path service method : String} {p : MethodPath}

/-- A part of a path: neither empty nor broken by a slash or a blank. -/
def IsPart (s : List Char) : Prop := s ≠ [] ∧ ∀ c ∈ s, isBreak c = false

theorem IsPart.slash_not_mem {s : List Char} (h : IsPart s) : '/' ∉ s :=
  fun hc => absurd (h.2 '/' hc) (by decide)

/-- Both parts are well formed. -/
structure Proper (p : MethodPath) : Prop where
  service : IsPart p.service.toList
  method : IsPart p.method.toList

theorem check_eq_ok_iff {part : PathPart} {text : String} :
    check part text = .ok () ↔ IsPart text.toList := by
  unfold check IsPart
  split
  · next h => simp [h]
  · next h =>
    split
    · next hany =>
      simp only [reduceCtorEq, false_iff, not_and]
      intro _ hall
      obtain ⟨c, hc, hb⟩ := List.any_eq_true.1 hany
      rw [hall c hc] at hb; cases hb
    · next hany => simpa [h] using hany

theorem ofParts_eq_ok_iff : ofParts service method = .ok p ↔ p = ⟨service, method⟩ ∧ p.Proper := by
  have hs : check .service service = .ok () ↔ IsPart service.toList := check_eq_ok_iff
  have hm : check .method method = .ok () ↔ IsPart method.toList := check_eq_ok_iff
  unfold ofParts
  cases hcs : check .service service with
  | error e =>
    rw [hcs] at hs
    constructor
    · intro h; cases h
    · rintro ⟨rfl, hp⟩; cases hs.2 hp.service
  | ok u =>
    cases hcm : check .method method with
    | error e =>
      rw [hcm] at hm
      constructor
      · intro h; cases h
      · rintro ⟨rfl, hp⟩; cases hm.2 hp.method
    | ok v =>
      constructor
      · intro h; cases h
        exact ⟨rfl, hs.1 hcs, hm.1 hcm⟩
      · rintro ⟨rfl, -⟩; rfl

theorem dropSlash_of_head {s : List Char} (h : s.head? ≠ some '/') : dropSlash s = s := by
  unfold dropSlash
  split
  · exact absurd rfl h
  · rfl

theorem dropSlash_eq_iff {s t : List Char} (h : s.head? ≠ some '/') :
    dropSlash t = s ↔ t = s ∨ t = '/' :: s := by
  constructor
  · rintro rfl
    by_cases ht : t.head? = some '/'
    · obtain ⟨r, rfl⟩ := List.head?_eq_some_iff.1 ht
      exact Or.inr rfl
    · exact Or.inl (dropSlash_of_head ht).symm
  · rintro (rfl | rfl)
    · exact dropSlash_of_head h
    · rfl

/-- Exactly the texts of two parts with a slash between them are read. -/
theorem parse_eq_ok_iff :
    parse path = .ok p ↔
      dropSlash path.toList = p.service.toList ++ '/' :: p.method.toList ∧ p.Proper := by
  unfold parse
  constructor
  · intro h
    split at h
    · cases h
    · next service method hcut =>
      obtain ⟨rfl, hp⟩ := ofParts_eq_ok_iff.1 h
      obtain ⟨hs, -⟩ := Text.cutFirst?_eq_some hcut
      exact ⟨by simpa using hs, hp⟩
  · rintro ⟨hs, hp⟩
    rw [hs, Text.cutFirst?_append hp.service.slash_not_mem]
    exact ofParts_eq_ok_iff.2 ⟨by simp, hp⟩

/-- At most one slash in front is taken away, and only there. -/
theorem parse_eq_ok_iff_or :
    parse path = .ok ⟨service, method⟩ ↔
      (path = service ++ "/" ++ method ∨ path = "/" ++ service ++ "/" ++ method) ∧
        IsPart service.toList ∧ IsPart method.toList := by
  have hproper : (⟨service, method⟩ : MethodPath).Proper ↔
      IsPart service.toList ∧ IsPart method.toList :=
    ⟨fun h => ⟨h.service, h.method⟩, fun h => ⟨h.1, h.2⟩⟩
  rw [parse_eq_ok_iff, hproper]
  refine and_congr_left fun hparts => ?_
  have hhead : (service.toList ++ '/' :: method.toList).head? ≠ some '/' := by
    have hslash := hparts.1.slash_not_mem
    obtain ⟨c, r, hservice⟩ := List.exists_cons_of_ne_nil hparts.1.1
    rw [hservice] at hslash ⊢
    rintro ⟨⟩
    exact hslash (.head r)
  rw [dropSlash_eq_iff hhead, ← String.toList_inj, ← String.toList_inj]
  simp

theorem toList_text (p : MethodPath) :
    p.text.toList = '/' :: (p.service.toList ++ '/' :: p.method.toList) := by
  simp [text]

theorem Proper.parse_text (hp : p.Proper) : parse p.text = .ok p :=
  parse_eq_ok_iff.2 ⟨by rw [toList_text]; rfl, hp⟩

theorem proper_of_parse (h : parse path = .ok p) : p.Proper := (parse_eq_ok_iff.1 h).2

theorem Proper.text_inj {q : MethodPath} (hp : p.Proper) (hq : q.Proper) :
    p = q ↔ p.text = q.text := by
  constructor
  · rintro rfl
    rfl
  · intro h
    have hread := hp.parse_text
    rw [h, hq.parse_text] at hread
    cases hread
    rfl

/-- A path with a slash in front is the text of what is read from it. -/
theorem text_of_parse (h : parse path = .ok p) (hs : path.toList.head? = some '/') :
    p.text = path := by
  obtain ⟨r, hr⟩ := List.head?_eq_some_iff.1 hs
  rw [← String.toList_inj, toList_text, ← (parse_eq_ok_iff.1 h).1, hr]
  rfl

/-- A path is read alike with a slash in front and without, but an error that quotes the path quotes
    the one that was given. -/
theorem parse_slash_append_cases (hs : path.toList.head? ≠ some '/') :
    parse ("/" ++ path) = parse path ∨
      (parse path = .error (.noSeparator path) ∧
        parse ("/" ++ path) = .error (.noSeparator ("/" ++ path))) := by
  have hslash : dropSlash ("/" ++ path).toList = path.toList := by
    rw [String.toList_append]
    rfl
  unfold parse
  rw [hslash, dropSlash_of_head hs]
  cases Text.cutFirst? '/' path.toList with
  | none => exact Or.inr ⟨rfl, rfl⟩
  | some parts => exact Or.inl rfl

/-- The slash in front may be missing. -/
theorem parse_slash_append (hs : path.toList.head? ≠ some '/') :
    parse ("/" ++ path) = .ok p ↔ parse path = .ok p := by
  rcases parse_slash_append_cases hs with h | ⟨h, h'⟩
  · rw [h]
  · simp [h, h']

/-- The text of a method has one slash in front. -/
theorem Proper.text_ne_slash_append (hp : p.Proper) (hs : path.toList.head? = some '/') :
    p.text ≠ "/" ++ path := by
  intro heq
  have htext := congrArg String.toList heq
  obtain ⟨r, hr⟩ := List.head?_eq_some_iff.1 hs
  rw [toList_text, String.toList_append, hr] at htext
  obtain ⟨c, service, hservice⟩ := List.exists_cons_of_ne_nil hp.service.1
  rw [hservice] at htext
  cases htext
  exact hp.service.slash_not_mem (by rw [hservice]; exact .head _)

end GrpcRelay.MethodPath
