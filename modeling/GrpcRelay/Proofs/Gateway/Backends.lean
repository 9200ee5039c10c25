/-
  Backends — the ways to write a list of backends, and what is wrong with a text
  that is none.

  Blanks may stand around every host and every URI, and blank items between the
  others (`Settings.Writes`).  Of what is written, the case of the hosts is all
  that is not read back.  Any other text has an item at fault
  (`Settings.Fault`), and the first of them is what the error is about
  (`Settings.backends_read_back`).
-/
import GrpcRelay.Gateway.Settings
import GrpcRelay.Proofs.Text.Cut

namespace GrpcRelay.Gateway.Settings

open Text

/-! ## Lists as they are written -/

/-- A host and a URI that can be written. -/
structure Writable (b : String × String) : Prop where
  host : Tight b.1.toList
  uri : Tight b.2.toList
  host_plain : ',' ∉ b.1.toList ∧ '=' ∉ b.1.toList
  uri_plain : ',' ∉ b.2.toList

/-- The ways to write a backend. -/
inductive Spells (b : String × String) : List Char → Prop
  | mk {before left right after : List Char}
      (hbefore : isBlankText before = true) (hleft : isBlankText left = true)
      (hright : isBlankText right = true) (hafter : isBlankText after = true) :
      Spells b ((before ++ b.1.toList ++ left) ++ '=' :: (right ++ b.2.toList ++ after))

/-- The backends that an item holds: none if it is blank, else one. -/
inductive Holds (item : List Char) : List (String × String) → Prop
  | blank (h : isBlankText item = true) : Holds item []
  | backend {b} (hb : Writable b) (h : Spells b item) : Holds item [b]

/-- The backends that items hold, in order. -/
inductive Lists : List (List Char) → List (String × String) → Prop
  | nil : Lists [] []
  | cons {item items new bs} (h : Holds item new) (hrest : Lists items bs) :
      Lists (item :: items) (new ++ bs)

/-- The ways to write a list of backends. -/
def Writes (text : List Char) (bs : List (String × String)) : Prop :=
  ∃ items, text = [','].intercalate items ∧ Lists items bs

/-- What is read of a backend. -/
def lowered (b : String × String) : String × String := (lowerString b.1, b.2)

/-- What is wrong with an item that is not blank; the error has its text without the blanks
    around it. -/
inductive Fault (item : List Char) : SettingsError → Prop
  | noUri (hitem : isBlankText item = false) (h : '=' ∉ item) :
      Fault item (.noUri (.ofList (trim item)))
  | emptyPart (host uri : List Char) (hitem : item = host ++ '=' :: uri) (hfirst : '=' ∉ host)
      (h : isBlankText host = true ∨ isBlankText uri = true) :
      Fault item (.emptyPart (.ofList (trim item)))

variable {item host uri : List Char} {items after : List (List Char)} {b : String × String}
  {new bs read : List (String × String)} {e e' : SettingsError} {text : String}

/-! ## One item -/

theorem isBlank_equals : isBlank '=' = false := rfl

theorem backend_trim_of_not_mem (h : '=' ∉ item) :
    backend (trim item) = .error (.noUri (.ofList (trim item))) := by
  have hnot : '=' ∉ trim item := fun hmem => h (mem_of_mem_trim hmem)
  rw [backend, cutFirst?_eq_none_iff.2 hnot]

/-- The blanks around an item do not count for its parts. -/
theorem backend_trim_of_cut (h : cutFirst? '=' item = some (host, uri)) :
    backend (trim item) =
      if trim host = [] ∨ trim uri = [] then .error (.emptyPart (.ofList (trim item)))
      else .ok (.ofList (lowerText (trim host)), .ofList (trim uri)) := by
  rw [backend, cutFirst?_trim isBlank_equals h]
  dsimp only
  rw [trim_trimStart, trim_trimEnd]

theorem Spells.cut (h : Spells b item) (hb : Writable b) :
    ∃ host uri, cutFirst? '=' item = some (host, uri) ∧ trim host = b.1.toList ∧
      trim uri = b.2.toList := by
  cases h with
  | mk hbefore hleft hright hafter =>
    refine ⟨_, _, cutFirst?_append ?_, hb.host.trim_append hbefore hleft,
      hb.uri.trim_append hright hafter⟩
    simp only [List.mem_append, not_or]
    exact ⟨⟨not_mem_of_isBlankText hbefore isBlank_equals, hb.host_plain.2⟩,
      not_mem_of_isBlankText hleft isBlank_equals⟩

theorem Spells.backend_trim (h : Spells b item) (hb : Writable b) :
    backend (trim item) = .ok (lowered b) := by
  obtain ⟨host, uri, hcut, hhost, huri⟩ := h.cut hb
  rw [backend_trim_of_cut hcut, hhost, huri, if_neg, String.ofList_toList]
  · rfl
  · rintro (hnil | hnil)
    · exact hb.host.ne_nil hnil
    · exact hb.uri.ne_nil hnil

theorem Spells.not_blank (h : Spells b item) : isBlankText item = false := by
  cases h with
  | mk =>
    rw [← Bool.not_eq_true]
    intro hblank
    exact not_mem_of_isBlankText hblank isBlank_equals (List.mem_append_right _ (.head _))

theorem Fault.backend_trim (h : Fault item e) : backend (trim item) = .error e := by
  cases h with
  | noUri _ h => exact backend_trim_of_not_mem h
  | emptyPart host uri hitem hfirst h =>
    subst hitem
    rw [backend_trim_of_cut (cutFirst?_append hfirst), if_pos]
    rwa [trim_eq_nil_iff, trim_eq_nil_iff]

theorem Fault.not_blank (h : Fault item e) : isBlankText item = false := by
  cases h with
  | noUri hitem _ => exact hitem
  | emptyPart host uri hitem _ _ =>
    rw [← Bool.not_eq_true]
    intro hblank
    refine not_mem_of_isBlankText hblank isBlank_equals ?_
    rw [hitem]
    exact List.mem_append_right _ (.head uri)

theorem holds_of_cut (hcomma : ',' ∉ item) (h : cutFirst? '=' item = some (host, uri))
    (hhost : isBlankText host = false) (huri : isBlankText uri = false) :
    ∃ b, Holds item [b] := by
  obtain ⟨rfl, hnot⟩ := cutFirst?_eq_some h
  obtain ⟨before, left, hbefore, hleft, hh⟩ := exists_trim host
  obtain ⟨right, after, hright, hafter, hu⟩ := exists_trim uri
  simp only [List.mem_append, List.mem_cons, not_or] at hcomma
  refine ⟨(.ofList (trim host), .ofList (trim uri)), .backend ⟨?_, ?_, ⟨?_, ?_⟩, ?_⟩ ?_⟩
  · simpa using tight_trim hhost
  · simpa using tight_trim huri
  · simpa using fun hc => hcomma.1 (mem_of_mem_trim hc)
  · simpa using fun hc => hnot (mem_of_mem_trim hc)
  · simpa using fun hc => hcomma.2.2 (mem_of_mem_trim hc)
  · have hs : Spells (.ofList (trim host), .ofList (trim uri)) _ := .mk hbefore hleft hright hafter
    rw [String.toList_ofList, String.toList_ofList, ← hh, ← hu] at hs
    exact hs

theorem holds_or_fault (hcomma : ',' ∉ item) : (∃ new, Holds item new) ∨ ∃ e, Fault item e := by
  by_cases hblank : isBlankText item = true
  · exact Or.inl ⟨[], .blank hblank⟩
  · rw [Bool.not_eq_true] at hblank
    cases hcut : cutFirst? '=' item with
    | none => exact Or.inr ⟨_, .noUri hblank (cutFirst?_eq_none_iff.1 hcut)⟩
    | some p =>
      obtain ⟨hitem, hfirst⟩ := cutFirst?_eq_some hcut
      by_cases hempty : isBlankText p.1 = true ∨ isBlankText p.2 = true
      · exact Or.inr ⟨_, .emptyPart p.1 p.2 hitem hfirst hempty⟩
      · rw [not_or, Bool.not_eq_true, Bool.not_eq_true] at hempty
        obtain ⟨b, hb⟩ := holds_of_cut hcomma hcut hempty.1 hempty.2
        exact Or.inl ⟨[b], hb⟩

theorem Holds.not_fault (h : Holds item new) : ¬ Fault item e := by
  intro hf
  cases h with
  | blank h =>
    rw [hf.not_blank] at h
    cases h
  | backend hb h =>
    have hread := hf.backend_trim
    rw [h.backend_trim hb] at hread
    cases hread

theorem Holds.comma_not_mem (h : Holds item new) : ',' ∉ item := by
  have hplain {s : List Char} (hs : isBlankText s = true) : ',' ∉ s := not_mem_of_isBlankText hs rfl
  cases h with
  | blank h => exact hplain h
  | backend hb h =>
    cases h with
    | mk hbefore hleft hright hafter =>
      simp only [List.mem_append, List.mem_cons, not_or]
      exact ⟨⟨⟨hplain hbefore, hb.host_plain.1⟩, hplain hleft⟩, by decide,
        ⟨hplain hright, hb.uri_plain⟩, hplain hafter⟩

/-! ## All items -/

/-- What is read from items. -/
def readItems (items : List (List Char)) : Except SettingsError (List (String × String)) :=
  backendsOf ((items.map trim).filter (· ≠ []))

theorem parseBackends_eq : parseBackends text = readItems (text.toList.splitOn ',') := by
  rw [parseBackends, Settings.items, pieces_eq_splitOn]
  rfl

theorem readItems_blank (h : isBlankText item = true) :
    readItems (item :: items) = readItems items := by
  rw [readItems, List.map_cons, trim_eq_nil_iff.2 h]
  rfl

theorem readItems_of_not_blank (h : isBlankText item = false) :
    readItems (item :: items) =
      match backend (trim item) with
      | .error e => .error e
      | .ok b => (readItems items).map (b :: ·) := by
  have hne : trim item ≠ [] := (tight_trim h).ne_nil
  rw [readItems, List.map_cons, List.filter_cons_of_pos (by simpa using hne), backendsOf]
  rfl

theorem Holds.readItems_cons (h : Holds item new) :
    readItems (item :: items) = (readItems items).map (new.map lowered ++ ·) := by
  cases h with
  | blank h =>
    rw [readItems_blank h]
    cases readItems items <;> rfl
  | backend hb h =>
    rw [readItems_of_not_blank h.not_blank, h.backend_trim hb]
    rfl

theorem Lists.readItems_eq (h : Lists items bs) : readItems items = .ok (bs.map lowered) := by
  induction h with
  | nil => rfl
  | cons h hrest ih =>
    rw [h.readItems_cons, ih, List.map_append]
    rfl

theorem Lists.holds (h : Lists items bs) (hmem : item ∈ items) : ∃ new, Holds item new := by
  induction h with
  | nil => cases hmem
  | cons h hrest ih =>
    rcases List.mem_cons.1 hmem with rfl | hmem
    · exact ⟨_, h⟩
    · exact ih hmem

theorem Lists.not_fault (h : Lists items bs) (hmem : item ∈ items) : ¬ Fault item e := by
  obtain ⟨new, hnew⟩ := h.holds hmem
  exact hnew.not_fault

/-- Reading stops at the first item at fault. -/
theorem Lists.readItems_of_fault (h : Lists items bs) (hf : Fault item e) :
    readItems (items ++ item :: after) = .error e := by
  induction h with
  | nil => rw [List.nil_append, readItems_of_not_blank hf.not_blank, hf.backend_trim]
  | cons h hrest ih =>
    rw [List.cons_append, h.readItems_cons, ih]
    rfl

theorem lists_or_fault (hcomma : ∀ item ∈ items, ',' ∉ item) :
    (∃ bs, Lists items bs) ∨
      ∃ before item after bs e, items = before ++ item :: after ∧ Lists before bs ∧
        Fault item e := by
  induction items with
  | nil => exact Or.inl ⟨[], .nil⟩
  | cons item items ih =>
    obtain ⟨hitem, hitems⟩ := List.forall_mem_cons.1 hcomma
    rcases holds_or_fault hitem with ⟨new, hnew⟩ | ⟨e, he⟩
    · rcases ih hitems with ⟨bs, hbs⟩ | ⟨before, i, after, bs, e, rfl, hbs, hi⟩
      · exact Or.inl ⟨new ++ bs, .cons hnew hbs⟩
      · exact Or.inr ⟨item :: before, i, after, new ++ bs, e, rfl, .cons hnew hbs, hi⟩
    · exact Or.inr ⟨[], item, items, [], e, rfl, .nil, he⟩

/-! ## A text -/

theorem comma_not_mem (text : String) : ∀ item ∈ text.toList.splitOn ',', ',' ∉ item :=
  fun _ => not_mem_of_mem_splitOn

theorem Writes.lists (h : Writes text.toList bs) : Lists (text.toList.splitOn ',') bs := by
  obtain ⟨items, htext, hitems⟩ := h
  cases items with
  | nil =>
    -- no items at all are written as one that is empty
    cases hitems
    rw [htext]
    exact .cons (.blank rfl) .nil
  | cons item items =>
    rw [htext, List.splitOn_intercalate ',' (fun i hi => ?_) (List.cons_ne_nil _ _)]
    · exact hitems
    · obtain ⟨new, hnew⟩ := hitems.holds hi
      exact hnew.comma_not_mem

theorem Lists.writes (h : Lists (text.toList.splitOn ',') bs) : Writes text.toList bs :=
  ⟨_, (List.intercalate_splitOn ',').symm, h⟩

/-- What is read are the backends of a list that the text writes. -/
theorem parseBackends_eq_ok_iff :
    parseBackends text = .ok read ↔ ∃ bs, Writes text.toList bs ∧ read = bs.map lowered := by
  rw [parseBackends_eq]
  constructor
  · intro h
    rcases lists_or_fault (comma_not_mem text) with
      ⟨bs, hbs⟩ | ⟨before, item, after, bs, e, hitems, hbs, hf⟩
    · rw [hbs.readItems_eq] at h
      cases h
      exact ⟨bs, hbs.writes, rfl⟩
    · rw [hitems, hbs.readItems_of_fault hf] at h
      cases h
  · rintro ⟨bs, hbs, rfl⟩
    exact hbs.lists.readItems_eq

/-- The error is about the first item at fault. -/
theorem parseBackends_eq_error_iff :
    parseBackends text = .error e ↔
      ∃ before item after, text.toList.splitOn ',' = before ++ item :: after ∧
        (∀ i ∈ before, ∀ e', ¬ Fault i e') ∧ Fault item e := by
  rw [parseBackends_eq]
  constructor
  · intro h
    rcases lists_or_fault (comma_not_mem text) with
      ⟨bs, hbs⟩ | ⟨before, item, after, bs, e', hitems, hbs, hf⟩
    · rw [hbs.readItems_eq] at h
      cases h
    · rw [hitems, hbs.readItems_of_fault hf] at h
      cases h
      exact ⟨before, item, after, hitems, fun i hi e' => hbs.not_fault hi, hf⟩
  · rintro ⟨before, item, after, hitems, hbefore, hf⟩
    have hcomma (i : List Char) (hi : i ∈ before) : ',' ∉ i :=
      comma_not_mem text i (hitems ▸ List.mem_append_left _ hi)
    rcases lists_or_fault hcomma with ⟨bs, hbs⟩ | ⟨front, i, back, bs, e', rfl, -, hi⟩
    · rw [hitems, hbs.readItems_of_fault hf]
    · exact absurd hi (hbefore i (by simp) e')

/-- **Backends are read back.**  However a list of backends is written, what is read are its
    backends in their order, each of them as often as it stands there, with their hosts in lower
    case and their URIs as they are; and no other text is read.  A text fails exactly if one of its
    items, the blank ones aside, has no `=` or nothing on one side of the first, and the error is
    about the first item of this kind. -/
theorem backends_read_back (text : String) :
    (∀ read, parseBackends text = .ok read ↔
      ∃ bs, Writes text.toList bs ∧ read = bs.map lowered) ∧
    ((∃ e, parseBackends text = .error e) ↔
      ∃ item ∈ text.toList.splitOn ',', ∃ e, Fault item e) ∧
    ∀ e, parseBackends text = .error e ↔
      ∃ before item after, text.toList.splitOn ',' = before ++ item :: after ∧
        (∀ i ∈ before, ∀ e', ¬ Fault i e') ∧ Fault item e := by
  refine ⟨fun read => parseBackends_eq_ok_iff, ?_, fun e => parseBackends_eq_error_iff⟩
  constructor
  · rintro ⟨e, he⟩
    obtain ⟨before, item, after, hitems, -, hf⟩ := parseBackends_eq_error_iff.1 he
    exact ⟨item, by rw [hitems]; simp, e, hf⟩
  · rintro ⟨item, hmem, e, hf⟩
    cases h : parseBackends text with
    | error e => exact ⟨e, rfl⟩
    | ok read =>
      obtain ⟨bs, hbs, -⟩ := parseBackends_eq_ok_iff.1 h
      exact absurd hf (hbs.lists.not_fault hmem)

theorem tight_singleton {c : Char} (h : isBlank c = false) : Tight [c] :=
  ⟨⟨c, [], rfl, h⟩, [], c, rfl, h⟩

/-- A list with blanks in it, and a text with two items at fault. -/
theorem backends_read_back_of_spaced :
    parseBackends " H = u?k=v ,\t,x=y," = .ok [("h", "u?k=v"), ("x", "y")] ∧
      parseBackends "a=b, c ,=d" = .error (.noUri "c") := by
  obtain ⟨hok, -, -⟩ := backends_read_back " H = u?k=v ,\t,x=y,"
  obtain ⟨-, -, herror⟩ := backends_read_back "a=b, c ,=d"
  constructor
  · have hfirst : Writable ("H", "u?k=v") :=
      ⟨tight_singleton rfl, ⟨⟨_, _, rfl, rfl⟩, "u?k=".toList, 'v', rfl, rfl⟩, by decide, by decide⟩
    have hsecond : Writable ("x", "y") :=
      ⟨tight_singleton rfl, tight_singleton rfl, by decide, by decide⟩
    have hspaced : Spells ("H", "u?k=v") " H = u?k=v ".toList :=
      @Spells.mk _ [' '] [' '] [' '] [' '] rfl rfl rfl rfl
    have hbare : Spells ("x", "y") "x=y".toList := @Spells.mk _ [] [] [] [] rfl rfl rfl rfl
    refine (hok _).2 ⟨[("H", "u?k=v"), ("x", "y")], ?_, rfl⟩
    exact ⟨[" H = u?k=v ".toList, ['\t'], "x=y".toList, []], rfl,
      .cons (.backend hfirst hspaced) (.cons (.blank rfl)
        (.cons (.backend hsecond hbare) (.cons (.blank rfl) .nil)))⟩
  · refine (herror _).2 ⟨["a=b".toList], " c ".toList, ["=d".toList], rfl, ?_, ?_⟩
    · rintro i hi e hf
      rw [List.mem_singleton.1 hi] at hf
      have hread := hf.backend_trim
      cases hread
    · exact .noUri rfl (by decide)

end GrpcRelay.Gateway.Settings
