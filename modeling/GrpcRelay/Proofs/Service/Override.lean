/-
  Overrides — what a backend sees of the method that a director names.

  The method is checked as a method path, and then its text is read as the path
  of a URI, where a `?` or a `#` ends the path (`MethodPath.SentAs`).  A method
  without such a mark is called as it was checked.  With a mark in its second
  part it is called under a shorter name, and with one in its first part what is
  called is no method any more (`override_ends_at_mark`).
-/
import GrpcRelay.Proofs.MethodPath
import GrpcRelay.Proofs.Service.Launch
import GrpcRelay.Proofs.Uri

namespace GrpcRelay

open PathQuery (isMark isMark_slash)

variable {m : String} {p q : MethodPath} {path : PathQuery}

/-- Two checks stand between a method and its path. -/
theorem backendPath_eq_ok_iff :
    backendPath m = .ok path ↔
      ∃ p, MethodPath.parse m = .ok p ∧ PathQuery.parse p.text = .ok path := by
  unfold backendPath
  cases hm : MethodPath.parse m with
  | error e => simp
  | ok p =>
    cases hp : PathQuery.parse p.text with
    | error e => simp [hp]
    | ok q => simp [hp]

/-! ## The method up to a mark -/

namespace MethodPath

/-- What is read from the text of a method as far as its first mark. -/
structure Remains (p q : MethodPath) : Prop where
  unmarked : ∀ c ∈ p.service.toList, isMark c = false
  service : q.service = p.service
  method : q.method.toList = p.method.toList.takeWhile (! isMark ·)
  ne_nil : q.method.toList ≠ []

theorem Remains.proper (h : Remains p q) (hp : p.Proper) : q.Proper := by
  refine ⟨h.service ▸ hp.service, h.ne_nil, fun c hc => hp.method.2 c ?_⟩
  rw [h.method] at hc
  exact (List.takeWhile_prefix _).subset hc

theorem takeWhile_of_unmarked (hs : ∀ c ∈ p.service.toList, isMark c = false) :
    (p.service.toList ++ '/' :: p.method.toList).takeWhile (! isMark ·) =
      p.service.toList ++ '/' :: p.method.toList.takeWhile (! isMark ·) := by
  rw [List.takeWhile_append_of_pos (by simpa using hs),
    List.takeWhile_cons_of_pos (by rw [isMark_slash]; rfl)]

theorem takeWhile_of_marked {r : List Char} (hs : ¬ ∀ c ∈ p.service.toList, isMark c = false) :
    (p.service.toList ++ r).takeWhile (! isMark ·) =
      p.service.toList.takeWhile (! isMark ·) := by
  rw [List.takeWhile_append, if_neg]
  intro hlen
  have hall := List.takeWhile_eq_self_iff.1 ((List.takeWhile_prefix _).eq_of_length hlen)
  exact hs fun c hc => by simpa using hall c hc

theorem Proper.parse_takeWhile_iff (hp : p.Proper) {text : String}
    (htext : text.toList = p.text.toList.takeWhile (! isMark ·)) :
    parse text = .ok q ↔ Remains p q := by
  have hdrop : dropSlash text.toList =
      (p.service.toList ++ '/' :: p.method.toList).takeWhile (! isMark ·) := by
    rw [htext, toList_text]
    rfl
  rw [parse_eq_ok_iff, hdrop]
  by_cases hs : ∀ c ∈ p.service.toList, isMark c = false
  · rw [takeWhile_of_unmarked hs]
    constructor
    · rintro ⟨heq, hq⟩
      have hslash : '/' ∉ p.method.toList.takeWhile (! isMark ·) :=
        fun h => hp.method.slash_not_mem ((List.takeWhile_prefix _).subset h)
      obtain ⟨hservice, -, hmethod⟩ :=
        (List.append_cons_inj_of_notMem hp.service.slash_not_mem hslash).1 heq
      exact ⟨hs, String.toList_inj.1 hservice.symm, hmethod.symm, hq.method.1⟩
    · intro h
      rw [h.service, ← h.method]
      exact ⟨rfl, h.proper hp⟩
  · rw [takeWhile_of_marked hs]
    constructor
    · rintro ⟨heq, -⟩
      have hslash : '/' ∈ p.service.toList := by
        refine (List.takeWhile_prefix (! isMark ·)).subset ?_
        rw [heq]
        exact List.mem_append_right _ (.head _)
      exact absurd hslash hp.service.slash_not_mem
    · intro h
      exact absurd h.unmarked hs

/-- Nothing is lost of a method exactly if there is no mark in it. -/
theorem Proper.remains_self_iff (hp : p.Proper) :
    Remains p p ↔ ∀ c ∈ p.text.toList, isMark c = false := by
  rw [toList_text]
  constructor
  · intro h
    have hmethod := List.takeWhile_eq_self_iff.1 h.method.symm
    simp only [List.forall_mem_cons, List.forall_mem_append]
    exact ⟨isMark_slash, h.unmarked, isMark_slash, fun c hc => by simpa using hmethod c hc⟩
  · intro h
    simp only [List.forall_mem_cons, List.forall_mem_append] at h
    obtain ⟨-, hservice, -, hmethod⟩ := h
    refine ⟨hservice, rfl, ?_, hp.method.1⟩
    exact (List.takeWhile_eq_self_iff.2 fun c hc => by simp [hmethod c hc]).symm

/-! ## The path of the request -/

/-- What the path of a request says of the method that it was made for. -/
structure SentAs (p : MethodPath) (r : PathQuery) : Prop where
  /-- The text ends where a fragment begins, ... -/
  text : r.text.toList = p.text.toList.takeWhile (· ≠ '#')
  /-- ... and the path that the backend sees at the first mark. -/
  path : r.pathText.toList = p.text.toList.takeWhile (! isMark ·)
  whole : r.text = p.text ↔ '#' ∉ p.text.toList
  /-- The methods that the backend can read from it. -/
  read : ∀ q, parse r.pathText = .ok q ↔ Remains p q
  same : parse r.pathText = .ok p ↔ ∀ c ∈ p.text.toList, isMark c = false

theorem Proper.sentAs (hp : p.Proper) (h : PathQuery.parse p.text = .ok path) :
    p.SentAs path := by
  unfold PathQuery.parse at h
  split at h
  · cases h
  · obtain ⟨hpath, htext⟩ := PathQuery.takeWhile_of_take h
    have hview : path.pathText.toList = p.text.toList.takeWhile (! isMark ·) := by
      have hne : path.path ≠ [] := by
        rw [hpath, toList_text, List.takeWhile_cons_of_pos (by rw [isMark_slash]; rfl)]
        exact List.cons_ne_nil _ _
      rw [PathQuery.pathText, if_neg hne, String.toList_ofList, hpath]
    refine ⟨htext, hview, ?_, fun q => hp.parse_takeWhile_iff hview,
      (hp.parse_takeWhile_iff hview).trans hp.remains_self_iff⟩
    rw [← String.toList_inj, htext, List.takeWhile_eq_self_iff]
    constructor
    · intro hall hmem
      simpa using hall '#' hmem
    · intro hnot c hc
      simpa using ne_of_mem_of_not_mem hc hnot

end MethodPath

/-- **Overrides end at a mark.**  What a director names is taken only if it reads as a method, and
    what is sent is the text of this method up to a `#`; the path in it ends at a `?` as well.  So
    the backend sees the method that was checked exactly if there is neither in it; if there is
    one, the backend sees the service with what stands before the mark, or no method at all.  The
    request of every call is made in this way, of the route's method or of the call's own. -/
theorem override_ends_at_mark (config : Config) :
    (∀ m path, backendPath m = .ok path → ∃ p, MethodPath.parse m = .ok p ∧ p.SentAs path) ∧
    ∀ (s : Service) (i : Nat) (c : Call),
      Service.Run (.ofConfig config) s → s.calls[i]? = some c → ¬ c.Dormant →
      ∃ context route p, c.context = some context ∧ c.route = some route ∧
        MethodPath.parse (route.method.getD context.method.text) = .ok p ∧
        p.SentAs c.request.path := by
  have hsent (m path) (h : backendPath m = .ok path) :
      ∃ p, MethodPath.parse m = .ok p ∧ p.SentAs path := by
    obtain ⟨p, hm, hp⟩ := backendPath_eq_ok_iff.1 h
    exact ⟨p, hm, (MethodPath.proper_of_parse hm).sentAs hp⟩
  refine ⟨hsent, fun s i c hr hc hopen => ?_⟩
  obtain ⟨method, route, -, hl⟩ := hr.launched hc hopen
  obtain ⟨p, hm, hp⟩ := hsent _ _ hl.path
  exact ⟨_, route, p, hl.context, hl.route, hm, hp⟩

/-- A route to another method, with a mark in its name. -/
def markedRoute : Route String Unit := (Route.toBackend "up").withMethod "a.S/get#all"

/-- The backend sees another method than the one that was checked. -/
theorem override_ends_at_mark_of_marked :
    ∃ s c p, Service.Run (.ofConfig .default) s ∧ s.calls[0]? = some c ∧ ¬ c.Dormant ∧
      c.arrival.path = "/a.S/put" ∧ MethodPath.parse "a.S/get#all" = .ok p ∧
      p.SentAs c.request.path ∧ MethodPath.parse c.request.path.pathText = .ok ⟨"a.S", "get"⟩ ∧
      p ≠ ⟨"a.S", "get"⟩ := by
  have hnew : Service.Run (.ofConfig .default) _ := .refl
  have harrived := hnew.tail (.event (.arrive ⟨"/a.S/put", none, {}, none⟩) trivial)
  have hconsulted := harrived.tail (.branch 0 .accept rfl)
  have hrouted := hconsulted.tail (.event (.decide 0 (.ok markedRoute)) nofun)
  have htracked := hrouted.tail (.branch 0 .track rfl)
  have hr := htracked.tail (.branch 0 .launch rfl)
  obtain ⟨context, route, p, hk, hroute, hm, hsent⟩ :=
    (override_ends_at_mark .default).2 _ 0 _ hr rfl fun hd => hd.not_reading rfl
  have hchecked : MethodPath.parse "a.S/get#all" = .ok ⟨"a.S", "get#all"⟩ := rfl
  have hp : MethodPath.parse "a.S/get#all" = .ok p := by
    cases hroute
    exact hm
  rw [hchecked] at hp
  cases hp
  refine ⟨_, _, _, hr, rfl, fun hd => hd.not_reading rfl, rfl, rfl, hsent, ?_, by decide⟩
  exact (hsent.read _).2 ⟨by simp [isMark], rfl, rfl, by simp⟩

/-- What is called is not always what was checked. -/
theorem not_called_as_checked :
    ¬ ∀ m path p, backendPath m = .ok path → MethodPath.parse m = .ok p →
      path.text = p.text ∧ MethodPath.parse path.pathText = .ok p := by
  intro h
  have hsent : backendPath "a#b/c" = .ok ⟨"/a".toList, none⟩ := rfl
  have hchecked : MethodPath.parse "a#b/c" = .ok ⟨"a#b", "c"⟩ := rfl
  exact absurd (h _ _ _ hsent hchecked).1 (by decide)

end GrpcRelay
