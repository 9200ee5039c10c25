/-
  Matching — which paths a pattern matches (`Pattern.Matches`).

  A look-up in a table finds something for every path that one of its patterns
  matches (`RouteTable.isSome_find`).  A pattern with a brace in its text matches
  a path that is not its text (`Pattern.matches_of_not_isPlain`).
-/
import GrpcRelay.Router.Table
import Mathlib.Data.List.TakeWhile

namespace GrpcRelay

/-- The paths that a pattern matches: a literal matches itself, a parameter a segment, which only
    a slash makes up for being empty, and a catch-all whatever is left. -/
inductive Pattern.Matches : Pattern → List Char → Prop
  | nil : Matches [] []
  | literal (c : Char) {p : Pattern} {s : List Char} (h : Matches p s) :
      Matches (.literal c :: p) (c :: s)
  | lastParam {s : List Char} (hne : s ≠ []) (hs : '/' ∉ s) : Matches [.param] s
  | param {p : Pattern} {s t : List Char} (hs : '/' ∉ s) (h : Matches p t) :
      Matches (.param :: .literal '/' :: p) (s ++ '/' :: t)
  | rest {p : Pattern} {s : List Char} (hne : s ≠ []) : Matches (.rest :: p) s

namespace RouteTable

variable {α : Type} {routes : List (Pattern × α)} {p : Pattern} {a : α} {c : Char}
  {s : List Char}

/-! ## What is left of a route -/

theorem mem_afterLiteral :
    (p, a) ∈ routes.filterMap (afterLiteral c) ↔ (.literal c :: p, a) ∈ routes := by
  rw [List.mem_filterMap]
  constructor
  · rintro ⟨⟨q, b⟩, hmem, h⟩
    unfold afterLiteral at h
    split at h
    · next d p' b' he =>
      split at h
      · next hc =>
        cases h; cases he
        rw [hc]; exact hmem
      · cases h
    · cases h
  · intro hmem
    exact ⟨_, hmem, by simp [afterLiteral]⟩

theorem mem_afterParam : (p, a) ∈ routes.filterMap afterParam ↔ (.param :: p, a) ∈ routes := by
  rw [List.mem_filterMap]
  constructor
  · rintro ⟨⟨q, b⟩, hmem, h⟩
    unfold afterParam at h
    split at h
    · next he => cases h; cases he; exact hmem
    · cases h
  · intro hmem
    exact ⟨_, hmem, rfl⟩

theorem findSome?_onEnd (h : routes.findSome? onEnd = some a) : ([], a) ∈ routes := by
  obtain ⟨⟨q, b⟩, hmem, hq⟩ := List.exists_of_findSome?_eq_some h
  unfold onEnd at hq
  split at hq
  · next he => cases hq; cases he; exact hmem
  · cases hq

theorem findSome?_onRest (h : routes.findSome? onRest = some a) :
    ∃ p, (.rest :: p, a) ∈ routes := by
  obtain ⟨⟨q, b⟩, hmem, hq⟩ := List.exists_of_findSome?_eq_some h
  unfold onRest at hq
  split at hq
  · next p _ he => cases hq; cases he; exact ⟨p, hmem⟩
  · cases hq

theorem isSome_findSome?_onEnd (h : ([], a) ∈ routes) : (routes.findSome? onEnd).isSome = true :=
  List.findSome?_isSome_iff.2 ⟨_, h, rfl⟩

theorem isSome_findSome?_onRest (h : (.rest :: p, a) ∈ routes) :
    (routes.findSome? onRest).isSome = true :=
  List.findSome?_isSome_iff.2 ⟨_, h, rfl⟩

/-! ## Segments -/

/-- A path is the segment that it begins with and the rest after it. -/
theorem takeWhile_append_afterSegment (s : List Char) :
    s.takeWhile (· ≠ '/') ++ afterSegment s = s := by
  exact List.takeWhile_append_dropWhile

theorem slash_not_mem_takeWhile (s : List Char) : '/' ∉ s.takeWhile (· ≠ '/') := by
  intro h
  simpa using List.mem_takeWhile_imp h

theorem afterSegment_eq_nil_iff : afterSegment s = [] ↔ '/' ∉ s := by
  rw [afterSegment, List.dropWhile_eq_nil_iff]
  constructor
  · intro h hs
    simpa using h _ hs
  · intro h c hc
    have hne : c ≠ '/' := fun he => h (he ▸ hc)
    simpa using hne

theorem afterSegment_append {t : List Char} (hs : '/' ∉ s) :
    afterSegment (s ++ '/' :: t) = '/' :: t := by
  rw [afterSegment, List.dropWhile_append_of_pos]
  · simp
  · intro c hc
    have hne : c ≠ '/' := fun he => hs (he ▸ hc)
    simpa using hne

/-- What comes after a segment begins with a slash. -/
theorem eq_slash_of_afterSegment {t : List Char} (h : afterSegment s = c :: t) : c = '/' := by
  have hhead := List.head?_dropWhile_not (· ≠ '/') s
  rw [show s.dropWhile (· ≠ '/') = c :: t from h] at hhead
  simpa using hhead

/-! ## Looking up -/

/-- Something is found where a pattern matches. -/
theorem isSome_find (hmem : (p, a) ∈ routes) (hm : p.Matches s) :
    (find routes s).isSome = true := by
  induction hm generalizing routes with
  | nil => rw [find]; exact isSome_findSome?_onEnd hmem
  | literal c hm ih =>
    rw [find, Option.isSome_or, ih (mem_afterLiteral.2 hmem), Bool.true_or]
  | @lastParam s hne hs =>
    cases s with
    | nil => exact absurd rfl hne
    | cons c r =>
      have hend := isSome_findSome?_onEnd (mem_afterParam.2 hmem)
      rw [find]
      split
      · simp [Option.isSome_or, hend]
      · next hseg => rw [afterSegment_eq_nil_iff.2 hs] at hseg; cases hseg
  | @param p s t hs hm ih =>
    have hfind := ih (mem_afterLiteral.2 (mem_afterParam.2 hmem))
    cases hst : s ++ '/' :: t with
    | nil => simp at hst
    | cons c r =>
      have hseg : afterSegment (c :: r) = '/' :: t := by rw [← hst]; exact afterSegment_append hs
      rw [find]
      split
      · next hnil => rw [hseg] at hnil; cases hnil
      · next d u hseg' =>
        rw [hseg] at hseg'; cases hseg'
        simp [Option.isSome_or, hfind]
  | @rest p s hne =>
    cases s with
    | nil => exact absurd rfl hne
    | cons c r =>
      have hrest := isSome_findSome?_onRest hmem
      rw [find]
      simp [Option.isSome_or, hrest]

end RouteTable

/-! ## Patterns without braces -/

namespace Pattern

variable {p : Pattern} {cs s : List Char}

/-- Literals match themselves. -/
theorem matches_literals_iff : Matches (cs.map .literal) s ↔ s = cs := by
  induction cs generalizing s with
  | nil =>
    constructor
    · intro h; cases h; rfl
    · rintro rfl; exact .nil
  | cons c cs ih =>
    constructor
    · intro h
      cases h with
      | literal _ h => rw [ih.1 h]
    · rintro rfl
      exact .literal c (ih.2 rfl)

/-- Whether a character is a brace. -/
def IsBrace (c : Char) : Prop := c = '\x7b' ∨ c = '\x7d'

/-- Whether a text holds no brace. -/
def IsPlain (s : List Char) : Prop := ∀ c ∈ s, ¬ IsBrace c

theorem unescape_of_isPlain (h : IsPlain cs) : unescape cs = cs.map fun c => (c, false) := by
  fun_induction unescape cs with
  | case1 => rfl
  | case2 => rfl
  | case3 a b r hab ih => exact absurd hab.2 (h a List.mem_cons_self)
  | case4 a b r hab ih =>
    rw [ih fun c hc => h c (List.mem_cons_of_mem a hc)]
    rfl

theorem readParts_of_isPlain (h : IsPlain cs) :
    readParts (cs.map fun c => (c, false)) = .ok (cs.map .literal) := by
  induction cs with
  | nil => rw [List.map_nil, readParts]; rfl
  | cons c cs ih =>
    obtain ⟨hopen, hclose⟩ := not_or.1 (h c List.mem_cons_self)
    rw [List.map_cons, readParts]
    simp only [hopen, hclose, Bool.false_eq_true, if_false]
    rw [ih fun c' hc => h c' (List.mem_cons_of_mem c hc)]
    rfl

theorem parse_eq_ok {text : String} (h : parse text = .ok p) :
    text.toList.head? = some '/' ∧ readParts (unescape text.toList) = .ok p := by
  unfold parse at h
  dsimp only at h
  split at h
  · cases h
  · next hhead =>
    split at h
    · cases h
    · split at h
      · cases h
      · next q hq =>
        split at h
        · cases h
        · cases h; exact ⟨not_not.1 hhead, hq⟩

theorem parse_of_readParts {text : String} (hslash : text.toList.head? = some '/')
    (hold : hasOldSyntax text.toList = false) (hread : readParts (unescape text.toList) = .ok p)
    (hcount : p.count .param < maxParams) : parse text = .ok p := by
  unfold parse
  dsimp only
  rw [if_neg (not_not.2 hslash), hold, hread]
  exact if_neg (Nat.not_le.2 hcount)

/-- A text without braces that is a pattern is one of literals. -/
theorem parse_of_isPlain {text : String} (h : IsPlain text.toList) (hp : parse text = .ok p) :
    p = text.toList.map .literal := by
  have hr := (parse_eq_ok hp).2
  rw [unescape_of_isPlain h, readParts_of_isPlain h] at hr
  exact (Except.ok.inj hr).symm

theorem parse_of_hasOldSyntax {text : String} (hslash : text.toList.head? = some '/')
    (hold : hasOldSyntax text.toList = true) : parse text = .error .oldSyntax := by
  unfold parse
  dsimp only
  rw [if_neg (not_not.2 hslash), if_pos hold]

/-- A text without braces is a pattern unless a segment begins with an old mark. -/
theorem parse_literals {text : String} (hslash : text.toList.head? = some '/')
    (hold : hasOldSyntax text.toList = false) (hplain : IsPlain text.toList) :
    parse text = .ok (text.toList.map .literal) := by
  refine parse_of_readParts hslash hold ?_ ?_
  · rw [unescape_of_isPlain hplain, readParts_of_isPlain hplain]
  · have hnone : (text.toList.map PatternPart.literal).count .param = 0 := by
      rw [List.count_eq_zero]
      simp
    rw [hnone]
    exact Nat.zero_lt_succ _

/-! ## Patterns with braces -/

/-- A parameter stands before a slash or at the end, a catch-all at the end. -/
inductive Closed : Pattern → Prop
  | nil : Closed []
  | literal (c : Char) {p : Pattern} (h : Closed p) : Closed (.literal c :: p)
  | lastParam : Closed [.param]
  | param {p : Pattern} (h : Closed p) : Closed (.param :: .literal '/' :: p)
  | rest : Closed [.rest]

/-- What the first part of a pattern is read from. -/
inductive Reads : List (Char × Bool) → Pattern → Prop
  | nil : Reads [] []
  | literal (c : Char) (escaped : Bool) {r : List (Char × Bool)} {p : Pattern}
      (hc : IsBrace c → escaped = true) (h : readParts r = .ok p) :
      Reads ((c, escaped) :: r) (.literal c :: p)
  | last {s : List (Char × Bool)} {part : PatternPart} (hp : part = .param ∨ part = .rest) :
      Reads s [part]
  | param {s t : List (Char × Bool)} {p : Pattern} (ht : t.length < s.length)
      (h : readParts t = .ok p) : Reads s (.param :: .literal '/' :: p)

theorem isWild_of_cutParam {s t : List (Char × Bool)} {part : PatternPart}
    (h : cutParam s = some (part, t)) : part = .param ∨ part = .rest := by
  unfold cutParam at h
  split at h
  · cases h
  · split at h
    · cases h
    · split at h
      · split at h
        · cases h
        · obtain ⟨_, -, he⟩ := Option.map_eq_some_iff.1 h
          cases he; exact Or.inr rfl
      · obtain ⟨_, -, he⟩ := Option.map_eq_some_iff.1 h
        cases he; exact Or.inl rfl

theorem map_eq_ok {ε β γ : Type} {f : β → γ} {x : Except ε β} {b : γ} (h : x.map f = .ok b) :
    ∃ a, x = .ok a ∧ f a = b := by
  cases x with
  | error e => cases h
  | ok a => exact ⟨a, rfl, Except.ok.inj h⟩

theorem reads_of_readParts {s : List (Char × Bool)} (h : readParts s = .ok p) : Reads s p := by
  cases s with
  | nil => rw [readParts] at h; cases h; exact .nil
  | cons x r =>
    obtain ⟨c, escaped⟩ := x
    rw [readParts] at h
    split at h
    · next he =>
      obtain ⟨q, hq, rfl⟩ := map_eq_ok h
      exact .literal c escaped (fun _ => he) hq
    · split at h
      · cases h
      · next hclose =>
        split at h
        · next hopen =>
          split at h
          · cases h
          · next part t hcut =>
            have hlt := cutParam_length hcut
            have hwild := isWild_of_cutParam hcut
            split at h
            · cases h; exact .last hwild
            · split at h
              · cases h
              · next hslash =>
                obtain ⟨hpart, hhead⟩ := not_or.1 hslash
                obtain ⟨u, rfl⟩ := List.head?_eq_some_iff.1 (not_not.1 hhead)
                obtain ⟨q, hq, rfl⟩ := map_eq_ok h
                rw [readParts] at hq
                obtain ⟨q', hq', rfl⟩ := map_eq_ok hq
                rw [hwild.resolve_right hpart]
                refine .param ?_ hq'
                simp only [List.length_cons] at hlt ⊢
                omega
        · next hopen =>
          obtain ⟨q, hq, rfl⟩ := map_eq_ok h
          exact .literal c escaped (fun hb => absurd hb (not_or.2 ⟨hopen, hclose⟩)) hq

theorem closed_of_readParts {s : List (Char × Bool)} (h : readParts s = .ok p) : p.Closed := by
  induction hn : s.length using Nat.strongRecOn generalizing s p with
  | ind n ih =>
    subst hn
    cases reads_of_readParts h with
    | nil => exact .nil
    | literal c _ _ hr => exact .literal c (ih _ (by simp) hr rfl)
    | last hp =>
      rcases hp with rfl | rfl
      · exact .lastParam
      · exact .rest
    | param ht hr => exact .param (ih _ ht hr rfl)

/-- A pattern holds a parameter or a catch-all, or else it is literal and all braces in it were
    escaped. -/
theorem wild_or_literals {s : List (Char × Bool)} (h : readParts s = .ok p) :
    (.param ∈ p ∨ .rest ∈ p) ∨
      p = (s.map Prod.fst).map .literal ∧ ∀ x ∈ s, IsBrace x.1 → x.2 = true := by
  induction hn : s.length using Nat.strongRecOn generalizing s p with
  | ind n ih =>
    subst hn
    cases reads_of_readParts h with
    | nil => exact Or.inr ⟨rfl, nofun⟩
    | literal c escaped hc hr =>
      rcases ih _ (by simp) hr rfl with hw | ⟨rfl, hall⟩
      · exact Or.inl (hw.imp (List.mem_cons_of_mem _) (List.mem_cons_of_mem _))
      · refine Or.inr ⟨rfl, fun x hx => ?_⟩
        rcases List.mem_cons.1 hx with rfl | hx
        · exact hc
        · exact hall x hx
    | last hp => exact Or.inl (hp.imp (fun h => by simp [h]) (fun h => by simp [h]))
    | param => exact Or.inl (Or.inl List.mem_cons_self)

/-- A path that a pattern matches, with `n` characters for each parameter. -/
def fill (n : Nat) : Pattern → List Char
  | [] => []
  | .literal c :: p => c :: fill n p
  | .param :: p => List.replicate n 'a' ++ fill n p
  | .rest :: p => List.replicate n 'a' ++ fill n p

theorem matches_fill {n : Nat} (hn : n ≠ 0) (h : p.Closed) : p.Matches (p.fill n) := by
  have hne : List.replicate n 'a' ≠ [] := by simpa using hn
  have hslash : '/' ∉ List.replicate n 'a' := by simp
  induction h with
  | nil => exact .nil
  | literal c _ ih => exact .literal c ih
  | lastParam => exact .lastParam (by simpa [fill] using hn) (by simp [fill])
  | param _ ih => exact .param hslash ih
  | rest => exact .rest (by simpa [fill] using hn)

theorem le_length_fill {n : Nat} (h : .param ∈ p ∨ .rest ∈ p) : n ≤ (p.fill n).length := by
  induction p with
  | nil => simp at h
  | cons part p ih =>
    cases part with
    | literal c =>
      have hp := ih (by simpa using h)
      simp only [fill, List.length_cons]
      omega
    | param | rest =>
      simp only [fill, List.length_append, List.length_replicate]
      omega

theorem length_unescape_le (cs : List Char) : (unescape cs).length ≤ cs.length := by
  fun_induction unescape cs with
  | case1 | case2 => exact Nat.le_refl _
  | case3 a b r hab ih | case4 a b r hab ih =>
    simp only [List.length_cons] at ih ⊢
    omega

/-- An escape takes two characters. -/
theorem length_unescape_lt (h : ∃ x ∈ unescape cs, x.2 = true) :
    (unescape cs).length < cs.length := by
  fun_induction unescape cs with
  | case1 => simp at h
  | case2 => simp at h
  | case3 a b r hab ih =>
    have := length_unescape_le r
    simp only [List.length_cons]
    omega
  | case4 a b r hab ih =>
    simp only [List.length_cons] at ih ⊢
    have := ih (by simpa using h)
    omega

theorem exists_brace_unescape (h : ¬ IsPlain cs) : ∃ x ∈ unescape cs, IsBrace x.1 := by
  have hb : ∃ c ∈ cs, IsBrace c := by simpa [IsPlain] using h
  clear h
  fun_induction unescape cs with
  | case1 => simp at hb
  | case2 => simpa using hb
  | case3 a b r hab ih => exact ⟨_, List.mem_cons_self, hab.2⟩
  | case4 a b r hab ih =>
    obtain ⟨c, hc, hbrace⟩ := hb
    rcases List.mem_cons.1 hc with rfl | hc
    · exact ⟨_, List.mem_cons_self, hbrace⟩
    · obtain ⟨x, hx, hxb⟩ := ih ⟨c, hc, hbrace⟩
      exact ⟨x, List.mem_cons_of_mem _ hx, hxb⟩

/-- **A pattern with braces matches other paths than its text**: paths of any length, or a shorter
    one that holds a brace itself. -/
theorem matches_of_not_isPlain {text : String} (hb : ¬ IsPlain text.toList)
    (hp : parse text = .ok p) :
    (∀ n, ∃ s, n < s.length ∧ s.head? = some '/' ∧ p.Matches s) ∨
      ∃ s, s.length < text.toList.length ∧ s.head? = some '/' ∧ ¬ IsPlain s ∧ p.Matches s := by
  obtain ⟨hhead, hr⟩ := parse_eq_ok hp
  obtain ⟨r, hr'⟩ := List.head?_eq_some_iff.1 hhead
  have hfirst : ∃ u, unescape text.toList = ('/', false) :: u := by
    rw [hr']
    cases r with
    | nil => exact ⟨[], rfl⟩
    | cons b r => exact ⟨unescape (b :: r), by rw [unescape, if_neg (by simp)]⟩
  obtain ⟨u, hu⟩ := hfirst
  rcases wild_or_literals hr with hw | ⟨rfl, hall⟩
  · refine Or.inl fun n => ⟨p.fill (n + 1), le_length_fill hw, ?_, ?_⟩
    · rw [hu, readParts] at hr
      obtain ⟨q, -, rfl⟩ := map_eq_ok hr
      rfl
    · exact matches_fill (Nat.succ_ne_zero n) (closed_of_readParts hr)
  · obtain ⟨x, hx, hxb⟩ := exists_brace_unescape hb
    refine Or.inr ⟨_, ?_, ?_, fun h => ?_, matches_literals_iff.2 rfl⟩
    · rw [List.length_map]
      exact length_unescape_lt ⟨x, hx, hall x hx hxb⟩
    · rw [hu]; rfl
    · exact h x.1 (List.mem_map_of_mem hx) hxb

/-- Only a text without braces spells the literals of one. -/
theorem eq_of_parse_literals {text : String} (h : parse text = .ok (cs.map .literal))
    (hcs : IsPlain cs) : text.toList = cs := by
  have hinj {l l' : List Char} (h : l.map PatternPart.literal = l'.map .literal) : l = l' :=
    (List.map_inj_right fun _ _ => PatternPart.literal.inj).1 h
  by_cases hplain : IsPlain text.toList
  · exact (hinj (parse_of_isPlain hplain h)).symm
  · obtain ⟨x, hx, hbrace⟩ := exists_brace_unescape hplain
    rcases wild_or_literals (parse_eq_ok h).2 with hw | ⟨heq, -⟩
    · simp at hw
    · refine absurd hbrace (hcs x.1 ?_)
      rw [hinj heq]
      exact List.mem_map_of_mem hx

end Pattern

end GrpcRelay
