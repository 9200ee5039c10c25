/-
  Addresses — the text of a canonical address consists of characters that its
  version allows, and it reads back as the address
  (`IpAddress.writes_canonical`).

  An IPv6 address that wraps an IPv4 one has the latter as its canonical form.
  In the text of any other, the longest run of zero groups is the gap, so what
  is read on both sides of the gap leaves room for exactly this run.
-/
import GrpcRelay.Net.Ip
import GrpcRelay.Proofs.Text
import GrpcRelay.Proofs.Text.Cut

namespace GrpcRelay

open Text

/-! ## IPv4 addresses -/

namespace Ipv4

theorem isDigit_digitChar : ∀ d, d < 10 → isDigit d.digitChar = true := by decide

theorem toList_text (ip : Ipv4) :
    ip.text.toList =
      Nat.toDigits 10 ip.a.toNat ++ '.' :: (Nat.toDigits 10 ip.b.toNat ++
        '.' :: (Nat.toDigits 10 ip.c.toNat ++ '.' :: Nat.toDigits 10 ip.d.toNat)) := by
  have hdot : (toString ".").toList = ['.'] := rfl
  simp [text, hdot, Nat.toString_eq_repr, Nat.toList_repr]

theorem octet?_toDigits (n : UInt8) : octet? (Nat.toDigits 10 n.toNat) = some n := by
  have hlt : n.toNat < 256 := n.toNat_lt
  have hshort : (Nat.toDigits 10 n.toNat).length ≤ 3 :=
    (Nat.length_toDigits_le_iff (by decide) (by decide)).2 (by omega)
  have hfront : (Nat.toDigits 10 n.toNat).length = 1 ∨
      (Nat.toDigits 10 n.toNat).head? ≠ some '0' := by
    rcases Nat.eq_zero_or_pos n.toNat with hzero | hpos
    · exact Or.inl (by rw [hzero]; rfl)
    · exact Or.inr (head?_toDigits hpos)
  rw [octet?, if_pos ⟨hshort, hfront⟩, decimal?_toDigits]
  simp [hlt]

theorem dot_not_mem (n : Nat) : '.' ∉ Nat.toDigits 10 n := by
  intro h
  obtain ⟨d, hd, heq⟩ := mem_toDigits (by decide) h
  revert d
  decide

theorem ofText?_text (ip : Ipv4) : ofText? ip.text.toList = some ip := by
  have hpieces : pieces '.' ip.text.toList =
      [Nat.toDigits 10 ip.a.toNat, Nat.toDigits 10 ip.b.toNat, Nat.toDigits 10 ip.c.toNat,
        Nat.toDigits 10 ip.d.toNat] := by
    rw [toList_text, pieces_append (dot_not_mem _), pieces_append (dot_not_mem _),
      pieces_append (dot_not_mem _), pieces_of_not_mem (dot_not_mem _)]
  rw [ofText?, hpieces]
  simp [octet?_toDigits]

theorem mem_text {ip : Ipv4} {c : Char} (h : c ∈ ip.text.toList) :
    isDigit c = true ∨ c = '.' := by
  have hdigit {n : Nat} (h : c ∈ Nat.toDigits 10 n) : isDigit c = true := by
    obtain ⟨d, hd, rfl⟩ := mem_toDigits (by decide) h
    exact isDigit_digitChar d hd
  rw [toList_text] at h
  simp only [List.mem_append, List.mem_cons] at h
  rcases h with h | h | h | h | h | h | h
  · exact Or.inl (hdigit h)
  · exact Or.inr h
  · exact Or.inl (hdigit h)
  · exact Or.inr h
  · exact Or.inl (hdigit h)
  · exact Or.inr h
  · exact Or.inl (hdigit h)

end Ipv4

/-! ## IPv6 addresses -/

namespace Ipv6

/-- A group is put together again from its two bytes, ... -/
theorem ofBytes_bytes (g : UInt16) :
    UInt16.ofNat ((UInt8.ofNat (g.toNat / 256)).toNat * 256 +
      (UInt8.ofNat (g.toNat % 256)).toNat) = g := by
  have hlt : g.toNat < 65536 := g.toNat_lt
  rw [← UInt16.toNat_inj, UInt16.toNat_ofNat', UInt8.toNat_ofNat', UInt8.toNat_ofNat']
  omega

/-- ... and two bytes are found again in their group. -/
theorem bytes_ofBytes (a b : UInt8) :
    UInt8.ofNat ((UInt16.ofNat (a.toNat * 256 + b.toNat)).toNat / 256) = a ∧
      UInt8.ofNat ((UInt16.ofNat (a.toNat * 256 + b.toNat)).toNat % 256) = b := by
  have ha : a.toNat < 256 := a.toNat_lt
  have hb : b.toNat < 256 := b.toNat_lt
  rw [← UInt8.toNat_inj, ← UInt8.toNat_inj, UInt16.toNat_ofNat', UInt8.toNat_ofNat',
    UInt8.toNat_ofNat']
  constructor <;> omega

theorem mapped?_eq_some_iff {ip : Ipv6} {inner : Ipv4} :
    ip.mapped? = some inner ↔ ip.groups = [0, 0, 0, 0, 0, 0xFFFF] ++ inner.groups := by
  constructor
  · intro h
    unfold mapped? at h
    split at h
    · next x y hgroups =>
      cases h
      rw [hgroups, Ipv4.groups, ofBytes_bytes, ofBytes_bytes]
      rfl
    · cases h
  · intro h
    obtain ⟨a, b, c, d⟩ := inner
    obtain ⟨ha, hb⟩ := bytes_ofBytes a b
    obtain ⟨hc, hd⟩ := bytes_ofBytes c d
    rw [mapped?, h, Ipv4.groups]
    simp only [List.cons_append, List.nil_append, ha, hb, hc, hd]

/-! ### Groups -/

/-- Groups in hexadecimal with colons between them. -/
def colons (gs : List UInt16) : List Char := [':'].intercalate (gs.map fun g => hexText g.toNat)

theorem toList_groupText (gs : List UInt16) : (groupText gs).toList = colons gs := by
  simp [groupText, colons, Function.comp_def]

theorem colons_cons_cons (g h : UInt16) (gs : List UInt16) :
    colons (g :: h :: gs) = hexText g.toNat ++ ':' :: colons (h :: gs) := by
  simp [colons]

theorem colons_singleton (g : UInt16) : colons [g] = hexText g.toNat := by
  simp [colons]

theorem colon_not_mem (n : Nat) : ':' ∉ hexText n := by
  intro h
  obtain ⟨d, hd, heq⟩ := mem_toDigits (by decide) h
  revert d
  decide

theorem mem_colons {gs : List UInt16} {c : Char} (h : c ∈ colons gs) :
    (hexValue? c).isSome = true ∨ c = ':' := by
  have hdigit {n : Nat} (h : c ∈ hexText n) : (hexValue? c).isSome = true := by
    obtain ⟨d, hd, rfl⟩ := mem_toDigits (by decide) h
    rw [hexValue?_digitChar d hd]
    rfl
  induction gs with
  | nil => simp [colons] at h
  | cons g gs ih =>
    cases gs with
    | nil =>
      rw [colons_singleton] at h
      exact Or.inl (hdigit h)
    | cons g' gs =>
      rw [colons_cons_cons, List.mem_append, List.mem_cons] at h
      rcases h with h | h | h
      · exact Or.inl (hdigit h)
      · exact Or.inr h
      · exact ih h

theorem group?_hexText (g : UInt16) : group? (hexText g.toNat) = some g := by
  have hlt : g.toNat < 65536 := g.toNat_lt
  have hshort : (hexText g.toNat).length ≤ 4 :=
    (Nat.length_toDigits_le_iff (by decide) (by decide)).2 (by omega)
  rw [group?, if_pos hshort, hexadecimal?_hexText]
  simp

theorem pieces_colons {gs : List UInt16} (h : gs ≠ []) :
    pieces ':' (colons gs) = gs.map fun g => hexText g.toNat := by
  induction gs with
  | nil => exact absurd rfl h
  | cons g gs ih =>
    cases gs with
    | nil => rw [colons_singleton, pieces_of_not_mem (colon_not_mem _)]; rfl
    | cons g' gs =>
      rw [colons_cons_cons, pieces_append (colon_not_mem _), ih (List.cons_ne_nil _ _)]
      rfl

theorem groups?_hexText {tail : Bool} (gs : List UInt16) :
    groups? tail (gs.map fun g => hexText g.toNat) = some gs := by
  induction gs with
  | nil => rfl
  | cons g gs ih =>
    cases gs with
    | nil => simp [groups?, group?_hexText]
    | cons g' gs =>
      rw [List.map_cons, List.map_cons, groups?, group?_hexText]
      · rw [List.map_cons] at ih
        simp [ih]
      · simp

theorem colons_ne_nil {gs : List UInt16} (h : gs ≠ []) : colons gs ≠ [] := by
  have hne (n : Nat) : hexText n ≠ [] := Nat.toDigits_ne_nil
  cases gs with
  | nil => exact absurd rfl h
  | cons g gs =>
    cases gs with
    | nil => rw [colons_singleton]; exact hne _
    | cons g' gs => rw [colons_cons_cons]; exact List.append_ne_nil_of_left_ne_nil (hne _) _

theorem side?_colons {tail : Bool} (gs : List UInt16) : side? tail (colons gs) = some gs := by
  cases gs with
  | nil => rfl
  | cons g gs =>
    have hne := colons_ne_nil (List.cons_ne_nil g gs)
    unfold side?
    split
    · next h => exact absurd h hne
    · rw [pieces_colons (List.cons_ne_nil g gs), groups?_hexText]

/-! ### The gap -/

theorem cutGap?_cons {c : Char} {s : List Char} (hc : c ≠ ':') :
    cutGap? (c :: s) = (cutGap? s).map fun p => (c :: p.1, p.2) := by
  simp [cutGap?, hc]

theorem cutGap?_append {s t : List Char} (hs : ':' ∉ s) :
    cutGap? (s ++ t) = (cutGap? t).map fun p => (s ++ p.1, p.2) := by
  induction s with
  | nil => simp
  | cons c s ih =>
    obtain ⟨hc, hs⟩ : ¬ ':' = c ∧ ':' ∉ s := by simpa using hs
    rw [List.cons_append, cutGap?_cons fun h => hc h.symm, ih hs, Option.map_map]
    rfl

/-- One colon is no gap. -/
theorem cutGap?_colon {s : List Char} (hs : s.head? ≠ some ':') :
    cutGap? (':' :: s) = (cutGap? s).map fun p => (':' :: p.1, p.2) := by
  cases s with
  | nil => rfl
  | cons c s =>
    have hc : c ≠ ':' := by simpa using hs
    simp [cutGap?, hc]

theorem head?_colons (g : UInt16) (gs : List UInt16) (t : List Char) :
    (colons (g :: gs) ++ t).head? ≠ some ':' := by
  have hstart : ∃ r, colons (g :: gs) = hexText g.toNat ++ r := by
    cases gs with
    | nil => exact ⟨[], by rw [colons_singleton, List.append_nil]⟩
    | cons g' gs => exact ⟨_, colons_cons_cons g g' gs⟩
  obtain ⟨r, hr⟩ := hstart
  have hne : hexText g.toNat ≠ [] := Nat.toDigits_ne_nil
  have hnot := colon_not_mem g.toNat
  obtain ⟨c, s, hs⟩ := List.exists_cons_of_ne_nil hne
  rw [hs] at hnot hr
  rw [hr]
  intro hc
  cases hc
  exact hnot (.head s)

/-- There is no gap between groups. -/
theorem cutGap?_colons_append (gs : List UInt16) (t : List Char) :
    cutGap? (colons gs ++ t) = (cutGap? t).map fun p => (colons gs ++ p.1, p.2) := by
  induction gs with
  | nil => simp [colons]
  | cons g gs ih =>
    cases gs with
    | nil => rw [colons_singleton, cutGap?_append (colon_not_mem _)]
    | cons g' gs =>
      rw [colons_cons_cons, List.append_assoc, cutGap?_append (colon_not_mem _), List.cons_append,
        cutGap?_colon (head?_colons g' gs t), ih, Option.map_map, Option.map_map]
      congr 1
      funext p
      simp

/-- At this place, zeros of this number stand in the groups. -/
def IsRun (gs : List UInt16) (run : Nat × Nat) : Prop :=
  gs = gs.take run.1 ++ List.replicate run.2 0 ++ gs.drop (run.1 + run.2)

theorem isRun_takeWhile (gs : List UInt16) (i : Nat) :
    IsRun gs (i, ((gs.drop i).takeWhile (· == 0)).length) := by
  have hsplit := List.takeWhile_append_dropWhile (p := (· == 0)) (l := gs.drop i)
  have hzeros : (gs.drop i).takeWhile (· == 0) =
      List.replicate ((gs.drop i).takeWhile (· == 0)).length 0 := by
    rw [List.eq_replicate_iff]
    exact ⟨rfl, fun g hg => by simpa using List.mem_takeWhile_imp hg⟩
  have hrest : gs.drop (i + ((gs.drop i).takeWhile (· == 0)).length) =
      (gs.drop i).dropWhile (· == 0) := by
    have hdrop := congrArg (List.drop ((gs.drop i).takeWhile (· == 0)).length) hsplit
    rw [List.drop_left, List.drop_drop] at hdrop
    exact hdrop.symm
  rw [IsRun, hrest, ← hzeros, List.append_assoc, hsplit, List.take_append_drop]

theorem isRun_zeroRun (gs : List UInt16) : IsRun gs (zeroRun gs) := by
  have hfold : ∀ (is : List Nat) (best : Nat × Nat), IsRun gs best →
      IsRun gs (is.foldl (fun best i =>
        let n := ((gs.drop i).takeWhile (· == 0)).length
        if best.2 < n then (i, n) else best) best) := by
    intro is
    induction is with
    | nil => exact fun _ h => h
    | cons i is ih =>
      intro best h
      refine ih _ ?_
      dsimp only
      split
      · exact isRun_takeWhile gs i
      · exact h
  exact hfold _ _ rfl

theorem text_of_unmapped {ip : Ipv6} (h : ip.mapped? = none) :
    ip.text.toList =
      if 2 ≤ (zeroRun ip.groups).2 then
        colons (ip.groups.take (zeroRun ip.groups).1) ++ ':' :: ':' ::
          colons (ip.groups.drop ((zeroRun ip.groups).1 + (zeroRun ip.groups).2))
      else colons ip.groups := by
  rw [text, h]
  dsimp only
  split
  · simp [toList_groupText]
  · exact toList_groupText _

theorem ofText?_text {ip : Ipv6} (h : ip.mapped? = none) : ofText? ip.text.toList = some ip := by
  obtain ⟨gs, hlen⟩ := ip
  have hrun := isRun_zeroRun gs
  rw [text_of_unmapped h]
  dsimp only
  generalize zeroRun gs = run at hrun ⊢
  obtain ⟨start, n⟩ := run
  dsimp only
  split
  · next hn =>
    have hcut : cutGap? (colons (gs.take start) ++ ':' :: ':' :: colons (gs.drop (start + n))) =
        some (colons (gs.take start), colons (gs.drop (start + n))) := by
      rw [cutGap?_colons_append]
      simp [cutGap?]
    have hroom := congrArg List.length hrun
    simp only [List.length_append, List.length_replicate, hlen] at hroom
    have hzeros : 8 - ((gs.take start).length + (gs.drop (start + n)).length) = n := by omega
    rw [ofText?, hcut]
    dsimp only
    rw [side?_colons, side?_colons]
    show (if _ then ofGroups? (gs.take start ++ List.replicate (8 - _) 0 ++ _) else none) = _
    rw [if_pos (by omega), hzeros, ← hrun, ofGroups?, dif_pos hlen]
  · have hcut : cutGap? (colons gs) = none := by
      simpa [cutGap?] using cutGap?_colons_append gs []
    have hne : gs ≠ [] := fun h => by rw [h] at hlen; cases hlen
    rw [ofText?, hcut]
    dsimp only
    rw [pieces_colons hne, groups?_hexText]
    simp [ofGroups?, hlen]

theorem mem_text {ip : Ipv6} {c : Char} (h : ip.mapped? = none) (hc : c ∈ ip.text.toList) :
    (hexValue? c).isSome = true ∨ c = ':' := by
  rw [text_of_unmapped h] at hc
  split at hc
  · simp only [List.mem_append, List.mem_cons] at hc
    rcases hc with hc | hc | hc | hc
    · exact mem_colons hc
    · exact Or.inr hc
    · exact Or.inr hc
    · exact mem_colons hc
  · exact mem_colons hc

end Ipv6

/-! ## Canonical addresses -/

namespace IpAddress

/-- The canonical form is the address itself, or the IPv4 address that it wraps. -/
inductive Canonical : IpAddress → IpAddress → Prop
  | v4 (ip : Ipv4) : Canonical (.v4 ip) (.v4 ip)
  | wrapped (ip : Ipv6) (inner : Ipv4)
      (h : ip.groups = [0, 0, 0, 0, 0, 0xFFFF] ++ inner.groups) : Canonical (.v6 ip) (.v4 inner)
  | v6 (ip : Ipv6)
      (h : ∀ inner : Ipv4, ip.groups ≠ [0, 0, 0, 0, 0, 0xFFFF] ++ inner.groups) :
      Canonical (.v6 ip) (.v6 ip)

/-- A text is the address in the characters of its version, and nothing else. -/
inductive Writes : IpAddress → String → Prop
  | v4 {ip : Ipv4} {s : String} (h : Ipv4.ofText? s.toList = some ip)
      (hall : ∀ c ∈ s.toList, isDigit c = true ∨ c = '.') : Writes (.v4 ip) s
  | v6 {ip : Ipv6} {s : String} (h : Ipv6.ofText? s.toList = some ip)
      (hall : ∀ c ∈ s.toList, (hexValue? c).isSome = true ∨ c = ':') : Writes (.v6 ip) s

theorem mapped?_eq_none_iff {ip : Ipv6} :
    ip.mapped? = none ↔ ∀ inner : Ipv4, ip.groups ≠ [0, 0, 0, 0, 0, 0xFFFF] ++ inner.groups := by
  rw [Option.eq_none_iff_forall_ne_some]
  exact forall_congr' fun inner => not_congr Ipv6.mapped?_eq_some_iff

theorem canonical_canonical (ip : IpAddress) : Canonical ip ip.canonical := by
  cases ip with
  | v4 ip => exact .v4 ip
  | v6 ip =>
    unfold canonical
    dsimp only
    split
    · next inner h => exact .wrapped ip inner (Ipv6.mapped?_eq_some_iff.1 h)
    · next h => exact .v6 ip (mapped?_eq_none_iff.1 h)

/-- The text of a canonical address is read back as this address. -/
theorem writes_canonical (ip : IpAddress) : Writes ip.canonical ip.canonical.text := by
  have hip := canonical_canonical ip
  generalize ip.canonical = ip' at hip
  cases hip with
  | v4 ip => exact .v4 (Ipv4.ofText?_text ip) fun c => Ipv4.mem_text
  | wrapped ip inner => exact .v4 (Ipv4.ofText?_text inner) fun c => Ipv4.mem_text
  | v6 ip h =>
    have hplain := mapped?_eq_none_iff.2 h
    exact .v6 (Ipv6.ofText?_text hplain) fun c => Ipv6.mem_text hplain

end IpAddress

end GrpcRelay
