/-
  Connections — flow control loses no byte and forgets no stream.

  Every byte of a window is room, or on its way, or was read and is not claimed
  back yet, and no more is set aside for the streams than there is room
  (`Connection.Balanced`).  A stream that could be granted bytes waits in turn,
  and streams wait only where no room is left (`Connection.Served`).  Both hold
  whatever happens to a connection (`Connection.Run.sound`).
-/
import GrpcRelay.Connection
import Mathlib.Algebra.GroupWithZero.Nat
import Mathlib.Algebra.Order.BigOperators.Group.List
import Mathlib.Algebra.Order.Group.Nat
import Mathlib.Data.List.Basic
import Mathlib.Logic.Relation

namespace GrpcRelay

/-! ## Windows -/

theorem Window.read_total (w : Window) (n : Nat) :
    (w.read n).room + (w.read n).unclaimed = w.room + w.unclaimed + n := by
  simp only [read]
  split
  · exact (Nat.add_assoc ..).symm
  · exact (Nat.add_assoc ..).symm

theorem Window.room_le_read (w : Window) (n : Nat) : w.room ≤ (w.read n).room := by
  simp only [read]
  split
  · exact Nat.le_add_right ..
  · exact Nat.le_refl _

/-! ## Streams -/

namespace Outflow

variable {o o' o'' : Outflow} {n owed : Nat}

/-- How many bytes of the window of today's connection are on their way on the stream. -/
def onTheWay (o : Outflow) : Nat := if o.attached then o.unread else 0

/-- The books of a stream: all bytes of its window are accounted for, of which the window has still
    to be told that `owed` were read.  A stream of an earlier connection has nothing to send. -/
structure Kept (owed : Nat) (o : Outflow) : Prop where
  read : o.read ≤ o.sent
  window : o.attached = true →
    o.window.room + o.window.unclaimed + o.unread + owed = Window.size
  granted : o.attached = true → o.granted ≤ o.window.room
  isIdle : o.attached = false → o.isIdle = true

/-- The stream has not been opened. -/
def IsNew (o : Outflow) : Prop := o = { unopened with attached := o.attached }

theorem isIdle_iff : o.isIdle = true ↔ o.isOpen = false ∧ o.backlog = 0 ∧ o.granted = 0 := by
  simp [isIdle, and_assoc]

theorem IsNew.isIdle (h : o.IsNew) : o.isIdle = true := by
  rw [h]
  rfl

theorem IsNew.finish (h : o.IsNew) : o.finish.IsNew := by
  unfold IsNew at *
  rw [h]
  rfl

theorem IsNew.close (h : o.IsNew) : o.close.IsNew := by
  unfold IsNew at *
  rw [h]
  rfl

theorem lack_of_isIdle (h : o.isIdle = true) : o.lack = 0 := by
  obtain ⟨hopen, hbacklog, hgranted⟩ := isIdle_iff.1 h
  simp [lack, want, hopen, hbacklog, hgranted]

theorem grant_zero_of_isIdle (h : o.isIdle = true) : o.grant 0 = o := by
  obtain ⟨hopen, hbacklog, hgranted⟩ := isIdle_iff.1 h
  cases o
  simp_all [grant, flow, Window.send]

theorem isIdle_finish (h : o.isIdle = true) : o.finish.isIdle = true := by
  obtain ⟨-, hbacklog, hgranted⟩ := isIdle_iff.1 h
  simp [isIdle_iff, finish, hbacklog, hgranted]

theorem backlog_le_want (o : Outflow) : o.backlog ≤ o.want := by
  unfold want
  split <;> omega

theorem want_grant (o : Outflow) (n : Nat) : (o.grant n).want = o.want - o.flow n := by
  have hle : o.flow n ≤ o.backlog := Nat.min_le_right ..
  unfold want grant
  dsimp only
  split <;> omega

/-- What is granted is what the stream lacks no more. -/
theorem lack_grant (hn : n ≤ o.lack) : (o.grant n).lack = o.lack - n := by
  have hwant := o.want_grant n
  have hle := o.backlog_le_want
  unfold lack at hn ⊢
  rw [hwant]
  unfold grant flow Window.send at *
  dsimp only at *
  omega

/-- What is granted in bounds is sent in bounds. -/
theorem flow_le (hn : n ≤ o.lack) (hg : o.granted ≤ o.window.room) :
    o.flow n ≤ o.granted + n ∧ o.flow n ≤ o.backlog ∧ o.granted + n ≤ o.window.room := by
  unfold flow lack at *
  omega

theorem Kept.grant (h : o.Kept owed) (hn : n ≤ o.lack) : (o.grant n).Kept owed := by
  by_cases ha : o.attached = true
  · obtain ⟨hflow, -, hroom⟩ := flow_le hn (h.granted ha)
    have hread := h.read
    have hwindow := h.window ha
    refine ⟨?_, fun _ => ?_, fun _ => ?_, fun hf => absurd (ha.symm.trans hf) nofun⟩
    · exact Nat.le_add_right_of_le hread
    · unfold unread Outflow.grant Window.send at *
      dsimp only
      omega
    · unfold Outflow.grant Window.send
      dsimp only
      omega
  -- nothing is granted to a stream of an earlier connection
  · have hidle := h.isIdle (eq_false_of_ne_true ha)
    obtain rfl : n = 0 := Nat.le_zero.1 (lack_of_isIdle hidle ▸ hn)
    rwa [grant_zero_of_isIdle hidle]

theorem onTheWay_grant (h : o.Kept owed) (hn : n ≤ o.lack) :
    (o.grant n).onTheWay = o.onTheWay + o.flow n := by
  have hread := h.read
  by_cases ha : o.attached = true
  · unfold onTheWay unread Outflow.grant
    simp only [ha, if_true]
    omega
  · have hidle := h.isIdle (eq_false_of_ne_true ha)
    obtain rfl : n = 0 := Nat.le_zero.1 (lack_of_isIdle hidle ▸ hn)
    have hflow : o.flow 0 = 0 := by
      rw [flow, (isIdle_iff.1 hidle).2.1, Nat.min_zero]
    rw [grant_zero_of_isIdle hidle, hflow, Nat.add_zero]

theorem Kept.finish (h : o.Kept owed) : o.finish.Kept owed where
  read := h.read
  window := h.window
  granted ha := Nat.le_trans (Nat.min_le_left ..) (h.granted ha)
  isIdle ha := isIdle_finish (h.isIdle ha)

theorem lack_finish_le (o : Outflow) : o.finish.lack ≤ o.lack := by
  have hle := o.backlog_le_want
  unfold lack
  show min (o.backlog - min o.granted o.backlog) (o.window.room - min o.granted o.backlog) ≤ _
  omega

theorem Kept.close (h : o.Kept owed) : o.close.Kept owed :=
  ⟨h.read, h.window, fun _ => Nat.zero_le _, fun _ => rfl⟩

theorem isIdle_close (o : Outflow) : o.close.isIdle = true := rfl

theorem kept_unopened : unopened.Kept 0 :=
  ⟨Nat.le_refl _, fun _ => rfl, fun _ => Nat.zero_le _, nofun⟩

/-! ### Being served -/

/-- What serving makes of a stream: all that it was given to send is still sent or waits, no more of
    it waits than before, and a stream that needs nothing is left alone. -/
structure Eases (o o' : Outflow) : Prop where
  offered : o'.offered = o.offered
  backlog : o'.backlog ≤ o.backlog
  isIdle : o.isIdle = true → o'.isIdle = true

theorem Eases.refl (o : Outflow) : o.Eases o := ⟨rfl, Nat.le_refl _, id⟩

theorem Eases.trans (h : o.Eases o') (h' : o'.Eases o'') : o.Eases o'' :=
  ⟨h'.offered.trans h.offered, Nat.le_trans h'.backlog h.backlog, fun hi => h'.isIdle (h.isIdle hi)⟩

theorem eases_grant (hn : n ≤ o.lack) : o.Eases (o.grant n) where
  offered := by
    have hle : o.flow n ≤ o.backlog := Nat.min_le_right ..
    unfold offered Outflow.grant
    dsimp only
    omega
  backlog := Nat.sub_le ..
  isIdle hi := by
    obtain rfl : n = 0 := Nat.le_zero.1 (lack_of_isIdle hi ▸ hn)
    rwa [grant_zero_of_isIdle hi]

theorem eases_finish (o : Outflow) : o.Eases o.finish := ⟨rfl, Nat.le_refl _, isIdle_finish⟩

/-! ## All streams together -/

/-- The sum of what all streams have of something. -/
def total (f : Outflow → Nat) (os : List Outflow) : Nat := (os.map f).sum

variable {f : Outflow → Nat} {os : List Outflow} {i : Nat}

theorem le_total (h : os[i]? = some o) : f o ≤ total f os :=
  List.le_sum_of_mem (List.mem_map_of_mem (List.mem_of_getElem? h))

/-- One stream changes. -/
theorem total_set (h : os[i]? = some o) (o' : Outflow) :
    total f (os.set i o') + f o = total f os + f o' := by
  induction os generalizing i with
  | nil => cases h
  | cons a os ih =>
    cases i with
    | zero =>
      cases h
      simp [total]
      omega
    | succ i =>
      have := ih h
      simp only [total, List.set_cons_succ, List.map_cons, List.sum_cons] at this ⊢
      omega

end Outflow

namespace Connection

open Outflow (total)

variable {c c' c'' : Connection} {o o' : Outflow} {i j n : Nat} {owed owed' : Nat → Nat}
  {line : List Nat}

/-! ## The books -/

/-- The books of a connection: each stream has its own; all bytes of the window that the streams
    share are accounted for; and what is set aside for the streams is there. -/
structure Balanced (owed : Nat → Nat) (c : Connection) : Prop where
  streams : ∀ i (o : Outflow), c.streams[i]? = some o → o.Kept (owed i)
  window : c.window.room + c.window.unclaimed + total Outflow.onTheWay c.streams = Window.size
  granted : total Outflow.granted c.streams ≤ c.window.room

theorem free_eq (c : Connection) : c.free = c.window.room - total Outflow.granted c.streams := by
  rw [free, total, List.sum_eq_foldr, List.foldr_map]

theorem update_of_getElem? (f : Outflow → Outflow) (h : c.streams[i]? = some o) :
    c.update i f = { c with streams := c.streams.set i (f o) } := by
  simp [update, List.modify_eq_set_getElem?, h]

theorem update_of_none (f : Outflow → Outflow) (h : c.streams[i]? = none) : c.update i f = c := by
  rw [update, List.modify_eq_self (List.getElem?_eq_none_iff.1 h)]

/-- One stream changes, and the window with it. -/
theorem Balanced.set {w : Window} {waiting : List Nat} (h : c.Balanced owed)
    (hi : c.streams[i]? = some o) (hk : o'.Kept (owed' i)) (howed : ∀ j, j ≠ i → owed' j = owed j)
    (hwindow : w.room + w.unclaimed + o'.onTheWay =
      c.window.room + c.window.unclaimed + o.onTheWay)
    (hgranted : total Outflow.granted c.streams + o'.granted ≤ w.room + o.granted) :
    Balanced owed' ⟨w, c.streams.set i o', waiting⟩ where
  streams j oj hj := by
    by_cases hji : j = i
    · subst hji
      rw [show (c.streams.set j o')[j]? = some o' by
        simp [(List.getElem?_eq_some_iff.1 hi).1]] at hj
      cases hj
      exact hk
    · rw [howed j hji]
      exact h.streams j oj ((List.getElem?_set_ne fun he => hji he.symm).symm.trans hj)
  window := by
    have hset := Outflow.total_set hi o' (f := Outflow.onTheWay)
    have hsum := h.window
    show w.room + w.unclaimed + total Outflow.onTheWay (c.streams.set i o') = Window.size
    omega
  granted := by
    have hset := Outflow.total_set hi o' (f := Outflow.granted)
    show total Outflow.granted (c.streams.set i o') ≤ w.room
    omega

theorem Balanced.wait {waiting : List Nat} (h : c.Balanced owed) :
    Balanced owed { c with waiting } := ⟨h.streams, h.window, h.granted⟩

theorem getElem?_update (c : Connection) (i j : Nat) (f : Outflow → Outflow) :
    (c.update i f).streams[j]? = c.streams[j]?.map fun o => if i = j then f o else o :=
  List.getElem?_modify f i c.streams j

theorem exists_of_getElem?_update {f : Outflow → Outflow}
    (h : (c.update i f).streams[j]? = some o') :
    ∃ o, c.streams[j]? = some o ∧ (if i = j then f o else o) = o' := by
  rwa [getElem?_update, Option.map_eq_some_iff] at h

/-- A change of a stream that takes nothing from the window. -/
theorem Balanced.update {f : Outflow → Outflow} (h : c.Balanced owed)
    (howed : ∀ j, j ≠ i → owed' j = owed j)
    (hf : ∀ o : Outflow, c.streams[i]? = some o → o.Kept (owed i) →
      (f o).Kept (owed' i) ∧ (f o).onTheWay = o.onTheWay ∧ (f o).granted ≤ o.granted) :
    (c.update i f).Balanced owed' := by
  cases hi : c.streams[i]? with
  | none =>
    rw [update_of_none f hi]
    refine ⟨fun j o hj => ?_, h.window, h.granted⟩
    have hne : j ≠ i := by
      rintro rfl
      rw [hi] at hj
      cases hj
    exact howed j hne ▸ h.streams j o hj
  | some o =>
    obtain ⟨hk, hway, hgranted⟩ := hf o hi (h.streams i o hi)
    rw [update_of_getElem? f hi]
    exact h.set hi hk howed (by rw [hway]) (Nat.add_le_add h.granted hgranted)

/-- What a stream is given and sends. -/
theorem assign_of_getElem? (h : c.streams[i]? = some o) :
    c.assign i =
      { window := c.window.send (o.flow (min o.lack c.free))
        streams := c.streams.set i (o.grant (min o.lack c.free))
        waiting := if 0 < (o.grant (min o.lack c.free)).lack && !c.waiting.contains i then
          c.waiting ++ [i] else c.waiting } := by
  rw [assign, h]

theorem assign_of_none (h : c.streams[i]? = none) : c.assign i = c := by
  rw [assign, h]

/-- What is sent and what is left of the window's room. -/
theorem Balanced.flow_le (h : c.Balanced owed) (hi : c.streams[i]? = some o)
    (hfree : n ≤ c.free) :
    o.flow n ≤ o.granted + n ∧ total Outflow.granted c.streams + n ≤ c.window.room ∧
      o.granted ≤ total Outflow.granted c.streams := by
  have hgranted := h.granted
  have hle := Outflow.le_total (f := Outflow.granted) hi
  rw [free_eq] at hfree
  exact ⟨Nat.min_le_left .., by omega, hle⟩

theorem Balanced.assign (h : c.Balanced owed) (i : Nat) : (c.assign i).Balanced owed := by
  cases hi : c.streams[i]? with
  | none => rwa [assign_of_none hi]
  | some o =>
    have hk := h.streams i o hi
    have hn : min o.lack c.free ≤ o.lack := Nat.min_le_left ..
    obtain ⟨hflow, hroom, hle⟩ := h.flow_le hi (Nat.min_le_right ..)
    rw [assign_of_getElem? hi]
    generalize min o.lack c.free = n at hn hflow hroom
    refine h.set hi (hk.grant hn) (fun _ _ => rfl) ?_ ?_
    · rw [Outflow.onTheWay_grant hk hn]
      show c.window.room - o.flow n + c.window.unclaimed + _ = _
      omega
    · show _ + (o.granted + n - o.flow n) ≤ c.window.room - o.flow n + o.granted
      omega

/-- A grant is taken from what is free, whether it is sent at once or set aside. -/
theorem Balanced.free_assign (h : c.Balanced owed) (hi : c.streams[i]? = some o) :
    (c.assign i).free = c.free - min o.lack c.free := by
  obtain ⟨hflow, hroom, hle⟩ := h.flow_le hi (Nat.min_le_right o.lack c.free)
  have hfree := c.free_eq
  rw [assign_of_getElem? hi, free_eq ⟨_, _, _⟩]
  generalize min o.lack c.free = n at hflow hroom
  have hset := Outflow.total_set (f := Outflow.granted) hi (o.grant n)
  have hgranted : (o.grant n).granted = o.granted + n - o.flow n := rfl
  show c.window.room - o.flow n - total Outflow.granted (c.streams.set i (o.grant n)) = _
  omega

/-! ## Turns -/

/-- Who could be granted bytes waits in turn or is in this line, and nobody waits where there is
    room. -/
structure Served (line : List Nat) (c : Connection) : Prop where
  waits : ∀ i (o : Outflow), c.streams[i]? = some o → 0 < o.lack → i ∈ c.waiting ∨ i ∈ line
  full : c.waiting ≠ [] → c.free = 0

theorem getElem?_assign_ne (h : j ≠ i) : (c.assign i).streams[j]? = c.streams[j]? := by
  cases hi : c.streams[i]? with
  | none => rw [assign_of_none hi]
  | some o =>
    rw [assign_of_getElem? hi]
    exact List.getElem?_set_ne fun he => h he.symm

theorem getElem?_assign_self (h : c.streams[i]? = some o) :
    (c.assign i).streams[i]? = some (o.grant (min o.lack c.free)) := by
  rw [assign_of_getElem? h]
  exact List.getElem?_set_self (List.getElem?_eq_some_iff.1 h).1

theorem mem_waiting_assign (h : j ∈ c.waiting) : j ∈ (c.assign i).waiting := by
  cases hi : c.streams[i]? with
  | none => rwa [assign_of_none hi]
  | some o =>
    rw [assign_of_getElem? hi]
    dsimp only
    split
    · exact List.mem_append_left _ h
    · exact h

/-- The first of a line is served, or waits for the rest. -/
theorem Served.assign (h : Served (i :: line) c) (hb : c.Balanced owed) :
    Served line (c.assign i) := by
  cases hi : c.streams[i]? with
  | none =>
    rw [assign_of_none hi]
    refine ⟨fun j o hj hlack => (h.waits j o hj hlack).imp_right fun hmem => ?_, h.full⟩
    rcases List.mem_cons.1 hmem with rfl | hmem
    · rw [hi] at hj; cases hj
    · exact hmem
  | some o =>
    have hlack := Outflow.lack_grant (Nat.min_le_left o.lack c.free)
    constructor
    · intro j oj hj hpos
      by_cases hji : j = i
      · subst hji
        rw [getElem?_assign_self hi] at hj
        cases hj
        refine .inl ?_
        rw [assign_of_getElem? hi]
        dsimp only
        by_cases hmem : j ∈ c.waiting
        · simp [hmem]
        · simp [hmem, hpos]
      · rw [getElem?_assign_ne hji] at hj
        rcases h.waits j oj hj hpos with hw | hmem
        · exact .inl (mem_waiting_assign hw)
        · exact .inr ((List.mem_cons.1 hmem).resolve_left hji)
    · intro hwaiting
      rw [hb.free_assign hi]
      by_cases hw : c.waiting = []
      -- only the stream itself can wait, which lacks more than was free
      · have hpos : 0 < (o.grant (min o.lack c.free)).lack := by
          by_contra hno
          rw [assign_of_getElem? hi] at hwaiting
          simp [hno, hw] at hwaiting
        omega
      · rw [h.full hw, Nat.zero_sub]

theorem Balanced.serveAll (h : c.Balanced owed) (line : List Nat) :
    (serveAll line c).Balanced owed := by
  induction line generalizing c with
  | nil => exact h
  | cons i line ih =>
    rw [Connection.serveAll]
    split
    · exact h.wait
    · exact ih (h.assign i)

theorem Served.serveAll (h : Served line c) (hb : c.Balanced owed) :
    Served [] (serveAll line c) := by
  induction line generalizing c with
  | nil => exact h
  | cons i line ih =>
    rw [Connection.serveAll]
    split
    · next hfree =>
      refine ⟨fun j o hj hlack => .inl ?_, fun _ => hfree⟩
      rcases h.waits j o hj hlack with hmem | hmem
      · exact List.mem_append_right _ hmem
      · exact List.mem_append_left _ hmem
    · exact ih (h.assign hb) (hb.assign i)

theorem Balanced.serve (h : c.Balanced owed) : c.serve.Balanced owed := h.wait.serveAll c.waiting

/-- Serving those that wait leaves nobody out. -/
theorem served_serve (hb : c.Balanced owed)
    (h : ∀ i (o : Outflow), c.streams[i]? = some o → 0 < o.lack → i ∈ c.waiting) :
    Served [] c.serve :=
  Served.serveAll ⟨fun i o hi hlack => .inr (h i o hi hlack), absurd rfl⟩ hb.wait

/-- A stream that changes has to be served again, the others need not be. -/
theorem Served.update {f : Outflow → Outflow} (h : Served [] c)
    (hf : ∀ o, (f o).granted = o.granted) : Served [i] (c.update i f) where
  waits j o' hj hlack := by
    obtain ⟨o, ho, rfl⟩ := exists_of_getElem?_update hj
    by_cases hij : i = j
    · exact .inr (List.mem_singleton.2 hij.symm)
    · rw [if_neg hij] at hlack
      exact (h.waits j o ho hlack).imp_right fun hmem => absurd hmem List.not_mem_nil
  full hw := by
    have hfree : (c.update i f).free = c.free := by
      cases hi : c.streams[i]? with
      | none => rw [update_of_none f hi]
      | some o =>
        have hset := Outflow.total_set (f := Outflow.granted) hi (f o)
        rw [hf] at hset
        rw [update_of_getElem? f hi, free_eq, free_eq]
        exact congrArg _ (Nat.add_right_cancel hset)
    exact hfree.trans (h.full hw)

/-! ## What happens to a connection -/

/-- A connection in good order. -/
structure Sound (c : Connection) : Prop where
  balanced : c.Balanced fun _ => 0
  served : c.Served []

/-- A stream that changes is served again. -/
theorem Sound.update_assign {f : Outflow → Outflow} (h : c.Sound)
    (hf : ∀ o : Outflow, c.streams[i]? = some o → o.Kept 0 →
      (f o).Kept 0 ∧ (f o).onTheWay = o.onTheWay)
    (hgranted : ∀ o, (f o).granted = o.granted) : ((c.update i f).assign i).Sound := by
  have hb : (c.update i f).Balanced fun _ => 0 := h.balanced.update (fun _ _ => rfl) fun o hi hk =>
    ⟨(hf o hi hk).1, (hf o hi hk).2, (hgranted o).le⟩
  exact ⟨hb.assign i, (h.served.update hgranted).assign hb⟩

/-- A stream that needs less makes room for those that wait. -/
theorem Sound.update_serve {f : Outflow → Outflow} (h : c.Sound)
    (hf : ∀ o : Outflow, o.Kept 0 →
      (f o).Kept 0 ∧ (f o).onTheWay = o.onTheWay ∧ (f o).granted ≤ o.granted)
    (hlack : ∀ o, (f o).lack ≤ o.lack) : (c.update i f).serve.Sound := by
  have hb : (c.update i f).Balanced fun _ => 0 :=
    h.balanced.update (fun _ _ => rfl) fun o _ hk => hf o hk
  refine ⟨hb.serve, served_serve hb fun j o' hj hpos => ?_⟩
  obtain ⟨o, ho, rfl⟩ := exists_of_getElem?_update hj
  refine (h.served.waits j o ho (Nat.lt_of_lt_of_le hpos ?_)).resolve_right List.not_mem_nil
  split
  · exact hlack o
  · exact Nat.le_refl _

theorem sound_fresh : fresh.Sound :=
  ⟨⟨fun _ _ h => (nomatch h), rfl, Nat.zero_le _⟩, fun _ _ h => (nomatch h), absurd rfl⟩

theorem Sound.addStream (h : c.Sound) : c.addStream.Sound := by
  have hstreams {i : Nat} {o : Outflow} (hi : (c.streams ++ [.unopened])[i]? = some o) :
      c.streams[i]? = some o ∨ o = .unopened := by
    by_cases hlt : i < c.streams.length
    · exact .inl (by rwa [List.getElem?_append_left hlt] at hi)
    · rw [List.getElem?_append_right (Nat.not_lt.1 hlt)] at hi
      exact .inr (List.mem_singleton.1 (List.mem_of_getElem? hi))
  have htotal (f : Outflow → Nat) (hf : f .unopened = 0) :
      total f (c.streams ++ [.unopened]) = total f c.streams := by
    simp [total, hf]
  refine ⟨⟨fun i o hi => ?_, ?_, ?_⟩, fun i o hi hlack => ?_, fun hw => ?_⟩
  · rcases hstreams hi with hi | rfl
    · exact h.balanced.streams i o hi
    · exact Outflow.kept_unopened
  · show _ + total Outflow.onTheWay (c.streams ++ [.unopened]) = _
    rw [htotal _ rfl]
    exact h.balanced.window
  · show total Outflow.granted (c.streams ++ [.unopened]) ≤ _
    rw [htotal _ rfl]
    exact h.balanced.granted
  · rcases hstreams hi with hi | rfl
    · exact h.served.waits i o hi hlack
    · cases hlack
  · rw [free_eq]
    show _ - total Outflow.granted (c.streams ++ [.unopened]) = _
    rw [htotal _ rfl]
    exact c.free_eq.symm.trans (h.served.full hw)

theorem Sound.openStream (h : c.Sound)
    (hnew : ∀ o : Outflow, c.streams[i]? = some o → o.IsNew) : (c.openStream i).Sound := by
  refine h.update_assign (fun o hi _ => ?_) fun _ => rfl
  rw [hnew o hi]
  refine ⟨⟨Nat.le_refl _, fun _ => rfl, fun _ => Nat.zero_le _, fun ha => (nomatch ha)⟩, ?_⟩
  unfold Outflow.onTheWay
  split <;> split <;> rfl

theorem Sound.offer {bytes : Nat} (h : c.Sound)
    (ha : ∀ o : Outflow, c.streams[i]? = some o → o.attached = true) :
    (c.offer i bytes).Sound := by
  refine h.update_assign (fun o hi hk => ⟨?_, rfl⟩) fun _ => rfl
  exact ⟨hk.read, hk.window, hk.granted, fun hf => absurd ((ha o hi).symm.trans hf) nofun⟩

theorem Sound.finish (h : c.Sound) (i : Nat) : (c.finish i).Sound :=
  h.update_serve (fun _ hk => ⟨hk.finish, rfl, Nat.min_le_left ..⟩) Outflow.lack_finish_le

theorem Sound.close (h : c.Sound) (i : Nat) : (c.close i).Sound :=
  h.update_serve (fun _ hk => ⟨hk.close, rfl, Nat.zero_le _⟩) fun o => by
    rw [Outflow.lack_of_isIdle o.isIdle_close]
    exact Nat.zero_le _

/-- Bytes of a stream are read, and the window that the streams share is told of it. -/
theorem Balanced.noteRead (h : c.Balanced fun _ => 0) (hi : c.streams[i]? = some o)
    (ha : o.attached = true) (hn : n ≤ o.unread) :
    Balanced (fun j => if j = i then n else 0)
      { c.update i fun o => { o with read := o.read + n } with window := c.window.read n } := by
  have hk := h.streams i o hi
  have hread := hk.read
  have hwindow := hk.window ha
  have hle : o.read + n ≤ o.sent := by unfold Outflow.unread at hn; omega
  rw [update_of_getElem? _ hi]
  refine h.set hi ?_ (fun j hj => if_neg hj) ?_ ?_
  · rw [if_pos rfl]
    refine ⟨hle, fun _ => ?_, hk.granted, hk.isIdle⟩
    show o.window.room + o.window.unclaimed + (o.sent - (o.read + n)) + n = Window.size
    unfold Outflow.unread at hwindow
    omega
  · rw [Window.read_total]
    unfold Outflow.onTheWay Outflow.unread
    simp only [ha, if_true]
    omega
  · exact Nat.add_le_add_right (Nat.le_trans h.granted (c.window.room_le_read n)) _

/-- The window of the stream is told of it too. -/
theorem Balanced.tellStream (h : c.Balanced fun j => if j = i then n else 0) :
    (c.update i fun o => { o with window := o.window.read n }).Balanced fun _ => 0 := by
  refine h.update (fun j hj => (if_neg hj).symm) fun o _ hk => ?_
  rw [if_pos rfl] at hk
  refine ⟨⟨hk.read, fun ha => ?_, fun ha => ?_, hk.isIdle⟩, rfl, Nat.le_refl _⟩
  · have hwindow := hk.window ha
    have htotal := o.window.read_total n
    show (o.window.read n).room + (o.window.read n).unclaimed + o.unread + 0 = Window.size
    omega
  · exact Nat.le_trans (hk.granted ha) (o.window.room_le_read n)

/-- A stream of an earlier connection opens no window. -/
theorem Sound.readDetached (h : c.Sound) (hi : c.streams[i]? = some o)
    (ha : o.attached = false) (hn : n ≤ o.unread) :
    (c.update i fun o => { o with read := o.read + n }).Sound := by
  have hk := h.balanced.streams i o hi
  refine ⟨h.balanced.update (fun _ _ => rfl) fun o' hi' hk' => ?_, ?_⟩
  · rw [hi] at hi'
    cases hi'
    have hread := hk.read
    refine ⟨⟨?_, fun hf => absurd (hf.symm.trans ha) nofun, hk.granted, hk.isIdle⟩, ?_,
      Nat.le_refl _⟩
    · show o.read + n ≤ o.sent
      unfold Outflow.unread at hn
      omega
    · simp [Outflow.onTheWay, ha]
  · obtain ⟨hwaits, hfull⟩ := h.served.update (i := i)
      (f := fun o => { o with read := o.read + n }) fun _ => rfl
    refine ⟨fun j oj hj hlack => (hwaits j oj hj hlack).imp_right fun hmem => ?_, hfull⟩
    obtain rfl := List.mem_singleton.1 hmem
    obtain ⟨o', ho', rfl⟩ := exists_of_getElem?_update hj
    rw [hi] at ho'
    cases ho'
    rw [if_pos rfl] at hlack
    exact absurd (Outflow.lack_of_isIdle (hk.isIdle ha)) (Nat.pos_iff_ne_zero.1 hlack)

theorem Sound.read (h : c.Sound) (hi : c.streams[i]? = some o) (hn : n ≤ o.unread) :
    (c.read i n).Sound := by
  rw [Connection.read, hi]
  dsimp only
  split
  · next ha =>
    -- while the others are served, the window of the stream is owed what was read
    have hb := h.balanced.noteRead hi ha hn
    have hs := served_serve hb fun j o' hj hpos => by
      obtain ⟨oj, hoj, rfl⟩ := exists_of_getElem?_update hj
      refine (h.served.waits j oj hoj ?_).resolve_right List.not_mem_nil
      split at hpos <;> exact hpos
    have hb' := hb.serve.tellStream
    refine ⟨hb'.assign i, Served.assign ?_ hb'⟩
    exact hs.update fun _ => rfl
  · next ha => exact h.readDetached hi (eq_false_of_ne_true ha) hn

theorem Sound.readUpTo (h : c.Sound) (i stop fuel : Nat) : (c.readUpTo i stop fuel).Sound := by
  induction fuel generalizing c with
  | zero => exact h
  | succ fuel ih =>
    rw [Connection.readUpTo]
    split
    · exact h
    · next o hi =>
      dsimp only
      split
      · exact h
      · exact ih (h.read hi (Nat.sub_le_sub_right (Nat.min_le_right ..) _))

theorem exists_of_getElem?_replace (h : c.replace.streams[j]? = some o') :
    ∃ o : Outflow, c.streams[j]? = some o ∧ { o.close with attached := false } = o' := by
  rwa [Connection.replace, List.getElem?_map, Option.map_eq_some_iff] at h

theorem Sound.replace (h : c.Sound) : c.replace.Sound := by
  have hstreams {i : Nat} {o : Outflow} (hi : c.replace.streams[i]? = some o) :
      o.isIdle = true ∧ o.Kept 0 := by
    obtain ⟨o, ho, rfl⟩ := exists_of_getElem?_replace hi
    exact ⟨rfl, (h.balanced.streams i o ho).read, nofun, nofun, fun _ => rfl⟩
  have htotal (f : Outflow → Nat) (hf : ∀ o : Outflow, f { o.close with attached := false } = 0) :
      total f c.replace.streams = 0 := by
    simp [total, Connection.replace, Function.comp_def, hf]
  refine ⟨⟨fun i o hi => (hstreams hi).2, ?_, ?_⟩, fun i o hi hlack => ?_, absurd rfl⟩
  · rw [htotal _ fun _ => rfl]
    rfl
  · rw [htotal _ fun _ => rfl]
    exact Nat.zero_le _
  · rw [Outflow.lack_of_isIdle (hstreams hi).1] at hlack
    cases hlack

/-! ## What serving makes of the streams -/

/-- Streams are served, and no stream is added. -/
def Eases (c c' : Connection) : Prop :=
  ∀ (j : Nat) (o' : Outflow), c'.streams[j]? = some o' →
    ∃ o : Outflow, c.streams[j]? = some o ∧ o.Eases o'

/-- Where the streams are the same, nothing has been served. -/
theorem eases_of_eq (h : c'.streams = c.streams) : c.Eases c' := fun _ o' hj =>
  ⟨o', h ▸ hj, .refl o'⟩

theorem Eases.trans (h : c.Eases c') (h' : c'.Eases c'') : c.Eases c'' := by
  intro j o'' hj
  obtain ⟨o', ho', he'⟩ := h' j o'' hj
  obtain ⟨o, ho, he⟩ := h j o' ho'
  exact ⟨o, ho, he.trans he'⟩

theorem eases_assign (c : Connection) (i : Nat) : c.Eases (c.assign i) := by
  intro j o' hj
  by_cases hji : j = i
  · subst hji
    cases hi : c.streams[j]? with
    | none =>
      rw [assign_of_none hi, hi] at hj
      cases hj
    | some o =>
      rw [getElem?_assign_self hi] at hj
      cases hj
      exact ⟨o, rfl, Outflow.eases_grant (Nat.min_le_left ..)⟩
  · rw [getElem?_assign_ne hji] at hj
    exact ⟨o', hj, .refl o'⟩

theorem eases_serveAll (line : List Nat) (c : Connection) : c.Eases (serveAll line c) := by
  induction line generalizing c with
  | nil => exact eases_of_eq rfl
  | cons i line ih =>
    rw [Connection.serveAll]
    split
    · exact eases_of_eq rfl
    · exact (c.eases_assign i).trans (ih _)

theorem eases_serve (c : Connection) : c.Eases c.serve := by
  have hcleared : c.Eases { c with waiting := [] } := eases_of_eq rfl
  exact hcleared.trans (eases_serveAll c.waiting _)

theorem eases_update {f : Outflow → Outflow} (hf : ∀ o : Outflow, o.Eases (f o)) :
    c.Eases (c.update i f) := by
  intro j o' hj
  obtain ⟨o, ho, rfl⟩ := exists_of_getElem?_update hj
  refine ⟨o, ho, ?_⟩
  split
  · exact hf o
  · exact .refl o

/-- One stream changes, and then streams are served. -/
theorem Eases.exists_of_update {f : Outflow → Outflow} (h : (c.update i f).Eases c')
    (hj : c'.streams[j]? = some o') :
    ∃ o, c.streams[j]? = some o ∧ (if i = j then f o else o).Eases o' := by
  obtain ⟨o₁, ho₁, he⟩ := h j o' hj
  obtain ⟨o, ho, rfl⟩ := exists_of_getElem?_update ho₁
  exact ⟨o, ho, he⟩

theorem eases_finish (c : Connection) (i : Nat) : c.Eases (c.finish i) :=
  (eases_update Outflow.eases_finish).trans (eases_serve _)

theorem eases_read (c : Connection) (i n : Nat) : c.Eases (c.read i n) := by
  have hread : c.Eases (c.update i fun o => { o with read := o.read + n }) :=
    eases_update fun _ => ⟨rfl, Nat.le_refl _, id⟩
  have htold (c : Connection) :
      c.Eases (c.update i fun o => { o with window := o.window.read n }) :=
    eases_update fun _ => ⟨rfl, Nat.le_refl _, id⟩
  unfold Connection.read
  split
  · exact eases_of_eq rfl
  · dsimp only
    split
    · have hserved := (hread.trans (eases_of_eq rfl)).trans
        (eases_serve { c.update i _ with window := c.window.read n })
      exact (hserved.trans (htold _)).trans (eases_assign _ i)
    · exact hread

theorem eases_readUpTo (c : Connection) (i stop fuel : Nat) :
    c.Eases (c.readUpTo i stop fuel) := by
  induction fuel generalizing c with
  | zero => exact eases_of_eq rfl
  | succ fuel ih =>
    rw [Connection.readUpTo]
    split
    · exact eases_of_eq rfl
    · dsimp only
      split
      · exact eases_of_eq rfl
      · exact (c.eases_read i _).trans (ih _)

/-! ## The number of streams -/

@[simp] theorem length_update (c : Connection) (i : Nat) (f : Outflow → Outflow) :
    (c.update i f).streams.length = c.streams.length := List.length_modify ..

@[simp] theorem length_assign (c : Connection) (i : Nat) :
    (c.assign i).streams.length = c.streams.length := by
  unfold assign
  split
  · rfl
  · exact List.length_set

@[simp] theorem length_serveAll (line : List Nat) (c : Connection) :
    (serveAll line c).streams.length = c.streams.length := by
  induction line generalizing c with
  | nil => rfl
  | cons i line ih =>
    rw [Connection.serveAll]
    split
    · rfl
    · rw [ih, length_assign]

@[simp] theorem length_serve (c : Connection) : c.serve.streams.length = c.streams.length :=
  length_serveAll ..

@[simp] theorem length_openStream (c : Connection) (i : Nat) :
    (c.openStream i).streams.length = c.streams.length := by
  rw [Connection.openStream, length_assign, length_update]

@[simp] theorem length_offer (c : Connection) (i bytes : Nat) :
    (c.offer i bytes).streams.length = c.streams.length := by
  rw [Connection.offer, length_assign, length_update]

@[simp] theorem length_finish (c : Connection) (i : Nat) :
    (c.finish i).streams.length = c.streams.length := by
  rw [Connection.finish, length_serve, length_update]

@[simp] theorem length_close (c : Connection) (i : Nat) :
    (c.close i).streams.length = c.streams.length := by
  rw [Connection.close, length_serve, length_update]

@[simp] theorem length_read (c : Connection) (i n : Nat) :
    (c.read i n).streams.length = c.streams.length := by
  unfold Connection.read
  split
  · rfl
  · dsimp only
    split
    · rw [length_assign, length_update, length_serve]
      exact length_update ..
    · exact length_update ..

@[simp] theorem length_readUpTo (c : Connection) (i stop fuel : Nat) :
    (c.readUpTo i stop fuel).streams.length = c.streams.length := by
  induction fuel generalizing c with
  | zero => rfl
  | succ fuel ih =>
    rw [Connection.readUpTo]
    split
    · rfl
    · dsimp only
      split
      · rfl
      · rw [ih, length_read]

@[simp] theorem length_replace (c : Connection) :
    c.replace.streams.length = c.streams.length := List.length_map ..

/-! ## Streams that have not been opened -/

/-- Stream `i` has not been opened. -/
def NewAt (c : Connection) (i : Nat) : Prop := ∃ o, c.streams[i]? = some o ∧ o.IsNew

theorem NewAt.isNew (h : c.NewAt i) (hi : c.streams[i]? = some o) : o.IsNew := by
  obtain ⟨o', ho', hnew⟩ := h
  rw [hi] at ho'
  cases ho'
  exact hnew

theorem NewAt.assign (h : c.NewAt j) (i : Nat) : (c.assign i).NewAt j := by
  obtain ⟨o, ho, hnew⟩ := h
  by_cases hji : j = i
  · subst hji
    rw [NewAt, getElem?_assign_self ho, Outflow.lack_of_isIdle hnew.isIdle, Nat.zero_min,
      Outflow.grant_zero_of_isIdle hnew.isIdle]
    exact ⟨o, rfl, hnew⟩
  · exact ⟨o, (getElem?_assign_ne hji).trans ho, hnew⟩

theorem NewAt.update {f : Outflow → Outflow} (h : c.NewAt j)
    (hf : i = j → ∀ o : Outflow, o.IsNew → (f o).IsNew) : (c.update i f).NewAt j := by
  obtain ⟨o, ho, hnew⟩ := h
  rw [NewAt, getElem?_update, ho]
  refine ⟨_, rfl, ?_⟩
  split
  · next hij => exact hf hij o hnew
  · exact hnew

theorem NewAt.serveAll (h : c.NewAt j) (line : List Nat) : (serveAll line c).NewAt j := by
  induction line generalizing c with
  | nil => exact h
  | cons i line ih =>
    rw [Connection.serveAll]
    split
    · exact h
    · exact ih (h.assign i)

theorem NewAt.serve (h : c.NewAt j) : c.serve.NewAt j :=
  NewAt.serveAll (c := { c with waiting := [] }) h c.waiting

theorem NewAt.addStream (h : c.NewAt j) : c.addStream.NewAt j := by
  obtain ⟨o, ho, hnew⟩ := h
  exact ⟨o, (List.getElem?_append_left (List.getElem?_eq_some_iff.1 ho).1).trans ho, hnew⟩

theorem newAt_addStream (c : Connection) : c.addStream.NewAt c.streams.length :=
  ⟨.unopened, List.getElem?_concat_length, rfl⟩

theorem NewAt.openStream (h : c.NewAt j) (hij : i ≠ j) : (c.openStream i).NewAt j :=
  (h.update fun he => absurd he hij).assign i

theorem NewAt.offer (h : c.NewAt j) (hij : i ≠ j) (bytes : Nat) : (c.offer i bytes).NewAt j :=
  (h.update fun he => absurd he hij).assign i

theorem NewAt.finish (h : c.NewAt j) (i : Nat) : (c.finish i).NewAt j :=
  (h.update fun _ _ hnew => hnew.finish).serve

theorem NewAt.close (h : c.NewAt j) (i : Nat) : (c.close i).NewAt j :=
  (h.update fun _ _ hnew => hnew.close).serve

theorem NewAt.read (h : c.NewAt j) (hij : i ≠ j) (n : Nat) : (c.read i n).NewAt j := by
  rw [Connection.read]
  split
  · exact h
  · have hread := h.update (f := fun o => { o with read := o.read + n }) fun he => absurd he hij
    dsimp only
    split
    · have hserved : NewAt (Connection.serve _) j := NewAt.serve (c := { c.update i _ with
        window := c.window.read n }) hread
      exact (hserved.update fun he => absurd he hij).assign i
    · exact hread

theorem NewAt.readUpTo (h : c.NewAt j) (i stop fuel : Nat) : (c.readUpTo i stop fuel).NewAt j := by
  induction fuel generalizing c with
  | zero => exact h
  | succ fuel ih =>
    rw [Connection.readUpTo]
    split
    · exact h
    · next o hi =>
      dsimp only
      split
      · exact h
      · next hn =>
        -- there is nothing to read on a stream that has not been opened
        have hij : i ≠ j := by
          rintro rfl
          rw [h.isNew hi] at hn
          exact hn (Nat.sub_eq_zero_of_le (Nat.min_le_right ..))
        exact ih (h.read hij _)

theorem NewAt.replace (h : c.NewAt j) : c.replace.NewAt j := by
  obtain ⟨o, ho, hnew⟩ := h
  refine ⟨{ o.close with attached := false }, ?_, ?_⟩
  · rw [Connection.replace, List.getElem?_map, ho]
    rfl
  · rw [hnew]
    rfl

/-! ## Runs -/

/-- What can happen to a connection: a stream is opened once, and bytes are put on streams of
    today's connection. -/
inductive Step (c : Connection) : Connection → Prop
  | addStream : Step c c.addStream
  | openStream (i : Nat) (h : ∀ o : Outflow, c.streams[i]? = some o → o.IsNew) :
      Step c (c.openStream i)
  | offer (i bytes : Nat) (h : ∀ o : Outflow, c.streams[i]? = some o → o.attached = true) :
      Step c (c.offer i bytes)
  | finish (i : Nat) : Step c (c.finish i)
  | close (i : Nat) : Step c (c.close i)
  | readUpTo (i stop fuel : Nat) : Step c (c.readUpTo i stop fuel)
  | replace : Step c c.replace

abbrev Run : Connection → Connection → Prop := Relation.ReflTransGen Step

theorem Step.sound (hs : Step c c') (h : c.Sound) : c'.Sound := by
  cases hs with
  | addStream => exact h.addStream
  | openStream i hnew => exact h.openStream hnew
  | offer i bytes ha => exact h.offer ha
  | finish i => exact h.finish i
  | close i => exact h.close i
  | readUpTo i stop fuel => exact h.readUpTo i stop fuel
  | replace => exact h.replace

/-- **Flow control loses no byte and forgets no stream.**  Whatever happens to a connection, its
    windows are accounted for byte by byte, and a stream that could be granted bytes waits in
    turn, which it does only where no room is left. -/
theorem Run.sound (hr : Run fresh c) : c.Sound := by
  induction hr with
  | refl => exact sound_fresh
  | tail _ hs ih => exact hs.sound ih

/-- No more bytes are on their way than the window that all streams share holds. -/
theorem Run.onTheWay_le (hr : Run fresh c) : total Outflow.onTheWay c.streams ≤ Window.size := by
  have hwindow := hr.sound.balanced.window
  omega

/-- A stream that its own window does not hold back waits in turn, and nothing is left for it. -/
theorem Run.waits (hr : Run fresh c) (hi : c.streams[i]? = some o) (hlack : 0 < o.lack) :
    i ∈ c.waiting ∧ c.free = 0 := by
  have hserved := hr.sound.served
  have hmem := (hserved.waits i o hi hlack).resolve_right List.not_mem_nil
  exact ⟨hmem, hserved.full (List.ne_nil_of_mem hmem)⟩

end Connection

end GrpcRelay
