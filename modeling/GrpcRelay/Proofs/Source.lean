/-
  Sources — what reading does to the items that have been read, and what can
  happen to a source from outside (`Source.Fed`): more items arrive, or it
  ends, and nothing arrives after its end.  A body feeds a source in this way as
  long as its decoder is gone once the source has ended.
-/
import GrpcRelay.Relay.Inflow

namespace GrpcRelay

/-- The frames among some items. -/
def framesOf (is : List Item) : List Frame := is.filterMap Item.frame?

@[simp] theorem framesOf_append (is js : List Item) :
    framesOf (is ++ js) = framesOf is ++ framesOf js := List.filterMap_append

@[simp] theorem framesOf_failure (s : Status) : framesOf [.failure s] = [] := rfl

@[simp] theorem framesOf_map (fs : List Frame) : framesOf (fs.map Item.frame) = fs := by
  induction fs with
  | nil => rfl
  | cons f fs ih => rw [List.map_cons, ← List.singleton_append, framesOf_append, ih]; rfl

@[simp] theorem framesOf_failures (es : List Status) : framesOf (es.map Item.failure) = [] := by
  induction es with
  | nil => rfl
  | cons e es ih => exact ih

theorem framesOf_mono {is js : List Item} (h : is <+: js) : framesOf is <+: framesOf js := by
  obtain ⟨ks, rfl⟩ := h
  exact ⟨framesOf ks, (framesOf_append is ks).symm⟩

namespace Source

variable {s s' : Source} {i : Item}

theorem seen_append_queue (s : Source) : s.seen ++ s.queue = s.arrived := List.take_append_drop _ _

theorem seen_prefix (s : Source) : s.seen <+: s.arrived := List.take_prefix _ _

theorem seen_eq_arrived (h : s.queue = []) : s.seen = s.arrived := by
  rw [← s.seen_append_queue, h, List.append_nil]

@[simp] theorem length_seen (s : Source) : s.seen.length = s.read :=
  List.length_take_of_le s.read_le

@[simp] theorem seen_pushAll (s : Source) (is : List Item) : (s.pushAll is).seen = s.seen :=
  List.take_append_of_le_length s.read_le

/-! ## Reading -/

/-- Reading an item moves it to those that have been read. -/
structure Yields (s : Source) (i : Item) (s' : Source) : Prop where
  arrived : s'.arrived = s.arrived
  seen : s'.seen = s.seen ++ [i]
  ended : s'.ended = s.ended
  trailers : s'.trailers = s.trailers

theorem yields_of_next? (h : s.next? = some (.item i, s')) : s.Yields i s' := by
  unfold next? at h
  split at h
  · next hlt => cases h; exact ⟨rfl, (List.take_append_getElem hlt).symm, rfl, rfl⟩
  · split at h <;> cases h

/-- The end is read when the stream has ended and everything has been read. -/
theorem next?_eq_ended (h : s.next? = some (.ended, s')) :
    s' = s ∧ s.ended = true ∧ s.queue = [] := by
  unfold next? at h
  split at h
  · cases h
  · next hlt =>
    split at h
    · next he => cases h; exact ⟨rfl, he, List.drop_eq_nil_of_le (by omega)⟩
    · cases h

/-- There is nothing to read as long as the stream is open and all of it has been read. -/
theorem next?_eq_none_iff : s.next? = none ↔ s.ended = false ∧ s.queue = [] := by
  rw [← List.length_eq_zero_iff, queue, List.length_drop, next?]
  split
  · next h => simp; omega
  · next h =>
    split
    · next he => simp [he]
    · next he => simp [he]; omega

/-! ## Feeding -/

/-- What happens to a source from outside, as long as it has not ended. -/
inductive Fed (s : Source) : Source → Prop
  | more (is : List Item) (h : s.ended = false) : Fed s (s.pushAll is)
  | close (t : Trailers) (h : s.ended = false) : Fed s (s.closeWith t)

theorem Fed.isOpen (h : s.Fed s') : s.ended = false := by
  cases h <;> assumption

theorem Fed.seen (h : s.Fed s') : s'.seen = s.seen := by
  cases h with
  | more is => exact seen_pushAll s is
  | close t => rfl

/-! ## Bodies -/

section Body

variable {d : Option Decoder} {t : Option Metadata} {e : Status}

theorem isOpen_of_decoder {d : Decoder} (hd : s.ended = true → some d = none) :
    s.ended = false := by
  cases he : s.ended with
  | false => rfl
  | true => cases hd he

theorem fed_of_feed (bytes : ByteArray) (hd : s.ended = true → d = none) :
    ((s.feed d bytes).1 = s ∨ s.Fed (s.feed d bytes).1) ∧
      ((s.feed d bytes).1.ended = true → (s.feed d bytes).2 = none) := by
  cases d with
  | none => exact ⟨Or.inl rfl, fun _ => rfl⟩
  | some d =>
    have ho := isOpen_of_decoder hd
    simp only [feed]
    split
    · exact ⟨Or.inr (.more _ ho), fun he => absurd (ho.symm.trans he) nofun⟩
    · exact ⟨Or.inr (.more _ ho), fun _ => rfl⟩

theorem fed_of_finish (hd : s.ended = true → d = none) :
    s.finish d t = s ∨ s.Fed (s.finish d t) := by
  cases d with
  | none => exact Or.inl rfl
  | some d =>
    have ho := isOpen_of_decoder hd
    simp only [finish]
    split
    · exact Or.inr (.more _ ho)
    · exact Or.inr (.close _ ho)

theorem fed_of_fault (hd : s.ended = true → d = none) :
    s.fault d e = s ∨ s.Fed (s.fault d e) := by
  cases d with
  | none => exact Or.inl rfl
  | some d =>
    have ho := isOpen_of_decoder hd
    simp only [fault]
    split
    · exact Or.inr (.close s.trailers ho)
    · exact Or.inr (.more _ ho)

end Body

end Source

end GrpcRelay
