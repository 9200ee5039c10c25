/-
  Inflow — a source and the decoder that feeds it, held against all bytes of the
  body so far (`Source.Parsed`): the frames that have arrived are the first ones
  of these bytes, none of them over the limit of the decoder, and what is left
  waits in the decoder as long as the body is read.
-/
import GrpcRelay.Proofs.Frame.Reading
import GrpcRelay.Proofs.Source

namespace GrpcRelay.Source

open GrpcRelay.Frame

/-- How far a body of these bytes has been read into a source by a decoder that began as `d₀`. -/
structure Parsed (d₀ : Decoder) (sent : ByteArray) (isRead : Prop) (s : Source)
    (d : Option Decoder) : Prop where
  fits : ∀ f ∈ framesOf s.arrived, f.Fits d₀.limit
  follows : ∀ d', d = some d' → d₀.Follows d'
  /-- What no frame has been made of. -/
  rest : ∃ r, sent = wireAll (framesOf s.arrived) ++ r ∧
    (isRead → ∀ d', d = some d' → d'.pending = r ∧ d'.Waits) ∧ (s.ended = true → Incomplete r)

variable {d₀ : Decoder} {sent : ByteArray} {p q : Prop} {s s' : Source} {d : Option Decoder}

theorem parsed_start (direction : Direction) (limit : Option Nat) (ha : s.arrived = [])
    (ho : s.ended = false) :
    s.Parsed (.start direction limit) .empty p (some (.start direction limit)) where
  fits := by rw [ha]; nofun
  follows := by rintro _ ⟨⟩; exact ⟨rfl, rfl, nofun⟩
  rest := by
    refine ⟨.empty, ?_, fun _ => ?_, fun he => absurd (ho.symm.trans he) Bool.false_ne_true⟩
    · rw [ha]; rfl
    · rintro _ ⟨⟩
      exact ⟨rfl, incomplete_empty⟩

/-- The source is read, and the body is read no longer than before. -/
theorem Parsed.congr (h : s.Parsed d₀ sent p d) (ha : s'.arrived = s.arrived)
    (he : s'.ended = s.ended) (hq : q → p) : s'.Parsed d₀ sent q d where
  fits := by rw [ha]; exact h.fits
  follows := h.follows
  rest := by
    obtain ⟨r, hr, hd, hi⟩ := h.rest
    rw [ha, he]
    exact ⟨r, hr, hd ∘ hq, hi⟩

/-- The first frames that have arrived are the first ones of the body. -/
theorem Parsed.first {fs : List Frame} (h : s.Parsed d₀ sent p d)
    (hfs : fs <+: framesOf s.arrived) :
    (∀ f ∈ fs, f.Fits d₀.limit) ∧ ∃ rest, sent = wireAll fs ++ rest := by
  refine ⟨fun f hf => h.fits f (hfs.subset hf), ?_⟩
  obtain ⟨r, hr, -⟩ := h.rest
  obtain ⟨gs, hgs⟩ := hfs
  rw [← hgs, wireAll_append, ByteArray.append_assoc] at hr
  exact ⟨_, hr⟩

/-- Bytes of a body that is not read. -/
theorem Parsed.miss (h : s.Parsed d₀ sent p d) (ho : s.ended = false) (hq : q → d = none)
    (bytes : ByteArray) : s.Parsed d₀ (sent ++ bytes) q d where
  fits := h.fits
  follows := h.follows
  rest := by
    obtain ⟨r, hr, -⟩ := h.rest
    refine ⟨r ++ bytes, by rw [hr, ByteArray.append_assoc], fun hread d' hd => ?_,
      fun he => absurd (ho.symm.trans he) Bool.false_ne_true⟩
    rw [hq hread] at hd
    cases hd

/-- A failure is no frame. -/
theorem Parsed.fail (h : s.Parsed d₀ sent p d) (e : Status) :
    (s.push (.failure e)).Parsed d₀ sent p d where
  fits := by
    show ∀ f ∈ framesOf (s.arrived ++ [.failure e]), _
    rw [framesOf_append, framesOf_failure, List.append_nil]
    exact h.fits
  follows := h.follows
  rest := by
    show ∃ r, sent = wireAll (framesOf (s.arrived ++ [.failure e])) ++ r ∧ _
    rw [framesOf_append, framesOf_failure, List.append_nil]
    exact h.rest

/-- Nothing is said of a decoder that is gone. -/
theorem parsed_none (hfits : ∀ f ∈ framesOf s.arrived, f.Fits d₀.limit)
    (hrest : ∃ r, sent = wireAll (framesOf s.arrived) ++ r ∧ (s.ended = true → Incomplete r)) :
    s.Parsed d₀ sent p none where
  fits := hfits
  follows := nofun
  rest := by
    obtain ⟨r, hr, hi⟩ := hrest
    exact ⟨r, hr, fun _ _ hd => absurd hd.symm (Option.some_ne_none _), hi⟩

theorem Parsed.lose (h : s.Parsed d₀ sent p d) : s.Parsed d₀ sent q none := by
  obtain ⟨r, hr, -, hi⟩ := h.rest
  exact parsed_none h.fits ⟨r, hr, hi⟩

theorem Parsed.feed (h : s.Parsed d₀ sent p d) (hp : p) (ho : s.ended = false) (bytes : ByteArray) :
    (s.feed d bytes).1.Parsed d₀ (sent ++ bytes) q (s.feed d bytes).2 := by
  cases d with
  | none => exact h.miss ho (fun _ => rfl) bytes
  | some d =>
    obtain ⟨r, hr, hd, -⟩ := h.rest
    obtain ⟨rfl, -⟩ := hd hp d rfl
    have hd₀ := h.follows d rfl
    have hgrown (fs : List Frame) (is : List Item) (his : framesOf is = []) :
        framesOf (s.pushAll (fs.map Item.frame ++ is)).arrived = framesOf s.arrived ++ fs := by
      show framesOf (s.arrived ++ (fs.map Item.frame ++ is)) = _
      rw [framesOf_append, framesOf_append, framesOf_map, his, List.append_nil]
    have hfits {fs : List Frame} (hfs : ∀ f ∈ fs, f.Fits d.limit) :
        ∀ f ∈ framesOf s.arrived ++ fs, f.Fits d₀.limit := by
      intro f hf
      rcases List.mem_append.1 hf with hf | hf
      · exact h.fits f hf
      · exact hd₀.limit ▸ hfs f hf
    have htakes := Decoder.takes_push hd₀.isSane bytes
    have hfirst := Decoder.first_push hd₀.isSane bytes
    rw [Source.feed]
    generalize d.push bytes = out at htakes hfirst ⊢
    cases htakes with
    | frames fs d' hd' hfs hp' hw =>
      have harrived := hgrown fs [] rfl
      rw [List.append_nil] at harrived
      refine ⟨harrived ▸ hfits hfs, ?_, d'.pending, ?_, ?_,
        fun he => absurd (ho.symm.trans he) Bool.false_ne_true⟩
      · rintro _ ⟨⟩
        exact hd₀.trans ⟨hd'.direction, hd'.limit, hd'.isSane⟩
      · rw [hr, ByteArray.append_assoc, ← Decoder.pending_receive, hp', harrived, wireAll_append,
          ByteArray.append_assoc]
      · rintro - _ ⟨⟩
        exact ⟨rfl, hw⟩
    | failure fs e d' =>
      obtain ⟨hfs, rest, hrest⟩ := hfirst
      have harrived := hgrown fs [.failure e] rfl
      refine parsed_none (harrived ▸ hfits hfs)
        ⟨rest, ?_, fun he => absurd (ho.symm.trans he) Bool.false_ne_true⟩
      rw [hr, ByteArray.append_assoc, hrest, harrived, wireAll_append, ByteArray.append_assoc]

/-- The source ends, or a failure is the last that comes: the decoder is gone. -/
theorem Parsed.finish (h : s.Parsed d₀ sent p d) (hp : p) (t : Option Metadata) :
    (s.finish d t).Parsed d₀ sent q none := by
  cases d with
  | none => exact h.lose
  | some d =>
    obtain ⟨r, hr, hd, -⟩ := h.rest
    obtain ⟨rfl, hw⟩ := hd hp d rfl
    rw [Source.finish]
    split
    · exact (h.fail _).lose
    · exact parsed_none h.fits ⟨d.pending, hr, fun _ => hw⟩

theorem Parsed.fault (h : s.Parsed d₀ sent p d) (hp : p ∨ d₀.direction ≠ .request) (e : Status) :
    (s.fault d e).Parsed d₀ sent q none := by
  cases d with
  | none => exact h.lose
  | some d =>
    rw [Source.fault]
    split
    · next hquiet =>
      -- only a request ends quietly, and a response is not read to its end where it is not read
      have hrequest : d₀.direction = .request := by
        rw [← (h.follows d rfl).direction]
        exact eq_of_beq (Bool.and_eq_true_iff.1 hquiet).1
      obtain ⟨r, hr, hd, -⟩ := h.rest
      obtain ⟨rfl, hw⟩ := hd (hp.resolve_right fun hne => hne hrequest) d rfl
      exact parsed_none h.fits ⟨d.pending, hr, fun _ => hw⟩
    · exact (h.fail e).lose

/-- Frames arrive as they were sent. -/
theorem feed_frames {d : Decoder} {fs : List Frame} (h : d.IsSane) (hd : d.pending = .empty)
    (hfs : ∀ f ∈ fs, f.Fits d.limit) (s : Source) :
    ∃ d', s.feed (some d) (wireAll fs) = (s.pushAll (fs.map .frame), some d') := by
  obtain ⟨d', hpush⟩ := Decoder.push_wireAll h hd hfs
  exact ⟨d', by rw [Source.feed, hpush]⟩

theorem ended_feed (s : Source) (d : Option Decoder) (bytes : ByteArray) :
    (s.feed d bytes).1.ended = s.ended := by
  unfold Source.feed
  split
  · rfl
  · split <;> rfl

/-- Only a request ends quietly. -/
theorem ended_fault (hd : ∀ d', d = some d' → d'.direction ≠ .request) (e : Status) :
    (s.fault d e).ended = s.ended := by
  unfold Source.fault
  split
  · rfl
  · next d' =>
    have hloud : d'.isQuiet e = false := by
      rw [Decoder.isQuiet, beq_eq_false_iff_ne.2 (hd d' rfl), Bool.false_and]
    rw [hloud]
    rfl

end GrpcRelay.Source
