/-
  The round trip of frames — what an encoder writes is read back as the same
  frames and a clean end, however it is cut, and what is read from complete
  messages is written back as the same bytes (`Frame.round_trip`).
-/
import GrpcRelay.Proofs.Frame.Reading
import GrpcRelay.Proofs.Status

namespace GrpcRelay.Frame

open Decoder Reading

variable {encoding decoding : Option Nat} {direction : Direction} {chunks : List ByteArray}
  {trailers : Option Metadata} {fs : List Frame} {f : Frame}

/-- A body of these chunks, with these trailers at its end, reads as these frames and a clean end,
    and nothing is left over. -/
def ReadsAs (decoding : Option Nat) (direction : Direction) (chunks : List ByteArray)
    (trailers : Option Metadata) (fs : List Frame) : Prop :=
  ofParts (.start direction decoding) (chunks.map .data ++ (trailers.map .trailers).toList) =
    ⟨fs, .ended trailers, .start direction decoding, []⟩

theorem readsAs_wireAll (hfs : ∀ f ∈ fs, f.Fits (decoding.getD defaultLimit))
    (h : joined chunks = wireAll fs)
    (hend : (Decoder.start direction decoding).verdict trailers = none) :
    ReadsAs decoding direction chunks trailers fs := by
  have htail : ofParts (.start direction decoding) (trailers.map .trailers).toList =
      ⟨[], .ended trailers, .start direction decoding, []⟩ := by
    cases trailers <;> simp only [Option.map, Option.toList, ofParts, hend]
  rw [ReadsAs, ofParts_wireAll hfs h, htail, List.append_nil]

/-- The trailers that a server writes after all of its frames end the response well. -/
theorem ofEnd_trailers {e : Encoded} (h : e.failure = none) (http : Nat) :
    Status.ofEnd http (some e.trailers) = none := by
  obtain ⟨s, hs, hcode, -⟩ := Status.ofHeaders?_toHeaders (.of .ok "")
  have htrailers : e.trailers = (Status.of .ok "").toHeaders := by rw [Encoded.trailers, h]; rfl
  rw [Status.ofEnd, htrailers, Option.bind_some, hs]
  exact if_pos hcode

/-- **The round trip of frames.**  Frames within the limits are all written, and read back from
    their bytes, cut anywhere, in order and followed by a clean end: as a request, and with the
    trailers of the server as a response.  A complete sequence of uncompressed messages, cut
    anywhere, is read to a clean end too, and the frames are written as the same bytes. -/
theorem round_trip (encoding decoding : Option Nat) :
    (∀ fs, (∀ f ∈ fs, encodeError? encoding f = none ∧ f.size ≤ decoding.getD defaultLimit) →
      (Encoded.ofItems encoding (fs.map .frame)).failure = none ∧
      ∀ chunks, joined chunks = (Encoded.ofItems encoding (fs.map .frame)).wire →
        ReadsAs decoding .request chunks none fs ∧
        ∀ http, ReadsAs decoding (.response http) chunks
          (some (Encoded.ofItems encoding (fs.map .frame)).trailers) fs) ∧
    (∀ chunks, IsWire (decoding.getD defaultLimit) (joined chunks) →
      ∃ fs, ReadsAs decoding .request chunks none fs ∧
        (∀ http m, Status.ofEnd http (some m) = none →
          ReadsAs decoding (.response http) chunks (some m) fs) ∧
        (∀ f ∈ fs, f.encodeError? none = none) ∧
        ((∀ f ∈ fs, f.encodeError? encoding = none) →
          Encoded.ofItems encoding (fs.map .frame) = ⟨joined chunks, none⟩)) := by
  constructor
  · intro fs hfs
    have hwire := Encoded.ofItems_frames fun f hf => (hfs f hf).1
    have hfits (f : Frame) (hf : f ∈ fs) : f.Fits (decoding.getD defaultLimit) :=
      ⟨(encodeError?_eq_none_iff.1 (hfs f hf).1).1, (hfs f hf).2⟩
    rw [hwire]
    refine ⟨rfl, fun chunks h => ⟨readsAs_wireAll hfits h rfl, fun http => ?_⟩⟩
    exact readsAs_wireAll hfits h (ofEnd_trailers (e := ⟨wireAll fs, none⟩) rfl http)
  · intro chunks hcomplete
    obtain ⟨fs, hfits, hwire⟩ := isWire_iff.1 hcomplete
    refine ⟨fs, readsAs_wireAll hfits hwire rfl,
      fun http m hend => readsAs_wireAll hfits hwire hend,
      fun f hf => encodeError?_eq_none_iff.2 ⟨(hfits f hf).size_lt, nofun⟩, fun hfs => ?_⟩
    rw [Encoded.ofItems_frames hfs, hwire]

/-- A frame of two bytes and an empty one, cut inside their prefixes and beside an empty chunk. -/
theorem round_trip_of_cut :
    (∀ http, ReadsAs none (.response http)
      [⟨#[0, 0]⟩, .empty, ⟨#[0, 0, 2, 1]⟩, ⟨#[2, 0, 0, 0, 0, 0]⟩]
      (some (Status.of .ok "").toHeaders) [⟨⟨#[1, 2]⟩⟩, .empty]) ∧
    ∃ fs, ReadsAs none .request
        [⟨#[0, 0]⟩, .empty, ⟨#[0, 0, 2, 1]⟩, ⟨#[2, 0, 0, 0, 0, 0]⟩] none fs ∧
      Encoded.ofItems none (fs.map .frame) = ⟨⟨#[0, 0, 0, 0, 2, 1, 2, 0, 0, 0, 0, 0]⟩, none⟩ := by
  obtain ⟨hwrite, hread⟩ := round_trip none none
  constructor
  · obtain ⟨-, hchunks⟩ := hwrite [⟨⟨#[1, 2]⟩⟩, .empty] (by decide)
    exact (hchunks _ (by decide)).2
  · obtain ⟨fs, hrequest, -, hfits, hsame⟩ := hread
      [⟨#[0, 0]⟩, .empty, ⟨#[0, 0, 2, 1]⟩, ⟨#[2, 0, 0, 0, 0, 0]⟩]
      (.cons 0 0 0 2 ⟨#[1, 2]⟩ ⟨#[0, 0, 0, 0, 0]⟩ rfl (by decide)
        (.cons 0 0 0 0 .empty .empty rfl (by decide) .nil))
    exact ⟨fs, hrequest, hsame hfits⟩

end GrpcRelay.Frame
