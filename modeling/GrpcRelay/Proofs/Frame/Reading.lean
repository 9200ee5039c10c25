/-
  Reading — however the bytes of a body are cut, a decoder takes the frames out
  of them in order, keeps what belongs to no frame yet (`Decoder.pending`), and
  rejects only what no list of frames begins with (`Reading.reads_data`).
-/
import GrpcRelay.Proofs.Frame.Wire

namespace GrpcRelay

open GrpcRelay.Frame

namespace Decoder

variable {d d' d'' : Decoder} {fs : List Frame} {b : ByteArray}

/-! ## The state of a decoder -/

/-- The bytes that were pushed and are in no frame yet, the prefix that was taken with them. -/
def pending (d : Decoder) : ByteArray :=
  match d.awaited with
  | none => d.buffer
  | some n => header n ++ d.buffer

/-- The frame that is awaited can be read. -/
def IsSane (d : Decoder) : Prop := ∀ n, d.awaited = some n → n < 4294967296 ∧ n ≤ d.limit

/-- No frame is complete. -/
def Waits (d : Decoder) : Prop :=
  ∀ (f : Frame) (b : ByteArray), f.size < 4294967296 → d.pending ≠ f.wire ++ b

/-- A decoder further on in the same body. -/
structure Follows (d d' : Decoder) : Prop where
  direction : d'.direction = d.direction
  limit : d'.limit = d.limit
  isSane : d'.IsSane

theorem Follows.trans (h : Follows d d') (h' : Follows d' d'') : Follows d d'' :=
  ⟨h'.direction.trans h.direction, h'.limit.trans h.limit, h'.isSane⟩

/-! ## The next frame -/

/-- What a decoder can find. -/
inductive Finds (d : Decoder) : Found → Prop
  | nothing (d' : Decoder) (hd : Follows d d') (hp : d'.pending = d.pending) (hw : d'.Waits) :
      Finds d (.nothing d')
  | frame (f : Frame) (d' : Decoder) (hd : Follows d d') (hf : f.Fits d.limit)
      (hp : d.pending = f.wire ++ d'.pending) : Finds d (.frame f d')
  | failure (s : Status) (d' : Decoder) (hr : Unreadable d.limit d.pending) :
      Finds d (.failure s d')

/-- Only the pending bytes decide on what is found. -/
theorem Finds.of_pending {r : Found} (h : d.Finds r) (hd : d.direction = d'.direction)
    (hl : d.limit = d'.limit) (hp : d.pending = d'.pending) : d'.Finds r := by
  cases h with
  | nothing d₁ h₁ hp₁ hw =>
    exact .nothing d₁ ⟨h₁.direction.trans hd, h₁.limit.trans hl, h₁.isSane⟩ (hp₁.trans hp) hw
  | frame f d₁ h₁ hf hp₁ =>
    exact .frame f d₁ ⟨h₁.direction.trans hd, h₁.limit.trans hl, h₁.isSane⟩ (hl ▸ hf)
      (hp.symm.trans hp₁)
  | failure s d₁ hr => exact .failure s d₁ (by rwa [← hp, ← hl])

theorem finds_of_awaited {n : Nat} (h : d.IsSane) (hn : d.awaited = some n) : d.Finds d.next := by
  obtain ⟨hlt, hle⟩ := h n hn
  have hpending : d.pending = header n ++ d.buffer := by rw [pending, hn]
  rw [next, hn]
  dsimp only
  unfold takeFrame
  split
  · next hsize =>
    have hlength : (d.buffer.extract 0 n).size = n := by
      rw [ByteArray.size_extract]
      omega
    refine .frame _ _ ⟨rfl, rfl, nofun⟩ ⟨?_, ?_⟩ ?_
    · rwa [Frame.size, hlength]
    · rwa [Frame.size, hlength]
    · show d.pending = header (d.buffer.extract 0 n).size ++ d.buffer.extract 0 n ++
        d.buffer.extract n d.buffer.size
      rw [hpending, hlength, ByteArray.append_assoc,
        ← ByteArray.extract_eq_extract_append_extract n (Nat.zero_le _) hsize,
        ByteArray.extract_zero_size]
  · next hsize =>
    have hsame : ({ d with awaited := some n } : Decoder) = d := by rw [← hn]
    rw [hsame]
    refine .nothing d ⟨rfl, rfl, h⟩ rfl fun f b hf heq => hsize ?_
    rw [hpending, wire_eq, ByteArray.append_assoc] at heq
    -- the frame would be of the awaited length, and so it would be there
    have hread := congrArg readPrefix? heq
    rw [readPrefix?_header hlt, readPrefix?_header hf] at hread
    obtain rfl : n = f.size := congrArg Prod.snd (Option.some.inj hread)
    rw [(ByteArray.append_right_inj _).1 heq, ByteArray.size_append]
    exact Nat.le_add_right _ _

/-- An uncompressed message is read whatever the direction. -/
theorem flagError?_eq_none_iff {direction : Direction} {flag : UInt8} :
    flagError? direction flag = none ↔ flag = 0 := by
  unfold flagError?
  split
  · next hzero => simp [hzero]
  · next hne =>
    refine ⟨fun h => ?_, fun h => absurd h hne⟩
    split at h
    · cases h
    · dsimp only at h
      split at h <;> cases h

theorem lengthError?_eq_none_iff {limit n : Nat} : lengthError? limit n = none ↔ n ≤ limit := by
  unfold lengthError?
  split
  · next hlt => exact ⟨nofun, fun hle => absurd hlt (Nat.not_lt.2 hle)⟩
  · next hle => exact ⟨fun _ => Nat.not_lt.1 hle, fun _ => rfl⟩

/-- What begins with a prefix that is rejected is no list of frames. -/
theorem unreadable_of_readPrefix? {limit n : Nat} {flag : UInt8}
    (hread : readPrefix? b = some (flag, n)) (hbad : flag = 0 → limit < n) :
    Unreadable limit b := by
  intro fs c hfs heq
  have hread' := readPrefix?_append hread c
  rw [heq] at hread'
  cases fs with
  | nil => cases hread'
  | cons f fs =>
    obtain ⟨hlt, hle⟩ := hfs f (by simp)
    rw [wireAll_cons, wire_eq, ByteArray.append_assoc, readPrefix?_header hlt] at hread'
    cases hread'
    exact absurd (hbad rfl) (Nat.not_lt.2 hle)

theorem finds_next (h : d.IsSane) : d.Finds d.next := by
  cases hn : d.awaited with
  | some n => exact finds_of_awaited h hn
  | none =>
    have hpending : d.pending = d.buffer := by rw [pending, hn]
    rw [next, hn]
    dsimp only
    split
    · next hread =>
      have hsize := readPrefix?_eq_none hread
      refine .nothing d ⟨rfl, rfl, h⟩ rfl fun f b _ heq => ?_
      rw [hpending] at heq
      rw [heq, ByteArray.size_append, size_wire, wireSize] at hsize
      unfold prefixSize at hsize
      omega
    · next flag n hread =>
      split
      · next s hflag =>
        refine .failure s _ (hpending ▸ unreadable_of_readPrefix? hread ?_)
        rintro rfl
        rw [flagError?_eq_none_iff.2 rfl] at hflag
        cases hflag
      · next hflag =>
        split
        · next s hlength =>
          refine .failure s _ (hpending ▸ unreadable_of_readPrefix? hread fun _ => ?_)
          by_contra hle
          rw [lengthError?_eq_none_iff.2 (Nat.not_lt.1 hle)] at hlength
          cases hlength
        · next hlength =>
          have hle := lengthError?_eq_none_iff.1 hlength
          obtain rfl := flagError?_eq_none_iff.1 hflag
          obtain ⟨-, hlt, hsplit⟩ := readPrefix?_eq_some hread
          -- the decoder that has taken the prefix finds the same
          have hfinds := finds_of_awaited (n := n)
            (d := ⟨d.direction, d.limit, d.buffer.extract prefixSize d.buffer.size, some n⟩)
            (by rintro _ ⟨⟩; exact ⟨hlt, hle⟩) rfl
          exact hfinds.of_pending rfl rfl (hpending.trans (hsplit rfl)).symm

/-! ## All frames -/

theorem pending_of_size_eq_zero (h : d.pending.size = 0) :
    d.buffer = .empty ∧ d.awaited = none := by
  unfold pending at h
  split at h
  · next hn => exact ⟨ByteArray.size_eq_zero_iff.1 h, hn⟩
  · rw [ByteArray.size_append, size_header] at h
    unfold prefixSize at h
    omega

/-- What taking all frames comes to. -/
inductive Takes (d : Decoder) : List Frame × Option Status × Decoder → Prop
  | frames (fs : List Frame) (d' : Decoder) (hd : Follows d d') (hfs : ∀ f ∈ fs, f.Fits d.limit)
      (hp : d.pending = wireAll fs ++ d'.pending) (hw : d'.Waits) : Takes d (fs, none, d')
  | failure (fs : List Frame) (s : Status) (d' : Decoder) (hr : Unreadable d.limit d.pending) :
      Takes d (fs, some s, d')

theorem Takes.of_frame {f : Frame} {s : Option Status} (h : d'.Takes (fs, s, d''))
    (hd : Follows d d') (hf : f.Fits d.limit) (hp : d.pending = f.wire ++ d'.pending) :
    d.Takes (f :: fs, s, d'') := by
  cases h with
  | frames _ _ hd' hfs hp' hw =>
    refine .frames _ _ (hd.trans hd') ?_ ?_ hw
    · rintro g hg
      rcases List.mem_cons.1 hg with rfl | hg
      · exact hf
      · exact hd.limit ▸ hfs g hg
    · rw [hp, hp', wireAll_cons, ByteArray.append_assoc]
  | failure _ s _ hr =>
    refine .failure _ s _ ?_
    have hone : ∀ g ∈ [f], g.Fits d.limit := by simpa using hf
    rw [hd.limit] at hr
    have hafter := hr.after hone
    rwa [wireAll_cons, wireAll_nil, ByteArray.append_empty, ← hp] at hafter

/-- Each frame takes up five bytes at least, so this fuel is enough. -/
theorem takes_takeFrames {fuel : Nat} (h : d.IsSane) (hfuel : d.pending.size ≤ 5 * fuel) :
    d.Takes (d.takeFrames fuel) := by
  induction fuel generalizing d with
  | zero =>
    refine .frames [] d ⟨rfl, rfl, h⟩ (by simp) ?_ fun f b _ heq => ?_
    · rw [wireAll_nil, ByteArray.empty_append]
    · rw [heq, ByteArray.size_append, size_wire, wireSize] at hfuel
      omega
  | succ fuel ih =>
    have hfinds := finds_next h
    rw [takeFrames]
    generalize d.next = r at hfinds ⊢
    cases hfinds with
    | nothing d' hd hp hw =>
      refine .frames [] d' hd (by simp) ?_ hw
      rw [wireAll_nil, ByteArray.empty_append, hp]
    | failure s d' hr => exact .failure [] s d' hr
    | frame f d' hd hf hp =>
      have hsize := congrArg ByteArray.size hp
      rw [ByteArray.size_append, size_wire, wireSize] at hsize
      exact (ih hd.isSane (by omega)).of_frame hd hf hp

/-- What was taken before a failure are first frames of what was pending, too. -/
theorem first_takeFrames (h : d.IsSane) (fuel : Nat) :
    (∀ f ∈ (d.takeFrames fuel).1, f.Fits d.limit) ∧
      ∃ rest, d.pending = wireAll (d.takeFrames fuel).1 ++ rest := by
  have hnone (d : Decoder) : ∃ rest, d.pending = wireAll [] ++ rest :=
    ⟨d.pending, by rw [wireAll_nil, ByteArray.empty_append]⟩
  induction fuel generalizing d with
  | zero => exact ⟨nofun, hnone d⟩
  | succ fuel ih =>
    have hfinds := finds_next h
    rw [takeFrames]
    generalize d.next = r at hfinds ⊢
    cases hfinds with
    | nothing | failure => exact ⟨nofun, hnone d⟩
    | frame f d' hd hf hp =>
      obtain ⟨hfits, rest, hrest⟩ := ih hd.isSane
      refine ⟨fun g hg => ?_, rest, ?_⟩
      · rcases List.mem_cons.1 hg with rfl | hg
        · exact hf
        · exact hd.limit ▸ hfits g hg
      · rw [hp, hrest, wireAll_cons, ByteArray.append_assoc]

/-- The decoder once more bytes are there. -/
def receive (d : Decoder) (bytes : ByteArray) : Decoder := { d with buffer := d.buffer ++ bytes }

theorem pending_receive (d : Decoder) (bytes : ByteArray) :
    (d.receive bytes).pending = d.pending ++ bytes := by
  unfold pending receive
  split
  · next hn => dsimp only at hn; rw [hn]
  · next n hn => dsimp only at hn; rw [hn]; exact ByteArray.append_assoc.symm

theorem takes_push (h : d.IsSane) (bytes : ByteArray) : (d.receive bytes).Takes (d.push bytes) := by
  refine takes_takeFrames (d := d.receive bytes) h ?_
  unfold pending
  split
  · show (d.receive bytes).buffer.size ≤ 5 * ((d.receive bytes).buffer.size + 1)
    omega
  · rw [ByteArray.size_append, size_header]
    show 5 + (d.receive bytes).buffer.size ≤ 5 * ((d.receive bytes).buffer.size + 1)
    omega

/-- The frames that come out, be there a failure after them or not, are the first of what was
    pending and of these bytes. -/
theorem first_push (h : d.IsSane) (bytes : ByteArray) :
    (∀ f ∈ (d.push bytes).1, f.Fits d.limit) ∧
      ∃ rest, d.pending ++ bytes = wireAll (d.push bytes).1 ++ rest := by
  rw [← pending_receive]
  exact first_takeFrames (d := d.receive bytes) h _

/-- A decoder that has nothing pending takes frames as they were sent. -/
theorem push_wireAll (h : d.IsSane) (hd : d.pending = .empty) (hfs : ∀ f ∈ fs, f.Fits d.limit) :
    ∃ d', d.push (wireAll fs) = (fs, none, d') := by
  have htakes := takes_push h (wireAll fs)
  have hpending : (d.receive (wireAll fs)).pending = wireAll fs ++ .empty := by
    rw [pending_receive, hd, ByteArray.empty_append, ByteArray.append_empty]
  have hsize {limit : Nat} {gs : List Frame} (hgs : ∀ g ∈ gs, g.Fits limit) :
      ∀ g ∈ gs, g.size < 4294967296 := fun g hg => (hgs g hg).size_lt
  generalize d.push (wireAll fs) = out at htakes ⊢
  cases htakes with
  | frames gs d' _ hgs hp hw =>
    rw [hpending] at hp
    have hle := incomplete_empty.isPrefix (hsize hfs) (hsize hgs) hp
    have hge := Incomplete.isPrefix hw (hsize hgs) (hsize hfs) hp.symm
    exact ⟨d', by rw [hle.eq_of_length_le hge.length_le]⟩
  | failure gs e d' hr =>
    refine absurd ?_ (hr fs .empty hfs)
    rw [hpending, ByteArray.append_empty, ByteArray.append_empty]

end Decoder

/-! ## Whole bodies -/

namespace Reading

open Decoder

variable {d : Decoder} {chunks : List ByteArray} {tail : List BodyPart}

/-- The bytes of all chunks. -/
def joined (chunks : List ByteArray) : ByteArray := chunks.foldr (· ++ ·) .empty

/-- What reading chunks and then the rest of a body comes to. -/
inductive Reads (d : Decoder) (chunks : List ByteArray) (tail : List BodyPart) : Reading → Prop
  | frames (fs : List Frame) (d' : Decoder) (hd : Follows d d') (hfs : ∀ f ∈ fs, f.Fits d.limit)
      (hp : d.pending ++ joined chunks = wireAll fs ++ d'.pending) (hw : d'.Waits) :
      Reads d chunks tail { ofParts d' tail with frames := fs ++ (ofParts d' tail).frames }
  | failure (s : Status) (r : Reading) (hs : r.stop = .failed s)
      (hr : Unreadable d.limit (d.pending ++ joined chunks)) : Reads d chunks tail r

/-- However the bytes of a body are cut: either all that is complete is read, or no list of frames
    begins with these bytes. -/
theorem reads_data (h : d.IsSane) (hw : d.Waits) (chunks : List ByteArray)
    (tail : List BodyPart) :
    Reads d chunks tail (ofParts d (chunks.map .data ++ tail)) := by
  induction chunks generalizing d with
  | nil =>
    have hnone : d.pending ++ joined [] = wireAll [] ++ d.pending := by
      rw [wireAll_nil, ByteArray.empty_append]
      exact ByteArray.append_empty
    exact .frames [] d ⟨rfl, rfl, h⟩ (by simp) hnone hw
  | cons bytes chunks ih =>
    have htakes := takes_push h bytes
    show Reads d (bytes :: chunks) tail (ofParts d (.data bytes :: (chunks.map .data ++ tail)))
    rw [ofParts]
    generalize d.push bytes = r at htakes ⊢
    have hjoined : d.pending ++ joined (bytes :: chunks) =
        (d.receive bytes).pending ++ joined chunks := by
      rw [pending_receive, ByteArray.append_assoc]; rfl
    cases htakes with
    | failure fs s d' hr => exact .failure s _ rfl (hjoined ▸ hr.append _)
    | frames fs d' hd hfs hp hw' =>
      have hd : Follows d d' := ⟨hd.direction, hd.limit, hd.isSane⟩
      dsimp only
      rw [hp, ByteArray.append_assoc] at hjoined
      have hrest := ih hd.isSane hw'
      generalize ofParts d' (chunks.map .data ++ tail) = r at hrest ⊢
      cases hrest with
      | frames gs d'' hd' hgs hp' hw'' =>
        dsimp only
        rw [← List.append_assoc]
        refine .frames (fs ++ gs) d'' (hd.trans hd') ?_ ?_ hw''
        · intro f hf
          rcases List.mem_append.1 hf with hf | hf
          · exact hfs f hf
          · exact hd.limit ▸ hgs f hf
        · rw [hjoined, hp', wireAll_append, ByteArray.append_assoc]
      | failure s _ hs hr =>
        refine .failure s _ hs ?_
        rw [hjoined]
        exact (hd.limit ▸ hr).after hfs

/-! ## Complete bodies -/

variable {direction : Direction} {limit : Option Nat} {fs : List Frame}

theorem pending_start (direction : Direction) (limit : Option Nat) :
    (Decoder.start direction limit).pending = .empty := rfl

theorem eq_start (hd : Follows (.start direction limit) d) (h : d.pending = .empty) :
    d = .start direction limit := by
  obtain ⟨hbuffer, hawaited⟩ := pending_of_size_eq_zero (d := d) (by rw [h]; rfl)
  have hdirection := hd.direction
  have hlimit := hd.limit
  cases d
  simp_all [Decoder.start]

/-- However the wire form of frames is cut, reading it gives the frames and leaves the decoder at a
    start. -/
theorem ofParts_wireAll (hfs : ∀ f ∈ fs, f.Fits (limit.getD defaultLimit))
    (h : joined chunks = wireAll fs) (tail : List BodyPart) :
    ofParts (.start direction limit) (chunks.map .data ++ tail) =
      { ofParts (.start direction limit) tail with
        frames := fs ++ (ofParts (.start direction limit) tail).frames } := by
  have hreads := reads_data (d := .start direction limit) nofun (fun f b _ heq => ?_) chunks tail
  · generalize ofParts (.start direction limit) (chunks.map .data ++ tail) = r at hreads ⊢
    cases hreads with
    | failure s _ hs hr =>
      rw [pending_start, ByteArray.empty_append, h] at hr
      exact absurd ByteArray.append_empty (hr fs .empty hfs)
    | frames gs d' hd hgs hp hw =>
      rw [pending_start, ByteArray.empty_append, h] at hp
      obtain ⟨rest, rfl, hrest⟩ := wireAll_append_inj (fun f hf => (hgs f hf).size_lt)
        (fun f hf => (hfs f hf).size_lt) hp.symm
      cases rest with
      | nil => rw [eq_start hd hrest, List.append_nil]
      | cons f rest => exact absurd hrest (hw f _ (hfs f (by simp)).size_lt)
  · have hsize := congrArg ByteArray.size heq
    rw [pending_start, ByteArray.size_append, size_wire, wireSize, ByteArray.size_empty] at hsize
    omega

end Reading

end GrpcRelay
