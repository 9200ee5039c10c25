/-
  Frames on the wire — an encoder writes all frames that it can, whatever its
  buffer does (`Encoded.ofItems_frames`); every complete sequence of messages is
  the wire form of frames (`Frame.isWire_iff`), and of one list of frames only,
  as no frame begins like another (`Frame.wire_append_inj`).
-/
import GrpcRelay.Frame.Decoder
import GrpcRelay.Frame.Encoder
import Mathlib.Data.List.Basic

namespace GrpcRelay

namespace Frame

/-! ## Lengths -/

/-- What stands before the bytes of a frame of this size. -/
def header (n : Nat) : ByteArray := ⟨#[0]⟩ ++ lengthBytes n

/-- The number that four bytes stand for, the highest first. -/
def lengthOf (a b c d : UInt8) : Nat :=
  a.toNat * 16777216 + b.toNat * 65536 + c.toNat * 256 + d.toNat

theorem lengthOf_lt (a b c d : UInt8) : lengthOf a b c d < 4294967296 := by
  have ha := a.toNat_lt
  have hb := b.toNat_lt
  have hc := c.toNat_lt
  have hd := d.toNat_lt
  unfold lengthOf
  omega

theorem lengthOf_lengthBytes {n : Nat} (h : n < 4294967296) :
    lengthOf (UInt8.ofNat (n / 16777216)) (UInt8.ofNat (n / 65536)) (UInt8.ofNat (n / 256))
      (UInt8.ofNat n) = n := by
  simp only [lengthOf, UInt8.toNat_ofNat']
  omega

theorem lengthBytes_lengthOf (a b c d : UInt8) :
    lengthBytes (lengthOf a b c d) = ⟨#[a, b, c, d]⟩ := by
  have ha := a.toNat_lt
  have hb := b.toNat_lt
  have hc := c.toNat_lt
  have hd := d.toNat_lt
  have hbyte {n : Nat} {x : UInt8} (h : n % 256 = x.toNat) : UInt8.ofNat n = x := by
    rw [← UInt8.toNat_inj, UInt8.toNat_ofNat']
    exact h
  unfold lengthBytes lengthOf
  rw [hbyte (x := a) (by omega), hbyte (x := b) (by omega), hbyte (x := c) (by omega),
    hbyte (x := d) (by omega)]

theorem size_header (n : Nat) : (header n).size = Decoder.prefixSize := rfl

theorem wire_eq (f : Frame) : f.wire = header f.size ++ f.bytes := rfl

end Frame

open GrpcRelay.Frame

namespace Decoder

/-! ## Prefixes -/

theorem readPrefix?_header {n : Nat} (h : n < 4294967296) (b : ByteArray) :
    readPrefix? (header n ++ b) = some (0, n) := by
  unfold readPrefix?
  rw [ByteArray.extract_append_eq_left (size_header n).symm]
  exact congrArg (fun m => some (0, m)) (lengthOf_lengthBytes h)

theorem readPrefix?_eq_some {b : ByteArray} {flag : UInt8} {n : Nat}
    (h : readPrefix? b = some (flag, n)) :
    prefixSize ≤ b.size ∧ n < 4294967296 ∧
      (flag = 0 → b = header n ++ b.extract prefixSize b.size) := by
  unfold readPrefix? at h
  split at h
  · next x a₁ b₁ c₁ d₁ hb =>
    cases h
    have hfive : (b.extract 0 prefixSize).size = 5 := congrArg List.length hb
    rw [ByteArray.size_extract] at hfive
    have hsize : prefixSize ≤ b.size := by unfold prefixSize at *; omega
    refine ⟨hsize, lengthOf_lt a₁ b₁ c₁ d₁, ?_⟩
    rintro rfl
    have hhead : b.extract 0 prefixSize = header (lengthOf a₁ b₁ c₁ d₁) := by
      rw [header, lengthBytes_lengthOf]
      exact ByteArray.ext (Array.toList_inj.1 hb)
    show b = header (lengthOf a₁ b₁ c₁ d₁) ++ b.extract prefixSize b.size
    rw [← hhead, ← ByteArray.extract_eq_extract_append_extract prefixSize (Nat.zero_le _) hsize,
      ByteArray.extract_zero_size]
  · cases h

theorem readPrefix?_eq_none {b : ByteArray} (h : readPrefix? b = none) : b.size < prefixSize := by
  by_contra hge
  have hfive : (b.extract 0 prefixSize).data.toList.length = 5 := by
    show (b.extract 0 prefixSize).size = 5
    rw [ByteArray.size_extract]
    unfold prefixSize at *
    omega
  unfold readPrefix? at h
  match hb : (b.extract 0 prefixSize).data.toList, hfive with
  | [x, a₁, b₁, c₁, d₁], _ => rw [hb] at h; cases h

/-- Once a prefix is there, later bytes do not change it. -/
theorem readPrefix?_append {b : ByteArray} {p : UInt8 × Nat} (h : readPrefix? b = some p)
    (c : ByteArray) : readPrefix? (b ++ c) = some p := by
  have hsize := (readPrefix?_eq_some h).1
  unfold readPrefix? at h ⊢
  have hzero : prefixSize - b.size = 0 := Nat.sub_eq_zero_of_le hsize
  rw [ByteArray.extract_append, hzero, Nat.zero_sub, ByteArray.extract_same,
    ByteArray.append_empty]
  exact h

end Decoder

namespace Frame

/-! ## Frames -/

variable {f g : Frame} {fs gs : List Frame} {a b w : ByteArray}

/-- Several frames on the wire. -/
def wireAll (fs : List Frame) : ByteArray := fs.foldr (fun f b => f.wire ++ b) .empty

@[simp] theorem wireAll_nil : wireAll [] = .empty := rfl

@[simp] theorem wireAll_cons (f : Frame) (fs : List Frame) :
    wireAll (f :: fs) = f.wire ++ wireAll fs := rfl

theorem wireAll_append (fs gs : List Frame) : wireAll (fs ++ gs) = wireAll fs ++ wireAll gs := by
  induction fs with
  | nil => rw [List.nil_append, wireAll_nil, ByteArray.empty_append]
  | cons f fs ih => rw [List.cons_append, wireAll_cons, ih, wireAll_cons, ByteArray.append_assoc]

/-- No frame begins like another. -/
theorem wire_append_inj (hf : f.size < 4294967296) (hg : g.size < 4294967296)
    (h : f.wire ++ a = g.wire ++ b) : f = g ∧ a = b := by
  rw [wire_eq, wire_eq, ByteArray.append_assoc, ByteArray.append_assoc] at h
  have hsize : f.size = g.size := by
    have hread := congrArg Decoder.readPrefix? h
    rw [Decoder.readPrefix?_header hf, Decoder.readPrefix?_header hg] at hread
    exact congrArg Prod.snd (Option.some.inj hread)
  rw [hsize, ByteArray.append_right_inj, ByteArray.append_eq_append_iff_of_size_eq_left hsize] at h
  exact ⟨congrArg Frame.mk h.1, h.2⟩

/-- What follows on frames in a list of frames is the rest of the list. -/
theorem wireAll_append_inj (hfs : ∀ f ∈ fs, f.size < 4294967296)
    (hgs : ∀ g ∈ gs, g.size < 4294967296) (h : wireAll fs ++ b = wireAll gs) :
    ∃ rest, gs = fs ++ rest ∧ b = wireAll rest := by
  induction fs generalizing gs with
  | nil => exact ⟨gs, rfl, by rwa [wireAll_nil, ByteArray.empty_append] at h⟩
  | cons f fs ih =>
    rw [wireAll_cons, ByteArray.append_assoc] at h
    cases gs with
    | nil =>
      have hempty := congrArg ByteArray.size h
      rw [ByteArray.size_append, wireAll_nil, ByteArray.size_empty, size_wire, wireSize] at hempty
      omega
    | cons g gs =>
      obtain ⟨rfl, hrest⟩ := wire_append_inj (hfs f (by simp)) (hgs g (by simp)) h
      obtain ⟨rest, rfl, hb⟩ := ih (fun g hg => hfs g (List.mem_cons_of_mem f hg))
        (fun g hg => hgs g (List.mem_cons_of_mem f hg)) hrest
      exact ⟨rest, rfl, hb⟩

/-- Two lists of frames that the same bytes begin with are the same as far as both go. -/
theorem wireAll_append_cases (hfs : ∀ f ∈ fs, f.size < 4294967296)
    (hgs : ∀ g ∈ gs, g.size < 4294967296) (h : wireAll fs ++ a = wireAll gs ++ b) :
    (∃ rest, gs = fs ++ rest ∧ a = wireAll rest ++ b) ∨
      ∃ rest, fs = gs ++ rest ∧ b = wireAll rest ++ a := by
  induction fs generalizing gs with
  | nil => exact .inl ⟨gs, rfl, by rwa [wireAll_nil, ByteArray.empty_append] at h⟩
  | cons f fs ih =>
    cases gs with
    | nil => exact .inr ⟨f :: fs, rfl, by rw [h, wireAll_nil, ByteArray.empty_append]⟩
    | cons g gs =>
      rw [wireAll_cons, wireAll_cons, ByteArray.append_assoc, ByteArray.append_assoc] at h
      obtain ⟨rfl, hrest⟩ := wire_append_inj (hfs f (by simp)) (hgs g (by simp)) h
      rcases ih (fun g hg => hfs g (List.mem_cons_of_mem f hg))
        (fun g hg => hgs g (List.mem_cons_of_mem f hg)) hrest with ⟨rest, rfl, ha⟩ | ⟨rest, rfl, hb⟩
      · exact .inl ⟨rest, rfl, ha⟩
      · exact .inr ⟨rest, rfl, hb⟩

/-- These bytes do not begin with a whole frame. -/
def Incomplete (b : ByteArray) : Prop :=
  ∀ (f : Frame) (c : ByteArray), f.size < 4294967296 → b ≠ f.wire ++ c

theorem incomplete_empty : Incomplete .empty := fun f c _ h => by
  have hsize := congrArg ByteArray.size h
  rw [ByteArray.size_append, size_wire, wireSize, ByteArray.size_empty] at hsize
  omega

/-- What is left of frames and an incomplete rest begins with no other frames. -/
theorem Incomplete.isPrefix (h : Incomplete a) (hfs : ∀ f ∈ fs, f.size < 4294967296)
    (hgs : ∀ g ∈ gs, g.size < 4294967296) (heq : wireAll fs ++ a = wireAll gs ++ b) :
    gs <+: fs := by
  rcases wireAll_append_cases hfs hgs heq with ⟨rest, rfl, ha⟩ | ⟨rest, rfl, -⟩
  · cases rest with
    | nil => simp
    | cons g rest =>
      rw [wireAll_cons, ByteArray.append_assoc] at ha
      exact absurd ha (h g _ (hgs g (by simp)))
  · exact List.prefix_append _ _

/-- A frame that can be read under this limit: its length has 32 bits and is not over the limit. -/
structure Fits (limit : Nat) (f : Frame) : Prop where
  size_lt : f.size < 4294967296
  size_le : f.size ≤ limit

/-- No list of frames that can be read under this limit begins with these bytes on the wire. -/
def Unreadable (limit : Nat) (b : ByteArray) : Prop :=
  ∀ (fs : List Frame) (c : ByteArray), (∀ f ∈ fs, f.Fits limit) → b ++ c ≠ wireAll fs

theorem Unreadable.append {limit : Nat} (h : Unreadable limit b) (c : ByteArray) :
    Unreadable limit (b ++ c) := by
  intro fs c' hfs
  rw [ByteArray.append_assoc]
  exact h fs _ hfs

theorem Unreadable.after {limit : Nat} (h : Unreadable limit b) (hfs : ∀ f ∈ fs, f.Fits limit) :
    Unreadable limit (wireAll fs ++ b) := by
  intro gs c hgs heq
  rw [ByteArray.append_assoc] at heq
  obtain ⟨rest, rfl, hb⟩ := wireAll_append_inj (fun f hf => (hfs f hf).size_lt)
    (fun g hg => (hgs g hg).size_lt) heq
  exact h rest c (fun f hf => hgs f (List.mem_append_right _ hf)) hb

/-- A complete sequence of uncompressed messages of at most this size: each is a flag of zero, a
    length in four bytes and as many bytes. -/
inductive IsWire (limit : Nat) : ByteArray → Prop
  | nil : IsWire limit .empty
  | cons (a b c d : UInt8) (message rest : ByteArray) (hsize : message.size = lengthOf a b c d)
      (hlimit : message.size ≤ limit) (h : IsWire limit rest) :
      IsWire limit (⟨#[0, a, b, c, d]⟩ ++ message ++ rest)

/-- Every complete sequence of messages is that of some frames. -/
theorem isWire_iff {limit : Nat} :
    IsWire limit w ↔ ∃ fs, (∀ f ∈ fs, f.Fits limit) ∧ w = wireAll fs := by
  constructor
  · intro h
    induction h with
    | nil => exact ⟨[], by simp, rfl⟩
    | cons a b c d message rest hsize hlimit _ ih =>
      obtain ⟨fs, hfs, rfl⟩ := ih
      refine ⟨⟨message⟩ :: fs, ?_, ?_⟩
      · rintro f hf
        rcases List.mem_cons.1 hf with rfl | hf
        · exact ⟨by rw [Frame.size, hsize]; exact lengthOf_lt a b c d, hlimit⟩
        · exact hfs f hf
      · have hheader : header message.size = ⟨#[0, a, b, c, d]⟩ := by
          rw [header, hsize, lengthBytes_lengthOf]
          rfl
        rw [wireAll_cons, wire_eq, ← hheader]
        rfl
  · rintro ⟨fs, hfs, rfl⟩
    induction fs with
    | nil => exact .nil
    | cons f fs ih =>
      obtain ⟨hlt, hle⟩ := hfs f (by simp)
      exact .cons _ _ _ _ f.bytes _ (lengthOf_lengthBytes hlt).symm hle
        (ih fun g hg => hfs g (List.mem_cons_of_mem _ hg))

/-! ## Writing -/

theorem encodeError?_eq_none_iff {limit : Option Nat} :
    f.encodeError? limit = none ↔ f.size < 4294967296 ∧ ∀ n, limit = some n → f.size ≤ n := by
  unfold encodeError? encodeError?.tooLong?
  cases limit with
  | none => simp
  | some l =>
    simp only [Option.some.injEq, forall_eq']
    split
    · next h => exact ⟨nofun, fun ⟨_, h'⟩ => absurd h' (by omega)⟩
    · next h => simp; omega

/-- A frame that cannot be written is no success. -/
theorem code_of_encodeError? {limit : Option Nat} {e : Status} (h : f.encodeError? limit = some e) :
    e.code ≠ .ok := by
  have htooLong (h : encodeError?.tooLong? f = some e) : e.code ≠ .ok := by
    unfold encodeError?.tooLong? at h
    split at h
    · cases h; nofun
    · cases h
  unfold encodeError? at h
  split at h
  · split at h
    · cases h; nofun
    · exact htooLong h
  · exact htooLong h

end Frame

namespace Encoded

theorem run_frames {limit : Option Nat} {fs : List Frame}
    (hfs : ∀ f ∈ fs, f.encodeError? limit = none) (written buffer : ByteArray) :
    run limit written buffer (fs.map .frame) = ⟨written ++ buffer ++ wireAll fs, none⟩ := by
  induction fs generalizing written buffer with
  | nil => rw [wireAll_nil, ByteArray.append_empty]; rfl
  | cons f fs ih =>
    have hrest := fun g hg => hfs g (List.mem_cons_of_mem f hg)
    rw [List.map_cons, run, hfs f (by simp), wireAll_cons]
    dsimp only
    split
    · rw [ih hrest, ByteArray.append_empty]
      simp only [ByteArray.append_assoc]
    · rw [ih hrest]
      simp only [ByteArray.append_assoc]

/-- An encoder writes all frames that it can write, and in their order. -/
theorem ofItems_frames {limit : Option Nat} {fs : List Frame}
    (hfs : ∀ f ∈ fs, f.encodeError? limit = none) :
    ofItems limit (fs.map .frame) = ⟨wireAll fs, none⟩ := by
  rw [ofItems, run_frames hfs, ByteArray.append_empty, ByteArray.empty_append]

end Encoded

end GrpcRelay
