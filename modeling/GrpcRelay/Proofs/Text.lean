/-
  Text — lower case is the same when it is taken twice, the digits of a number
  are read back as that number (`decimal?_toDigits`, `hexadecimal?_hexText`), the
  bytes of a text are read back as that text (`decodeUtf8_toUTF8`), and bytes
  that are percent-encoded are decoded to what they were
  (`percentDecode_percentEncode`).
-/
import GrpcRelay.Text.Letters
import GrpcRelay.Text.Percent
import GrpcRelay.Text.Utf8

namespace GrpcRelay.Text

theorem toNat_ofNat {n : Nat} (h : n.isValidChar) : (Char.ofNat n).toNat = n := by
  rw [Char.ofNat, dif_pos h]
  rfl

/-! ## Lower case -/

theorem lower_lower (c : Char) : lower (lower c) = lower c := by
  by_cases h : 'A' ≤ c ∧ c ≤ 'Z'
  · have hlo : 65 ≤ c.toNat := Char.le_def.1 h.1
    have hhi : c.toNat ≤ 90 := Char.le_def.1 h.2
    have htoNat : (Char.ofNat (c.toNat + 32)).toNat = c.toNat + 32 := toNat_ofNat (.inl (by omega))
    have hnot : ¬('A' ≤ Char.ofNat (c.toNat + 32) ∧ Char.ofNat (c.toNat + 32) ≤ 'Z') := by
      rintro ⟨-, hle⟩
      have hle' : (Char.ofNat (c.toNat + 32)).toNat ≤ 90 := Char.le_def.1 hle
      omega
    rw [lower, lower, if_pos h, if_neg hnot]
  · have hc : lower c = c := if_neg h
    rw [hc, hc]

theorem lowerString_lowerString (s : String) : lowerString (lowerString s) = lowerString s := by
  simp [lowerString, lowerText, Function.comp_def, lower_lower]

/-! ## Numbers -/

section Digits

variable {b : Nat} {c : Char}

theorem mem_toDigits {n : Nat} (hb : 1 < b) (h : c ∈ Nat.toDigits b n) :
    ∃ d, d < b ∧ c = d.digitChar := by
  induction n using Nat.strongRecOn with
  | ind n ih =>
    rw [Nat.toDigits_eq_if hb] at h
    split at h
    · next hlt => exact ⟨n, hlt, List.mem_singleton.1 h⟩
    · rcases List.mem_append.1 h with h | h
      · exact ih (n / b) (Nat.div_lt_self (by omega) hb) h
      · exact ⟨n % b, Nat.mod_lt n (by omega), List.mem_singleton.1 h⟩

/-- Digits read from the left give their number. -/
theorem foldl_toDigits {value? : Char → Option Nat} (hb : 1 < b)
    (hvalue : ∀ d, d < b → value? d.digitChar = some d) (n : Nat) :
    (Nat.toDigits b n).foldl
      (fun acc c => acc.bind fun n => (value? c).map (n * b + ·)) (some 0) = some n := by
  induction n using Nat.strongRecOn with
  | ind n ih =>
    rw [Nat.toDigits_eq_if hb]
    split
    · next hlt => simp [hvalue n hlt]
    · rw [List.foldl_append, ih (n / b) (Nat.div_lt_self (by omega) hb)]
      simp [hvalue (n % b) (Nat.mod_lt n (by omega)), Nat.div_add_mod']

theorem digitValue?_digitChar : ∀ d, d < 10 → digitValue? d.digitChar = some d := by decide

theorem hexValue?_digitChar : ∀ d, d < 16 → hexValue? d.digitChar = some d := by decide

theorem decimal?_toDigits (n : Nat) : decimal? (Nat.toDigits 10 n) = some n := by
  unfold decimal?
  split
  · next h => exact absurd h Nat.toDigits_ne_nil
  · exact foldl_toDigits (by decide) digitValue?_digitChar n

theorem hexadecimal?_hexText (n : Nat) : hexadecimal? (hexText n) = some n := by
  unfold hexadecimal?
  split
  · next h => exact absurd h Nat.toDigits_ne_nil
  · exact foldl_toDigits (by decide) hexValue?_digitChar n

/-- A number is written without a zero in front, unless it is zero. -/
theorem head?_toDigits {n : Nat} (hn : 0 < n) : (Nat.toDigits 10 n).head? ≠ some '0' := by
  have hdigit : ∀ d, d < 10 → 0 < d → d.digitChar ≠ '0' := by decide
  induction n using Nat.strongRecOn with
  | ind n ih =>
    rw [Nat.toDigits_eq_if (by decide)]
    split
    · next hlt => simpa using hdigit n hlt hn
    · have hfront := ih (n / 10) (Nat.div_lt_self hn (by decide)) (by omega)
      obtain ⟨c, r, hc⟩ := List.exists_cons_of_ne_nil (Nat.toDigits_ne_nil (n := n / 10) (b := 10))
      rw [hc] at hfront ⊢
      exact hfront

end Digits

/-! ## Bytes -/

theorem toList_loop (b : ByteArray) (i : Nat) (r : List UInt8) :
    ByteArray.toList.loop b i r = r.reverse ++ b.data.toList.drop i := by
  fun_induction ByteArray.toList.loop b i r with
  | case1 i r h ih =>
    have hi : i < b.data.toList.length := by simpa using h
    rw [ih, List.drop_eq_getElem_cons hi]
    simp [ByteArray.get!, h]
  | case2 i r h =>
    rw [List.drop_eq_nil_of_le (by simpa using Nat.le_of_not_lt h), List.append_nil]

theorem toList_eq_data (b : ByteArray) : b.toList = b.data.toList := by
  rw [ByteArray.toList, toList_loop]
  rfl

theorem toUTF8_ofList (cs : List Char) :
    (String.ofList cs).toUTF8.toList = cs.flatMap String.utf8EncodeChar := by
  rw [toList_eq_data]
  exact List.toList_data_toByteArray

theorem toUTF8_eq (s : String) : s.toUTF8.toList = s.toList.flatMap String.utf8EncodeChar := by
  rw [← toUTF8_ofList, String.ofList_toList]

/-! ## UTF-8 -/

theorem utf8Lead_ofNat {n : Nat} (h : n < 256) :
    utf8Lead (UInt8.ofNat n) =
      if n < 128 then some (0, 0, 1)
      else if n < 194 then none
      else if n < 224 then some (128, 191, 2)
      else if n = 224 then some (160, 191, 3)
      else if n = 237 then some (128, 159, 3)
      else if n < 240 then some (128, 191, 3)
      else if n = 240 then some (144, 191, 4)
      else if n < 244 then some (128, 191, 4)
      else if n = 244 then some (128, 143, 4)
      else none := by
  unfold utf8Lead
  simp only [UInt8.lt_iff_toNat_lt, ← UInt8.toNat_inj, UInt8.toNat_ofNat']
  rw [Nat.mod_eq_of_lt h]
  rfl

theorem utf8Tail_cons {index seen owed n : Nat} {lo hi : UInt8} {r : List UInt8} (h : n < 256)
    (hlo : lo.toNat ≤ n) (hhi : n ≤ hi.toNat) :
    utf8Tail index seen lo hi (owed + 1) (UInt8.ofNat n :: r) =
      utf8Tail index (seen + 1) 0x80 0xBF owed r := by
  rw [utf8Tail, if_pos]
  rw [UInt8.le_iff_toNat_le, UInt8.le_iff_toNat_le, UInt8.toNat_ofNat', Nat.mod_eq_of_lt h]
  exact ⟨hlo, hhi⟩

/-- The first byte of a character of three bytes, and the range of the second. -/
theorem utf8Lead_three {v : Nat} (hlo : 2048 ≤ v) (hhi : v < 65536)
    (hvalid : v < 55296 ∨ 57343 < v) :
    ∃ lo hi, utf8Lead (UInt8.ofNat (v / 4096 % 16 + 224)) = some (lo, hi, 3) ∧
      lo.toNat ≤ v / 64 % 64 + 128 ∧ v / 64 % 64 + 128 ≤ hi.toNat := by
  rw [utf8Lead_ofNat (by omega), if_neg (by omega), if_neg (by omega), if_neg (by omega)]
  by_cases hfirst : v / 4096 % 16 + 224 = 224
  · rw [if_pos hfirst]
    exact ⟨160, 191, rfl, show 160 ≤ _ by omega, show _ ≤ 191 by omega⟩
  · rw [if_neg hfirst]
    by_cases hlast : v / 4096 % 16 + 224 = 237
    · rw [if_pos hlast]
      exact ⟨128, 159, rfl, show 128 ≤ _ by omega, show _ ≤ 159 by omega⟩
    · rw [if_neg hlast, if_pos (by omega)]
      exact ⟨128, 191, rfl, show 128 ≤ _ by omega, show _ ≤ 191 by omega⟩

/-- The same for a character of four bytes. -/
theorem utf8Lead_four {v : Nat} (hlo : 65536 ≤ v) (hhi : v < 1114112) :
    ∃ lo hi, utf8Lead (UInt8.ofNat (v / 262144 % 8 + 240)) = some (lo, hi, 4) ∧
      lo.toNat ≤ v / 4096 % 64 + 128 ∧ v / 4096 % 64 + 128 ≤ hi.toNat := by
  rw [utf8Lead_ofNat (by omega), if_neg (by omega), if_neg (by omega), if_neg (by omega),
    if_neg (by omega), if_neg (by omega), if_neg (by omega)]
  by_cases hfirst : v / 262144 % 8 + 240 = 240
  · rw [if_pos hfirst]
    exact ⟨144, 191, rfl, show 144 ≤ _ by omega, show _ ≤ 191 by omega⟩
  · rw [if_neg hfirst]
    by_cases hlast : v / 262144 % 8 + 240 < 244
    · rw [if_pos hlast]
      exact ⟨128, 191, rfl, show 128 ≤ _ by omega, show _ ≤ 191 by omega⟩
    · rw [if_neg hlast, if_pos (by omega)]
      exact ⟨128, 143, rfl, show 128 ≤ _ by omega, show _ ≤ 143 by omega⟩

/-- The bytes of a character are read as one. -/
theorem utf8FaultFrom_char (c : Char) (fuel index : Nat) (r : List UInt8) :
    ∃ k, utf8FaultFrom (fuel + 1) index (String.utf8EncodeChar c ++ r) =
      utf8FaultFrom fuel k r := by
  have hvalid : c.val.toNat < 55296 ∨ (57343 < c.val.toNat ∧ c.val.toNat < 1114112) := c.valid
  have htail (index seen owed n : Nat) (r : List UInt8) (h : n < 64) :
      utf8Tail index seen 0x80 0xBF (owed + 1) (UInt8.ofNat (n + 128) :: r) =
        utf8Tail index (seen + 1) 0x80 0xBF owed r :=
    utf8Tail_cons (by omega) (show 128 ≤ _ by omega) (show _ ≤ 191 by omega)
  -- a case for each length; only the second byte can have a range of its own
  unfold String.utf8EncodeChar
  generalize c.val.toNat = v at hvalid
  dsimp only
  split
  · refine ⟨index + 1, ?_⟩
    rw [List.singleton_append, utf8FaultFrom, utf8Lead_ofNat (by omega), if_pos (by omega)]
    rfl
  · split
    · refine ⟨index + 2, ?_⟩
      rw [List.cons_append, utf8FaultFrom, utf8Lead_ofNat (by omega), if_neg (by omega),
        if_neg (by omega), if_pos (by omega)]
      dsimp only
      rw [List.singleton_append, htail _ _ _ _ _ (by omega)]
      rfl
    · split
      · obtain ⟨lo, hi, hlead, hlo, hhi⟩ :=
          utf8Lead_three (v := v) (by omega) (by omega) (by omega)
        refine ⟨index + 3, ?_⟩
        rw [List.cons_append, utf8FaultFrom, hlead]
        dsimp only
        rw [List.cons_append, utf8Tail_cons (by omega) hlo hhi, List.singleton_append,
          htail _ _ _ _ _ (by omega)]
        rfl
      · obtain ⟨lo, hi, hlead, hlo, hhi⟩ := utf8Lead_four (v := v) (by omega) (by omega)
        refine ⟨index + 4, ?_⟩
        rw [List.cons_append, utf8FaultFrom, hlead]
        dsimp only
        rw [List.cons_append, utf8Tail_cons (by omega) hlo hhi, List.cons_append,
          htail _ _ _ _ _ (by omega), List.singleton_append, htail _ _ _ _ _ (by omega)]
        rfl

theorem utf8FaultFrom_chars (cs : List Char) (fuel index : Nat) :
    utf8FaultFrom fuel index (cs.flatMap String.utf8EncodeChar) = none := by
  induction fuel generalizing cs index with
  | zero => rfl
  | succ fuel ih =>
    cases cs with
    | nil => rfl
    | cons c cs =>
      obtain ⟨k, hk⟩ := utf8FaultFrom_char c fuel index (cs.flatMap String.utf8EncodeChar)
      rw [List.flatMap_cons, hk]
      exact ih cs k

/-- The bytes of a text are read as the text. -/
theorem decodeUtf8_toUTF8 (s : String) : decodeUtf8 s.toUTF8.toList = .ok s := by
  have hfault : utf8Fault? s.toUTF8.toList = none := by
    rw [utf8Fault?, toUTF8_eq, utf8FaultFrom_chars]
  have hread : String.fromUTF8? ⟨s.toUTF8.toList.toArray⟩ = some s := by
    rw [toList_eq_data]
    exact dif_pos s.isValidUTF8
  rw [decodeUtf8, hfault, hread]
  rfl

/-! ## Percent-encoding -/

theorem utf8EncodeChar_ofNat {n : Nat} (h : n < 128) :
    String.utf8EncodeChar (Char.ofNat n) = [UInt8.ofNat n] := by
  have hn : (Char.ofNat n).val.toNat = n := toNat_ofNat (.inl (by omega))
  rw [String.utf8EncodeChar]
  simp only [hn]
  rw [if_pos (by omega)]

theorem hexValue?_capitalDigit {n : Nat} (h : n < 16) :
    String.utf8EncodeChar (capitalDigit n) = [UInt8.ofNat (capitalDigit n).toNat] ∧
      hexByte? (UInt8.ofNat (capitalDigit n).toNat) = some n := by
  have hall : ∀ n : Fin 16,
      String.utf8EncodeChar (capitalDigit n) = [UInt8.ofNat (capitalDigit n).toNat] ∧
        hexByte? (UInt8.ofNat (capitalDigit n).toNat) = some n.val := by decide
  exact hall ⟨n, h⟩

theorem percentDecode_cons {b : UInt8} (h : b ≠ 0x25) (r : List UInt8) :
    percentDecode (b :: r) = b :: percentDecode r := by
  match r with
  | [] | [_] => rfl
  | _ :: _ :: _ => rw [percentDecode, if_neg h]

theorem percentDecode_escape {b c d : UInt8} {h l : Nat} (hb : b = 0x25) (hh : hexByte? c = some h)
    (hl : hexByte? d = some l) (r : List UInt8) :
    percentDecode (b :: c :: d :: r) = UInt8.ofNat (h * 16 + l) :: percentDecode r := by
  rw [percentDecode, if_pos hb, hh, hl]

theorem percentDecode_byte (b : UInt8) (r : List UInt8) :
    percentDecode ((percentEncode [b]).flatMap String.utf8EncodeChar ++ r) =
      b :: percentDecode r := by
  have hlt : b.toNat < 256 := b.toNat_lt
  unfold percentEncode
  rw [List.flatMap_singleton]
  split
  · obtain ⟨hhigh, hh⟩ := hexValue?_capitalDigit (n := b.toNat / 16) (by omega)
    obtain ⟨hlow, hl⟩ := hexValue?_capitalDigit (n := b.toNat % 16) (by omega)
    simp only [List.flatMap_cons, List.flatMap_nil, hhigh, hlow, List.append_nil]
    refine (percentDecode_escape rfl hh hl r).trans ?_
    rw [Nat.div_add_mod', UInt8.ofNat_toNat]
  · next he =>
    have hplain : b.toNat < 127 ∧ b ≠ 0x25 := by
      simp only [isEscaped, Bool.or_eq_true, decide_eq_true_eq, not_or, UInt8.not_le] at he
      refine ⟨he.1.2, fun hb => ?_⟩
      subst hb
      exact he.2 (by decide)
    rw [List.flatMap_singleton, utf8EncodeChar_ofNat (by omega), UInt8.ofNat_toNat]
    exact percentDecode_cons hplain.2 r

/-- What is escaped is decoded, and nothing else. -/
theorem percentDecode_percentEncode (bytes : List UInt8) :
    percentDecode ((percentEncode bytes).flatMap String.utf8EncodeChar) = bytes := by
  induction bytes with
  | nil => rfl
  | cons b bytes ih =>
    have hsplit : percentEncode (b :: bytes) = percentEncode [b] ++ percentEncode bytes := by
      simp [percentEncode]
    rw [hsplit, List.flatMap_append, percentDecode_byte, ih]

end GrpcRelay.Text
