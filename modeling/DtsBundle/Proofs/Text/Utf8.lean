import DtsBundle.Text.Utf8
/-!
# Decoding what was encoded

The machine that reads UTF-8 is followed through the bytes of one character: the leading byte says how many are owed and
bounds the next, each of those owed lies within the bounds, and the last completes the number that was encoded
(`scanFrom_encoded`).  So **the bytes of a text are read as that text** (`scan_utf8`), strictly or not, and **a forgiving
reading loses nothing just when the bytes are those of a text** (`utf8_ofUtf8Lossy_eq_iff`): otherwise there is a gap
somewhere, and what is put into it was not there.
-/
namespace DtsBundle.Text

namespace Utf8

/-! ## One byte -/

theorem toNat_ofNat_of_lt {m : Nat} (h : m < 256) : (UInt8.ofNat m).toNat = m := by
  rw [UInt8.toNat_ofNat', Nat.mod_eq_of_lt h]

theorem scanFrom_ascii {m : Nat} (h : m < 0x80) (rest : List UInt8) :
    scanFrom none (UInt8.ofNat m :: rest) = some (Char.ofNat m) :: scanFrom none rest := by
  simp only [scanFrom, step, start, toNat_ofNat_of_lt (Nat.lt_trans h (by decide)), if_pos h, List.singleton_append]

theorem scanFrom_lead {m : Nat} {begun : Begun} (hlow : 0x80 ≤ m) (hhigh : m < 256) (h : lead? m = some begun)
    (rest : List UInt8) : scanFrom none (UInt8.ofNat m :: rest) = scanFrom (some begun) rest := by
  simp only [scanFrom, step, start, toNat_ofNat_of_lt hhigh, if_neg (Nat.not_lt.2 hlow), h, List.nil_append]

theorem scanFrom_next {owed low high value m : Nat} (hlow : low ≤ m % 0x40 + 0x80) (hhigh : m % 0x40 + 0x80 ≤ high)
    (rest : List UInt8) :
    scanFrom (some ⟨owed + 2, low, high, value⟩) (UInt8.ofNat (m % 0x40 + 0x80) :: rest) =
      scanFrom (some ⟨owed + 1, 0x80, 0xBF, value * 64 + m % 0x40⟩) rest := by
  have hbyte : (UInt8.ofNat (m % 0x40 + 0x80)).toNat = m % 0x40 + 0x80 := toNat_ofNat_of_lt (by omega)
  have howed : ¬ owed + 2 ≤ 1 := by omega
  simp only [scanFrom, step, hbyte, if_pos (And.intro hlow hhigh), if_neg howed, Nat.add_sub_cancel, List.nil_append]
  rfl

theorem scanFrom_last {value m : Nat} (rest : List UInt8) :
    scanFrom (some ⟨1, 0x80, 0xBF, value⟩) (UInt8.ofNat (m % 0x40 + 0x80) :: rest) =
      some (Char.ofNat (value * 64 + m % 0x40)) :: scanFrom none rest := by
  have hbyte : (UInt8.ofNat (m % 0x40 + 0x80)).toNat = m % 0x40 + 0x80 := toNat_ofNat_of_lt (by omega)
  have hwithin : 0x80 ≤ m % 0x40 + 0x80 ∧ m % 0x40 + 0x80 ≤ 0xBF := by omega
  simp only [scanFrom, step, hbyte, if_pos hwithin, Nat.le_refl, if_true, Nat.add_sub_cancel, List.singleton_append]

/-! ## The leading byte of a character -/

variable {n : Nat}

theorem lead?_two (hlow : 0x80 ≤ n) (hhigh : n < 0x800) : lead? (n / 64 + 0xC0) = some ⟨1, 0x80, 0xBF, n / 64⟩ := by
  have hbounds : 0xC2 ≤ n / 64 + 0xC0 ∧ n / 64 + 0xC0 ≤ 0xDF := by omega
  rw [lead?, if_pos hbounds, Nat.add_sub_cancel]

theorem lead?_three (hlow : 0x800 ≤ n) (hhigh : n < 0x10000) (hplane : n < 0xD800 ∨ 0xDFFF < n) :
    ∃ low high, lead? (n / 4096 + 0xE0) = some ⟨2, low, high, n / 4096⟩ ∧
      low ≤ n / 64 % 64 + 0x80 ∧ n / 64 % 64 + 0x80 ≤ high := by
  unfold lead?
  rw [if_neg (by omega)]
  -- the second byte is bounded where a shorter spelling or a surrogate could begin
  split
  · rename_i hfirst
    have hzero : n / 4096 = 0 := by omega
    exact ⟨0xA0, 0xBF, by rw [hzero], by omega, by omega⟩
  split
  · rename_i hsurrogates
    have hvalue : n / 4096 = 0xD := by omega
    exact ⟨0x80, 0x9F, by rw [hvalue], by omega, by omega⟩
  · rw [if_pos (by omega), Nat.add_sub_cancel]
    exact ⟨0x80, 0xBF, rfl, by omega, by omega⟩

theorem lead?_four (hlow : 0x10000 ≤ n) (hhigh : n < 0x110000) :
    ∃ low high, lead? (n / 262144 + 0xF0) = some ⟨3, low, high, n / 262144⟩ ∧
      low ≤ n / 4096 % 64 + 0x80 ∧ n / 4096 % 64 + 0x80 ≤ high := by
  unfold lead?
  rw [if_neg (by omega), if_neg (by omega), if_neg (by omega), if_neg (by omega)]
  -- and where a shorter spelling or what lies past the last plane could
  split
  · rename_i hfirst
    have hzero : n / 262144 = 0 := by omega
    exact ⟨0x90, 0xBF, by rw [hzero], by omega, by omega⟩
  split
  · rw [Nat.add_sub_cancel]
    exact ⟨0x80, 0xBF, rfl, by omega, by omega⟩
  · have hlast : n / 262144 = 4 := by omega
    rw [if_pos (by omega)]
    exact ⟨0x80, 0x8F, by rw [hlast], by omega, by omega⟩

/-! ## One character -/

theorem scanFrom_two (hlow : 0x80 ≤ n) (hhigh : n < 0x800) (rest : List UInt8) :
    scanFrom none (UInt8.ofNat (n / 64 % 0x20 + 0xC0) :: UInt8.ofNat (n % 0x40 + 0x80) :: rest) =
      some (Char.ofNat n) :: scanFrom none rest := by
  have hfirst : n / 64 % 0x20 = n / 64 := by omega
  have hvalue : n / 64 * 64 + n % 0x40 = n := by omega
  rw [hfirst, scanFrom_lead (by omega) (by omega) (lead?_two hlow hhigh), scanFrom_last, hvalue]

theorem scanFrom_three (hlow : 0x800 ≤ n) (hhigh : n < 0x10000) (hplane : n < 0xD800 ∨ 0xDFFF < n) (rest : List UInt8) :
    scanFrom none (UInt8.ofNat (n / 4096 % 0x10 + 0xE0) :: UInt8.ofNat (n / 64 % 0x40 + 0x80) ::
      UInt8.ofNat (n % 0x40 + 0x80) :: rest) = some (Char.ofNat n) :: scanFrom none rest := by
  obtain ⟨low, high, hlead, hwithin, hwithin'⟩ := lead?_three hlow hhigh hplane
  have hfirst : n / 4096 % 0x10 = n / 4096 := by omega
  have hvalue : (n / 4096 * 64 + n / 64 % 0x40) * 64 + n % 0x40 = n := by omega
  rw [hfirst, scanFrom_lead (by omega) (by omega) hlead, scanFrom_next hwithin hwithin', scanFrom_last, hvalue]

theorem scanFrom_four (hlow : 0x10000 ≤ n) (hhigh : n < 0x110000) (rest : List UInt8) :
    scanFrom none (UInt8.ofNat (n / 262144 % 0x08 + 0xF0) :: UInt8.ofNat (n / 4096 % 0x40 + 0x80) ::
      UInt8.ofNat (n / 64 % 0x40 + 0x80) :: UInt8.ofNat (n % 0x40 + 0x80) :: rest) =
        some (Char.ofNat n) :: scanFrom none rest := by
  obtain ⟨low, high, hlead, hwithin, hwithin'⟩ := lead?_four hlow hhigh
  have hfirst : n / 262144 % 0x08 = n / 262144 := by omega
  have hvalue : ((n / 262144 * 64 + n / 4096 % 0x40) * 64 + n / 64 % 0x40) * 64 + n % 0x40 = n := by omega
  rw [hfirst, scanFrom_lead (by omega) (by omega) hlead, scanFrom_next hwithin hwithin',
    scanFrom_next (by omega) (by omega), scanFrom_last, hvalue]

/-- **The bytes of a character are read as the character.** -/
theorem scanFrom_encoded (c : Char) (rest : List UInt8) :
    scanFrom none (String.utf8EncodeChar c ++ rest) = some c :: scanFrom none rest := by
  have hvalid : c.val.toNat < 0xD800 ∨ 0xDFFF < c.val.toNat ∧ c.val.toNat < 0x110000 := c.valid
  have hchar : Char.ofNat c.val.toNat = c := Char.ofNat_toNat c
  unfold String.utf8EncodeChar
  dsimp only
  generalize c.val.toNat = n at hvalid hchar
  rw [← hchar]
  split
  · exact scanFrom_ascii (by omega) rest
  split
  · exact scanFrom_two (by omega) (by omega) rest
  split
  · exact scanFrom_three (by omega) (by omega) (by omega) rest
  · exact scanFrom_four (by omega) (by omega) rest

end Utf8

/-- **The bytes of a text are read as its characters**, without a gap. -/
theorem scan_utf8 (text : Text) : Utf8.scan (utf8 text) = text.map some := by
  unfold Utf8.scan utf8
  induction text with
  | nil => rfl
  | cons c text ih => rw [List.flatMap_cons, Utf8.scanFrom_encoded, ih, List.map_cons]

theorem utf8_append (text other : Text) : utf8 (text ++ other) = utf8 text ++ utf8 other :=
  List.flatMap_append

theorem ofUtf8Lossy_utf8 (text : Text) : ofUtf8Lossy (utf8 text) = text := by
  rw [ofUtf8Lossy, scan_utf8, List.map_map]
  exact List.map_id text

/-- **A forgiving reading gives the bytes back just when they are those of a text.** -/
theorem utf8_ofUtf8Lossy_eq_iff {bytes : List UInt8} : utf8 (ofUtf8Lossy bytes) = bytes ↔ ∃ text, utf8 text = bytes := by
  constructor
  · exact fun h => ⟨_, h⟩
  · rintro ⟨text, rfl⟩
    rw [ofUtf8Lossy_utf8]

end DtsBundle.Text
