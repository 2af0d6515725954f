import Interning.Text
import Mathlib.Order.Basic

/-!
# The order of texts in bytes

Texts are ordered by code points. A program that holds texts in UTF-8 compares the bytes, and this
is the same order: the encoding of a character is never the beginning of another's, and of two
characters the smaller one has the smaller byte at the first place where their encodings differ
(`Text.Precedes`). So the comparison is decided at the first characters that differ, as it is for
the texts themselves (`Text.compare_bytes`).

ASCII capitals are single bytes, and no other character has a byte among theirs. Replacing the bytes
of capitals therefore replaces the capitals and leaves every other character whole
(`Text.map_lowerByte_bytes`).
-/

set_option autoImplicit false
set_option relaxedAutoImplicit false

namespace Interning

namespace Text

/-- The UTF-8 form of a text. -/
def bytes (text : Text) : List UInt8 :=
  text.flatMap String.utf8EncodeChar

/-- A byte, with ASCII capitals replaced by their small letters. -/
def lowerByte (byte : UInt8) : UInt8 :=
  if 65 ≤ byte ∧ byte ≤ 90 then byte + 32 else byte

theorem bytes_cons (c : Char) (text : Text) :
    bytes (c :: text) = String.utf8EncodeChar c ++ bytes text :=
  List.flatMap_cons

/-! ### Encodings that differ -/

/-- The first of two lists of bytes is the smaller one, whatever follows either of them. -/
def Precedes (first second : List UInt8) : Prop :=
  ∀ left right, compare (first ++ left) (second ++ right) = .lt

variable {first second : List UInt8} {m n : Nat}

theorem precedes_of_lt (hlt : m < n) (hn : n < 256) :
    Precedes (UInt8.ofNat m :: first) (UInt8.ofNat n :: second) := by
  intro left right
  have hbyte : UInt8.ofNat m < UInt8.ofNat n := by
    rw [UInt8.lt_iff_toNat_lt, UInt8.toNat_ofNat_of_lt' (Nat.lt_trans hlt hn),
      UInt8.toNat_ofNat_of_lt' hn]
    exact hlt
  rw [List.cons_append, List.cons_append, List.compare_cons_cons, Std.compare_eq_lt.mpr hbyte]
  rfl

/-- Where the first bytes are the same, the bytes after them decide. -/
theorem precedes_of_le (hle : m ≤ n) (hn : n < 256) (h : m = n → Precedes first second) :
    Precedes (UInt8.ofNat m :: first) (UInt8.ofNat n :: second) := by
  rcases Nat.lt_or_eq_of_le hle with hlt | heq
  · exact precedes_of_lt hlt hn
  · intro left right
    rw [heq, List.cons_append, List.cons_append, List.compare_cons_cons, Std.compare_self]
    exact h heq left right

theorem toNat_lt_of_lt {c d : Char} (h : c < d) : c.toNat < d.toNat :=
  UInt32.lt_iff_toNat_lt.mp (Char.lt_def.mp h)

theorem toNat_lt (c : Char) : c.toNat < 1114112 := by
  rcases c.valid with h | h
  · exact Nat.lt_trans h (by decide)
  · exact h.2

/-- Of two characters the smaller has the smaller encoding. -/
theorem precedes_utf8EncodeChar {c d : Char} (h : c < d) :
    Precedes (String.utf8EncodeChar c) (String.utf8EncodeChar d) := by
  have hlt := toNat_lt_of_lt h
  have hlimit := toNat_lt d
  simp only [String.utf8EncodeChar, Char.toNat_val]
  -- The first byte tells the number of bytes, so encodings of different lengths differ there.
  split_ifs <;> try omega
  all_goals try exact precedes_of_lt (by omega) (by omega)
  · exact precedes_of_le (by omega) (by omega) fun _ ↦ precedes_of_lt (by omega) (by omega)
  · exact precedes_of_le (by omega) (by omega) fun _ ↦
      precedes_of_le (by omega) (by omega) fun _ ↦ precedes_of_lt (by omega) (by omega)
  · exact precedes_of_le (by omega) (by omega) fun _ ↦
      precedes_of_le (by omega) (by omega) fun _ ↦
        precedes_of_le (by omega) (by omega) fun _ ↦ precedes_of_lt (by omega) (by omega)

theorem utf8EncodeChar_ne_nil (c : Char) : String.utf8EncodeChar c ≠ [] := by
  simp only [String.utf8EncodeChar]
  split_ifs <;> simp

theorem compare_append_left (common left right : List UInt8) :
    compare (common ++ left) (common ++ right) = compare left right := by
  induction common with
  | nil => rfl
  | cons byte common ih =>
    rw [List.cons_append, List.cons_append, List.compare_cons_cons, Std.compare_self]
    exact ih

theorem compare_bytes_of_lt {c d : Char} (h : c < d) (text other : Text) :
    compare (bytes (c :: text)) (bytes (d :: other)) = .lt ∧
      compare (c :: text) (d :: other) = .lt := by
  constructor
  · rw [bytes_cons, bytes_cons]
    exact precedes_utf8EncodeChar h _ _
  · have hfirst : compare c d = .lt := compareOfLessAndEq_eq_lt.mpr h
    rw [List.compare_cons_cons, hfirst]
    rfl

/-- Texts are in the order of their bytes. -/
theorem compare_bytes (text other : Text) :
    compare (bytes text) (bytes other) = compare text other := by
  induction text generalizing other with
  | nil =>
    cases other with
    | nil => rfl
    | cons d other =>
      obtain ⟨byte, rest, hbytes⟩ := List.exists_cons_of_ne_nil (utf8EncodeChar_ne_nil d)
      rw [bytes_cons, hbytes]
      rfl
  | cons c text ih =>
    cases other with
    | nil =>
      obtain ⟨byte, rest, hbytes⟩ := List.exists_cons_of_ne_nil (utf8EncodeChar_ne_nil c)
      rw [bytes_cons, hbytes]
      rfl
    | cons d other =>
      rcases Std.lt_trichotomy c d with hlt | rfl | hgt
      · obtain ⟨hbytes, htexts⟩ := compare_bytes_of_lt hlt text other
        rw [hbytes, htexts]
      · rw [bytes_cons, bytes_cons, compare_append_left, ih, List.compare_cons_cons,
          Std.compare_self]
        rfl
      · obtain ⟨hbytes, htexts⟩ := compare_bytes_of_lt hgt other text
        rw [Std.OrientedOrd.eq_swap, hbytes, Std.OrientedOrd.eq_swap (α := Text), htexts]

/-! ### Bytes of capitals -/

theorem lowerByte_ofNat {n : Nat} (hn : n < 256) :
    lowerByte (UInt8.ofNat n) = UInt8.ofNat (if 65 ≤ n ∧ n ≤ 90 then n + 32 else n) := by
  have hcapital : 65 ≤ UInt8.ofNat n ∧ UInt8.ofNat n ≤ 90 ↔ 65 ≤ n ∧ n ≤ 90 := by
    rw [UInt8.le_iff_toNat_le, UInt8.le_iff_toNat_le, UInt8.toNat_ofNat_of_lt' hn]
    exact Iff.rfl
  rw [lowerByte]
  split_ifs with h hrange hrange
  · exact (UInt8.ofNat_add n 32).symm
  · exact absurd (hcapital.mp h) hrange
  · exact absurd (hcapital.mpr hrange) h
  · rfl

theorem lowerByte_of_le {n : Nat} (hle : 128 ≤ n) (hn : n < 256) :
    lowerByte (UInt8.ofNat n) = UInt8.ofNat n := by
  rw [lowerByte_ofNat hn, if_neg (by omega)]

theorem toNat_toLower (c : Char) :
    c.toLower.toNat = if 65 ≤ c.toNat ∧ c.toNat ≤ 90 then c.toNat + 32 else c.toNat := by
  have hcapital : c.val ≥ 'A'.val ∧ c.val ≤ 'Z'.val ↔ 65 ≤ c.toNat ∧ c.toNat ≤ 90 := by
    rw [ge_iff_le, UInt32.le_iff_toNat_le, UInt32.le_iff_toNat_le]
    exact Iff.rfl
  delta Char.toLower
  split_ifs with h hrange hrange
  · have hsum : (c.val + ('a'.val - 'A'.val)).toNat = (c.toNat + 32) % 2 ^ 32 :=
      UInt32.toNat_add _ _
    exact hsum.trans (Nat.mod_eq_of_lt (by omega))
  · exact absurd (hcapital.mp h) hrange
  · exact absurd (hcapital.mpr hrange) h
  · rfl

theorem utf8EncodeChar_of_le {c : Char} (h : c.toNat ≤ 127) :
    String.utf8EncodeChar c = [UInt8.ofNat c.toNat] := by
  simp only [String.utf8EncodeChar, Char.toNat_val, if_pos h]

/-- No byte of a character beyond ASCII is that of a capital. -/
theorem map_lowerByte_of_lt {c : Char} (h : 127 < c.toNat) :
    (String.utf8EncodeChar c).map lowerByte = String.utf8EncodeChar c := by
  have hlimit := toNat_lt c
  simp only [String.utf8EncodeChar, Char.toNat_val, if_neg (Nat.not_le.mpr h)]
  split_ifs <;> simp only [List.map_cons, List.map_nil, List.cons.injEq, and_true]
  · exact ⟨lowerByte_of_le (by omega) (by omega), lowerByte_of_le (by omega) (by omega)⟩
  · exact ⟨lowerByte_of_le (by omega) (by omega), lowerByte_of_le (by omega) (by omega),
      lowerByte_of_le (by omega) (by omega)⟩
  · exact ⟨lowerByte_of_le (by omega) (by omega), lowerByte_of_le (by omega) (by omega),
      lowerByte_of_le (by omega) (by omega), lowerByte_of_le (by omega) (by omega)⟩

theorem map_lowerByte_utf8EncodeChar (c : Char) :
    (String.utf8EncodeChar c).map lowerByte = String.utf8EncodeChar c.toLower := by
  have hlower := toNat_toLower c
  rcases Nat.lt_or_ge 127 c.toNat with hbeyond | hascii
  · have hsame : c.toLower = c := by
      rw [if_neg (by omega)] at hlower
      exact Char.toNat_inj.mp hlower
    rw [hsame, map_lowerByte_of_lt hbeyond]
  · have hsmall : c.toLower.toNat ≤ 127 := by
      rw [hlower]
      split_ifs <;> omega
    rw [utf8EncodeChar_of_le hascii, utf8EncodeChar_of_le hsmall, List.map_singleton,
      lowerByte_ofNat (by omega), hlower]

/-- Replacing the bytes of ASCII capitals replaces the capitals. -/
theorem map_lowerByte_bytes (text : Text) :
    (bytes text).map lowerByte = bytes (text.map Char.toLower) := by
  induction text with
  | nil => rfl
  | cons c text ih =>
    rw [bytes_cons, List.map_append, map_lowerByte_utf8EncodeChar, ih, List.map_cons, bytes_cons]

end Text

end Interning
