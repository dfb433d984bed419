import Fleet.Text.Utf8
import Mathlib.Tactic.IntervalCases

/-!
# Bytes that are text

Bytes are repaired only where they are no UTF-8: the bytes of a text are read as that text
(`repair_bytes`). Reading goes character by character, so what has to be followed is how the bytes of
one character are read (`repairFrom_char`), for each number of bytes that it may take up.
-/

namespace Fleet.Text

/-! ## The bytes of a text -/

theorem byteArray_toList_loop (bytes : ByteArray) (i : Nat) (before : List UInt8) :
    ByteArray.toList.loop bytes i before = before.reverse ++ bytes.data.toList.drop i := by
  fun_induction ByteArray.toList.loop bytes i before with
  | case1 i before hi ih =>
    have hlength : i < bytes.data.toList.length := by simpa using hi
    rw [ih, List.drop_eq_getElem_cons hlength]
    simp [ByteArray.get!, hi]
  | case2 i before hi =>
    rw [List.drop_eq_nil_of_le (by simpa using Nat.le_of_not_lt hi)]
    simp

/-- The bytes of a text are those of its characters. -/
theorem bytes_eq (s : String) : bytes s = s.toList.flatMap String.utf8EncodeChar := by
  rw [bytes, String.toUTF8_eq_toByteArray, ← String.utf8Encode_toList, ByteArray.toList,
    byteArray_toList_loop]
  exact List.toList_data_toByteArray

/-! ## Reading the bytes of a character -/

theorem leadOf_two : ∀ k, 2 ≤ k → k < 32 →
    leadOf (UInt8.ofNat (k + 192)) = .begins ⟨k, 1, 0x80, 0xBF⟩ := by
  intro k hlow hhigh
  interval_cases k <;> rfl

theorem leadOf_three : ∀ k, k < 16 → leadOf (UInt8.ofNat (k + 224)) =
    .begins ⟨k, 2, if k = 0 then 0xA0 else 0x80, if k = 0xD then 0x9F else 0xBF⟩ := by
  intro k hhigh
  interval_cases k <;> rfl

theorem leadOf_four : ∀ k, k < 5 → leadOf (UInt8.ofNat (k + 240)) =
    .begins ⟨k, 3, if k = 0 then 0x90 else 0x80, if k = 4 then 0x8F else 0xBF⟩ := by
  intro k hhigh
  interval_cases k <;> rfl

theorem repairFrom_begins {byte : UInt8} {u : Unfinished} (h : leadOf byte = .begins u)
    (rest : List UInt8) : repairFrom none (byte :: rest) = repairFrom (some u) rest := by
  rw [repairFrom, h]

/-- A byte that may come next brings in six bits. -/
theorem repairFrom_next {u : Unfinished} {d : Nat} (hd : d < 64) (hlow : u.low ≤ d + 128)
    (hhigh : d + 128 ≤ u.high) (rest : List UInt8) :
    repairFrom (some u) (UInt8.ofNat (d + 128) :: rest) =
      if u.missing ≤ 1 then Char.ofNat (u.bits * 64 + d) :: repairFrom none rest
      else repairFrom (some ⟨u.bits * 64 + d, u.missing - 1, 0x80, 0xBF⟩) rest := by
  have hlt : d + 128 < 2 ^ 8 := by omega
  have hbyte : (UInt8.ofNat (d + 128)).toNat = d + 128 := UInt8.toNat_ofNat_of_lt' hlt
  have hbits : d + 128 - 0x80 = d := by omega
  rw [repairFrom, hbyte, hbits, if_pos (by simp [hlow, hhigh])]

variable {bits low high d : Nat}

/-- The last byte of a character ends it. -/
theorem repairFrom_last (hd : d < 64) (hlow : low ≤ d + 128) (hhigh : d + 128 ≤ high)
    (rest : List UInt8) :
    repairFrom (some ⟨bits, 1, low, high⟩) (UInt8.ofNat (d + 128) :: rest) =
      Char.ofNat (bits * 64 + d) :: repairFrom none rest :=
  repairFrom_next hd hlow hhigh rest

/-- Another byte does not. -/
theorem repairFrom_more {missing : Nat} (hd : d < 64) (hlow : low ≤ d + 128) (hhigh : d + 128 ≤ high)
    (rest : List UInt8) :
    repairFrom (some ⟨bits, missing + 2, low, high⟩) (UInt8.ofNat (d + 128) :: rest) =
      repairFrom (some ⟨bits * 64 + d, missing + 1, 0x80, 0xBF⟩) rest := by
  have hmore : ¬ missing + 2 ≤ 1 := by omega
  exact (repairFrom_next hd hlow hhigh rest).trans (if_neg hmore)

/-- The bytes of a character are read as that character. -/
theorem repairFrom_char (c : Char) (rest : List UInt8) :
    repairFrom none (String.utf8EncodeChar c ++ rest) = c :: repairFrom none rest := by
  have hvalid : c.toNat < 0xD800 ∨ 0xDFFF < c.toNat ∧ c.toNat < 0x110000 := c.valid
  have hread : ∀ n, n = c.toNat → Char.ofNat n = c := by
    rintro n rfl
    exact Char.ofNat_toNat c
  unfold String.utf8EncodeChar
  simp only [Char.toNat_val]
  generalize c.toNat = n at hvalid hread
  split
  case isTrue hone =>
    have hlt : n < 2 ^ 8 := by omega
    have hbyte : (UInt8.ofNat n).toNat = n := UInt8.toNat_ofNat_of_lt' hlt
    have hlead : leadOf (UInt8.ofNat n) = .complete c := by
      rw [leadOf, hbyte, if_pos (by omega), hread n rfl]
    rw [List.singleton_append, repairFrom, hlead]
  split
  case isTrue hone htwo =>
    simp only [List.cons_append, List.nil_append]
    rw [repairFrom_begins (leadOf_two _ (by omega) (by omega)),
      repairFrom_last (by omega) (by omega) (by omega), hread _ (by omega)]
  split
  case isTrue hone htwo hthree =>
    simp only [List.cons_append, List.nil_append]
    rw [repairFrom_begins (leadOf_three _ (by omega)),
      repairFrom_more (by omega) (by split <;> omega) (by split <;> omega),
      repairFrom_last (by omega) (by omega) (by omega), hread _ (by omega)]
  case isFalse hone htwo hthree =>
    simp only [List.cons_append, List.nil_append]
    rw [repairFrom_begins (leadOf_four _ (by omega)),
      repairFrom_more (by omega) (by split <;> omega) (by split <;> omega),
      repairFrom_more (by omega) (by omega) (by omega),
      repairFrom_last (by omega) (by omega) (by omega), hread _ (by omega)]

/-- The bytes of a text are read as that text. -/
theorem repair_bytes (s : String) : repair (bytes s) = s := by
  have hchars : ∀ cs : List Char, repairFrom none (cs.flatMap String.utf8EncodeChar) = cs := by
    intro cs
    induction cs with
    | nil => rfl
    | cons c cs ih => rw [List.flatMap_cons, repairFrom_char, ih]
  rw [repair, bytes_eq, hchars, String.ofList_toList]

end Fleet.Text
