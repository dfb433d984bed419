/-!
# Bytes as text

A program's output is bytes, and its text is what UTF-8 makes of them. Bytes that are no UTF-8 are
repaired: every longest piece that begins a character without ending one, and every byte that begins
none, becomes one replacement character.

`takeBytes` cuts a text to a number of bytes without splitting a character: it goes back from the
limit to a place between two characters, and there always is one (`isSome_clip?`).
-/

namespace Fleet.Text

/-- The character that stands for bytes which are no text. -/
def replacement : Char := '\uFFFD'

/-- A character of which some bytes have been read. -/
structure Unfinished where
  /-- The value of the bits read so far. -/
  bits : Nat
  /-- How many bytes are missing. -/
  missing : Nat
  /-- The least byte that may come next. -/
  low : Nat
  /-- The greatest byte that may come next. -/
  high : Nat

/-- What one byte does where a character may begin. -/
inductive Lead
  | complete (c : Char)
  | begins (u : Unfinished)
  | stray

/-- What a byte does where a character may begin. -/
def leadOf (byte : UInt8) : Lead :=
  let b := byte.toNat
  if b < 0x80 then .complete (Char.ofNat b)
  else if 0xC2 ≤ b && b ≤ 0xDF then .begins ⟨b - 0xC0, 1, 0x80, 0xBF⟩
  else if b == 0xE0 then .begins ⟨0, 2, 0xA0, 0xBF⟩
  else if b == 0xED then .begins ⟨0xD, 2, 0x80, 0x9F⟩
  else if 0xE1 ≤ b && b ≤ 0xEF then .begins ⟨b - 0xE0, 2, 0x80, 0xBF⟩
  else if b == 0xF0 then .begins ⟨0, 3, 0x90, 0xBF⟩
  else if b == 0xF4 then .begins ⟨4, 3, 0x80, 0x8F⟩
  else if 0xF1 ≤ b && b ≤ 0xF3 then .begins ⟨b - 0xF0, 3, 0x80, 0xBF⟩
  else .stray

/-- Reads bytes; `pending` is a character of which some bytes have been read. -/
def repairFrom : Option Unfinished → List UInt8 → List Char
  | none, [] => []
  | some _, [] => [replacement]
  | none, byte :: rest =>
    match leadOf byte with
    | .complete c => c :: repairFrom none rest
    | .begins u => repairFrom (some u) rest
    | .stray => replacement :: repairFrom none rest
  | some u, byte :: rest =>
    if u.low ≤ byte.toNat && byte.toNat ≤ u.high then
      let bits := u.bits * 64 + (byte.toNat - 0x80)
      if u.missing ≤ 1 then Char.ofNat bits :: repairFrom none rest
      else repairFrom (some ⟨bits, u.missing - 1, 0x80, 0xBF⟩) rest
    else
      replacement ::
        match leadOf byte with
        | .complete c => c :: repairFrom none rest
        | .begins v => repairFrom (some v) rest
        | .stray => replacement :: repairFrom none rest

/-- The text of bytes, repaired where they are no UTF-8. -/
def repair (bytes : List UInt8) : String := String.ofList (repairFrom none bytes)

/-! ## Cuts -/

/-- Whether no character is split at a place among the bytes of a text. -/
def isBoundary (s : String) (place : Nat) : Bool := String.Pos.Raw.isValid s ⟨place⟩

/-- Goes back from a place, byte by byte, to one where no character is split. There is no answer if
it comes to the first byte and would have to go further back. -/
def boundary? (s : String) : Nat → Option Nat
  | 0 => if isBoundary s 0 then some 0 else none
  | place + 1 => if isBoundary s (place + 1) then some (place + 1) else boundary? s place

/-- The text before a place; a text that does not reach that far is kept. There is no answer if a
character is split at the place. -/
def truncate? (s : String) (place : Nat) : Option String :=
  if s.utf8ByteSize < place then some s
  else if h : isBoundary s place then
    some (.ofByteArray (s.toByteArray.extract 0 place)
      (String.Pos.Raw.isValid_eq_true_iff.1 h).isValidUTF8_extract_zero)
  else none

/-- Cuts a text that takes up more than `limit` bytes, at the first place before the limit where it
can be cut. -/
def clip? (limit : Nat) (s : String) : Option String :=
  if limit < s.utf8ByteSize then (boundary? s limit).bind (truncate? s) else some s

theorem isBoundary_zero (s : String) : isBoundary s 0 = true :=
  String.Pos.Raw.isValid_eq_true_iff.2 String.Pos.Raw.isValid_zero

/-- At the latest, the way back ends before the first byte. -/
theorem exists_boundary? (s : String) :
    ∀ place, ∃ found, boundary? s place = some found ∧ isBoundary s found = true
  | 0 => ⟨0, if_pos (isBoundary_zero s), isBoundary_zero s⟩
  | place + 1 => by
    unfold boundary?
    split
    · next h => exact ⟨place + 1, rfl, h⟩
    · exact exists_boundary? s place

theorem isSome_truncate? {s : String} {place : Nat} (h : isBoundary s place = true) :
    (truncate? s place).isSome := by
  rw [truncate?, dif_pos h]
  split <;> rfl

/-- Every text can be cut. -/
theorem isSome_clip? (limit : Nat) (s : String) : (clip? limit s).isSome := by
  unfold clip?
  split
  · obtain ⟨found, hfound, hboundary⟩ := exists_boundary? s limit
    rw [hfound]
    exact isSome_truncate? hboundary
  · rfl

/-- The longest beginning of a text that takes up at most `limit` bytes of UTF-8. -/
def takeBytes (limit : Nat) (s : String) : String := (clip? limit s).get (isSome_clip? limit s)

/-- The bytes of a text. -/
def bytes (s : String) : List UInt8 := s.toUTF8.toList

end Fleet.Text
