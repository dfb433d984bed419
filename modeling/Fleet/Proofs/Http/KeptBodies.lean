import Fleet.Http.Client
import Mathlib.Order.Bounds.Basic

/-!
# What is kept of a refused reply's body

A failure keeps the beginning of a body only, cut between two characters. The places between
characters are those where beginnings of the text end (`isBoundary_iff`), so the way back from the
limit ends where the longest beginning does that fits (`takeBytes_longest`). The next character does
not fit, and takes up four bytes at most: no more than three bytes of the limit are left unused.

`success_keeps` says this of the replies that a client refuses.
-/

namespace Fleet.Text

/-- Of the texts that `s` begins with and that take up at most `limit` bytes, `t` is the longest. -/
structure LongestWithin (limit : Nat) (s t : String) : Prop where
  begins : ∃ rest, s = t ++ rest
  fits : t.utf8ByteSize ≤ limit
  longest : ∀ u rest, s = u ++ rest → u.utf8ByteSize ≤ limit → u.utf8ByteSize ≤ t.utf8ByteSize

variable {limit place found : Nat} {s t : String}

/-! ## Places between characters -/

/-- No character is split where a beginning of the text ends, and nowhere else. -/
theorem isBoundary_iff :
    isBoundary s place = true ↔ ∃ t rest, s = t ++ rest ∧ place = t.utf8ByteSize := by
  rw [isBoundary, String.Pos.Raw.isValid_eq_true_iff, String.Pos.Raw.isValid_iff_exists_append]
  simp only [String.Pos.Raw.ext_iff, String.byteIdx_rawEndPos]

/-- The way back ends at the greatest place where it may. -/
theorem boundary?_greatest (h : boundary? s place = some found) :
    IsGreatest {p | p ≤ place ∧ isBoundary s p = true} found := by
  induction place with
  | zero =>
    obtain ⟨hboundary, rfl⟩ : isBoundary s 0 = true ∧ 0 = found := by
      simpa [boundary?] using h
    exact ⟨⟨Nat.le_refl 0, hboundary⟩, fun p hp => hp.1⟩
  | succ place ih =>
    unfold boundary? at h
    split at h
    · next hboundary =>
      cases h
      exact ⟨⟨Nat.le_refl _, hboundary⟩, fun p hp => hp.1⟩
    · next hsplit =>
      obtain ⟨⟨hle, hboundary⟩, hgreatest⟩ := ih h
      refine ⟨⟨Nat.le_succ_of_le hle, hboundary⟩, fun p hp => hgreatest ⟨?_, hp.2⟩⟩
      have hne : p ≠ place + 1 := fun heq => hsplit (heq ▸ hp.2)
      exact Nat.le_of_lt_succ (Nat.lt_of_le_of_ne hp.1 hne)

/-- A text is cut behind a beginning of it. -/
theorem truncate?_append (t rest : String) : truncate? (t ++ rest) t.utf8ByteSize = some t := by
  have hboundary : isBoundary (t ++ rest) t.utf8ByteSize = true :=
    isBoundary_iff.2 ⟨t, rest, rfl, rfl⟩
  have hreaches : ¬ (t ++ rest).utf8ByteSize < t.utf8ByteSize := by
    rw [String.utf8ByteSize_append]
    omega
  have hbytes : (t ++ rest).toByteArray.extract 0 t.utf8ByteSize = t.toByteArray := by
    rw [String.toByteArray_append]
    exact ByteArray.extract_append_eq_left rfl
  rw [truncate?, if_neg hreaches, dif_pos hboundary, Option.some_inj, ← String.toByteArray_inj]
  exact hbytes

/-! ## The longest beginning -/

/-- The places between characters up to the limit are those where the beginnings that fit end, so
the greatest place is that of the longest beginning. -/
theorem exists_longest_of_boundary? (h : boundary? s limit = some place) :
    ∃ t, truncate? s place = some t ∧ LongestWithin limit s t := by
  obtain ⟨⟨hle, hboundary⟩, hgreatest⟩ := boundary?_greatest h
  obtain ⟨t, rest, rfl, rfl⟩ := isBoundary_iff.1 hboundary
  refine ⟨t, truncate?_append t rest, ⟨rest, rfl⟩, hle, fun u rest' hu hfits => ?_⟩
  exact hgreatest ⟨hfits, isBoundary_iff.2 ⟨u, rest', hu, rfl⟩⟩

/-- A text that takes up more than the limit is cut where the way back ends. -/
theorem clip?_of_lt (h : limit < s.utf8ByteSize) :
    ∃ place, boundary? s limit = some place ∧ truncate? s place = some (takeBytes limit s) := by
  obtain ⟨place, hplace, hboundary⟩ := exists_boundary? s limit
  have hclip : clip? limit s = truncate? s place := by
    rw [clip?, if_pos h, hplace]
    rfl
  exact ⟨place, hplace, hclip ▸ (Option.some_get _).symm⟩

theorem takeBytes_of_le (h : s.utf8ByteSize ≤ limit) : takeBytes limit s = s := by
  have hclip : clip? limit s = some s := if_neg (Nat.not_lt.2 h)
  simp only [takeBytes, hclip, Option.get_some]

/-- Cutting leaves the longest beginning that fits. -/
theorem takeBytes_longest (limit : Nat) (s : String) :
    LongestWithin limit s (takeBytes limit s) := by
  by_cases hlong : limit < s.utf8ByteSize
  · obtain ⟨place, hplace, hcut⟩ := clip?_of_lt hlong
    obtain ⟨t, ht, hlongest⟩ := exists_longest_of_boundary? hplace
    obtain rfl : t = takeBytes limit s := Option.some.inj (ht.symm.trans hcut)
    exact hlongest
  · have hfits := Nat.not_lt.1 hlong
    rw [takeBytes_of_le hfits]
    refine ⟨⟨"", String.append_empty.symm⟩, hfits, fun u rest hu _ => ?_⟩
    rw [hu, String.utf8ByteSize_append]
    exact Nat.le_add_right _ _

/-- The character behind the longest beginning does not fit, and it takes up four bytes at most. -/
theorem LongestWithin.limit_le (h : LongestWithin limit s t) (hlong : limit < s.utf8ByteSize) :
    limit ≤ t.utf8ByteSize + 3 := by
  obtain ⟨rest, hrest⟩ := h.begins
  cases hchars : rest.toList with
  | nil =>
    have hall : s = t := by rw [hrest, String.toList_eq_nil_iff.1 hchars, String.append_empty]
    exact absurd h.fits (Nat.not_le.2 (hall ▸ hlong))
  | cons c cs =>
    have hnext : s = t.push c ++ .ofList cs := by
      rw [hrest, ← String.toList_inj]
      simp [hchars]
    have hsize : (t.push c).utf8ByteSize = t.utf8ByteSize + c.utf8Size := String.utf8ByteSize_push
    have hlonger := h.longest (t.push c) (.ofList cs) hnext
    have hpos : 0 < c.utf8Size := c.utf8Size_pos
    have hfour : c.utf8Size ≤ 4 := c.utf8Size_le_four
    omega

end Fleet.Text

namespace Fleet.Http

/-- What a failure keeps of a body. -/
structure KeptOf (body kept : String) : Prop where
  /-- The longest beginning that takes up at most 512 bytes. -/
  longest : Text.LongestWithin 512 body kept
  /-- A body that fits is kept whole. -/
  whole : body.utf8ByteSize ≤ 512 → kept = body
  /-- Of a longer body, at least 509 bytes are kept. -/
  filled : 512 < body.utf8ByteSize → 509 ≤ kept.utf8ByteSize
  /-- For a longer body the way back from the limit finds a place, at which the body can be cut. -/
  found : 512 < body.utf8ByteSize →
    ∃ place, Text.boundary? body 512 = some place ∧ Text.truncate? body place = some kept

/-- A reply that reports no success becomes a failure that keeps what fits of its body. -/
theorem Client.success_keeps (service : String) (reply : Reply) :
    ∃ kept, KeptOf reply.body kept ∧
      success service reply =
        if reply.isSuccess then .ok reply else .error (.answered service reply.status kept) := by
  have hlongest := Text.takeBytes_longest 512 reply.body
  refine ⟨Text.takeBytes 512 reply.body, ⟨hlongest, ?whole, fun hlong => ?filled, ?found⟩, rfl⟩
  case whole => exact Text.takeBytes_of_le
  case filled =>
    have hlimit := hlongest.limit_le hlong
    omega
  case found => exact Text.clip?_of_lt

end Fleet.Http
