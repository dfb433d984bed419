import Fleet.Proofs.Ports.Taking
import Mathlib.Data.List.Sort

/-!
# Which ports are drawn

An allocator looks at each port of its range once, in ascending order. What is `left` to it are the
ports from its next one on that are not taken; a draw picks the first of them (`allocate_draws`),
and fails exactly when there is none (`allocate_error`). `Draws ports a b` says that `b` is what has
become of `a` when the first ports that were left have been drawn.

A free port is never lost behind the next one. In every state that calls can bring about, the ports
of the range before the next one are taken (`Reachable.swept`), so what is left is what is `free`
(`Swept.left_eq`): a draw picks the least free port of the range.
-/

namespace Fleet

/-- The ports from `first` up to, not including, `stop`, in ascending order. -/
def Port.span (first stop : Port) : List Port :=
  (List.range' first.toNat (stop.toNat - first.toNat)).map UInt16.ofNat

namespace Port

variable {first stop p : Port}

theorem toNat_ofNat_of_mem {n : Nat}
    (h : n ∈ List.range' first.toNat (stop.toNat - first.toNat)) :
    (UInt16.ofNat n).toNat = n := by
  have hstop : stop.toNat < UInt16.size := stop.toNat_lt
  rw [List.mem_range'_1] at h
  exact UInt16.toNat_ofNat_of_lt (by omega)

theorem mem_span : p ∈ span first stop ↔ first ≤ p ∧ p < stop := by
  rw [UInt16.le_iff_toNat_le, UInt16.lt_iff_toNat_lt, span, List.mem_map]
  constructor
  · rintro ⟨n, hn, rfl⟩
    rw [toNat_ofNat_of_mem hn]
    rw [List.mem_range'_1] at hn
    omega
  · intro h
    exact ⟨p.toNat, List.mem_range'_1.2 (by omega), UInt16.ofNat_toNat⟩

theorem pairwise_span : (span first stop).Pairwise (· < ·) := by
  rw [span, List.pairwise_map]
  refine List.Pairwise.imp_of_mem (fun {m n} hm hn hlt => ?_) List.pairwise_lt_range'
  rw [UInt16.lt_iff_toNat_lt, toNat_ofNat_of_mem hm, toNat_ofNat_of_mem hn]
  exact hlt

end Port

namespace PortAllocator

/-! ## What is free, and what is left -/

/-- The ports of the range that are not taken, in ascending order. -/
def free (a : PortAllocator) : List Port := (Port.span a.first a.stop).filter fun p => !a.isTaken p

/-- The ports that the allocator has still to look at and that are not taken, in ascending order. -/
def left (a : PortAllocator) : List Port := (Port.span a.next a.stop).filter fun p => !a.isTaken p

/-- Every port of the range before the next one is taken. -/
structure Swept (a : PortAllocator) : Prop where
  first_le : a.first ≤ a.next
  behind : ∀ p, a.first ≤ p → p < a.next → p ∈ a.taken

variable {a b c : PortAllocator} {p : Port}

theorem isTaken_eq_false_iff : (!a.isTaken p) = true ↔ p ∉ a.taken := by
  rw [Bool.not_eq_true', ← Bool.not_eq_true, isTaken, PortSet.contains_iff]

theorem mem_free : p ∈ a.free ↔ (a.first ≤ p ∧ p < a.stop) ∧ p ∉ a.taken := by
  rw [free, List.mem_filter, Port.mem_span, isTaken_eq_false_iff]

theorem mem_left : p ∈ a.left ↔ (a.next ≤ p ∧ p < a.stop) ∧ p ∉ a.taken := by
  rw [left, List.mem_filter, Port.mem_span, isTaken_eq_false_iff]

theorem pairwise_free (a : PortAllocator) : a.free.Pairwise (· < ·) := Port.pairwise_span.filter _

theorem pairwise_left (a : PortAllocator) : a.left.Pairwise (· < ·) := Port.pairwise_span.filter _

/-- Nothing free has been passed over. -/
theorem Swept.left_eq (h : a.Swept) : a.left = a.free := by
  refine (pairwise_left a).eq_of_mem_iff (pairwise_free a) fun p => ?_
  rw [mem_left, mem_free]
  constructor
  · rintro ⟨⟨hnext, hstop⟩, hfree⟩
    exact ⟨⟨UInt16.le_trans h.first_le hnext, hstop⟩, hfree⟩
  · rintro ⟨⟨hfirst, hstop⟩, hfree⟩
    refine ⟨⟨?_, hstop⟩, hfree⟩
    by_contra hbehind
    exact hfree (h.behind p hfirst (UInt16.not_le.1 hbehind))

/-! ## Draws -/

/-- The taken ports are drawn: they are the first of those that were left. -/
structure Draws (ports : List Port) (a b : PortAllocator) : Prop extends Takes ports a b where
  left : a.left = ports ++ b.left

namespace Draws

variable {ports more : List Port}

theorem nil (a : PortAllocator) : Draws [] a a where
  toTakes := .nil a
  left := rfl

theorem append (hab : Draws ports a b) (hbc : Draws more b c) : Draws (ports ++ more) a c where
  toTakes := hab.toTakes.append hbc.toTakes
  left := by rw [hab.left, hbc.left, List.append_assoc]

theorem ahead (h : Draws ports a b) : ∀ p ∈ ports, a.next ≤ p := fun _ hp =>
  (mem_left.1 (h.left ▸ List.mem_append_left _ hp)).1.1

theorem inRange (h : Draws ports a b) : ∀ p ∈ ports, p < a.stop := fun _ hp =>
  (mem_left.1 (h.left ▸ List.mem_append_left _ hp)).1.2

end Draws

/-- A draw picks the first port that is left. -/
theorem allocate_draws (h : a.allocate = (.ok p, b)) : Draws [p] a b := by
  have htakes := allocate_takes h
  refine ⟨htakes, ?_⟩
  rcases allocate_cases a with ⟨q, hq, hnew, hle, hstop, hbelow⟩ | ⟨next, hnext, _⟩
  · obtain ⟨rfl, rfl⟩ : q = p ∧ _ = b := by simpa [hq] using h
    refine (pairwise_left a).eq_of_mem_iff ?_ fun x => ?_
    · refine List.pairwise_cons.2 ⟨fun x hx => ?_, pairwise_left _⟩
      obtain ⟨⟨hx, _⟩, _⟩ := mem_left.1 hx
      grind
    · rw [List.singleton_append, List.mem_cons, mem_left, mem_left, htakes.mem_taken,
        List.mem_singleton]
      show _ ↔ x = q ∨ (q + 1 ≤ x ∧ x < a.stop) ∧ ¬(x = q ∨ x ∈ a.taken)
      constructor
      · rintro ⟨⟨hx, hstop'⟩, hfree⟩
        -- a port before the drawn one was passed over, so it is taken
        have hge : q ≤ x := UInt16.not_lt.1 fun hlt => hfree (hbelow x hx hlt)
        grind
      · rintro (rfl | ⟨⟨hx, hstop'⟩, hfree⟩)
        · exact ⟨⟨hle, hstop⟩, hnew⟩
        · exact ⟨⟨by grind, hstop'⟩, fun hx' => hfree (.inr hx')⟩
  · rw [hnext] at h
    cases h

/-- A draw fails only when no port is left, and the failure names the range. -/
theorem allocate_error {e : Failure} (h : a.allocate = (.error e, b)) :
    a.left = [] ∧ e = .portsExhausted b.first b.stop ∧ b.left = [] := by
  rcases allocate_cases a with ⟨q, hq, _⟩ | ⟨next, hnext, _, hstop, hbelow⟩
  · rw [hq] at h
    cases h
  · rw [hnext] at h
    cases h
    refine ⟨?_, rfl, ?_⟩
    · refine List.eq_nil_iff_forall_not_mem.2 fun p hp => ?_
      obtain ⟨⟨hle, hlt⟩, hfree⟩ := mem_left.1 hp
      exact hfree (hbelow p hle (UInt16.lt_of_lt_of_le hlt hstop))
    · refine List.eq_nil_iff_forall_not_mem.2 fun p hp => ?_
      obtain ⟨⟨hle, hlt⟩, _⟩ := mem_left.1 hp
      exact UInt16.not_lt.2 (UInt16.le_trans hstop hle) hlt

/-! ## Allocators that can come about -/

/-- What calls make of an allocator that has handed out nothing. -/
inductive Reachable : PortAllocator → Prop
  | between (first stop : Port) : Reachable (between first stop)
  | allocate {a : PortAllocator} (h : Reachable a) : Reachable a.allocate.2
  | reserve {a : PortAllocator} (h : Reachable a) (p : Port) : Reachable (a.reserve p).2

theorem swept_between (first stop : Port) : (between first stop).Swept where
  first_le := UInt16.le_refl first
  behind _ hle hlt := absurd hlt (UInt16.not_lt.2 hle)

theorem Swept.allocate (h : a.Swept) : a.allocate.2.Swept := by
  have hold : ∀ p, a.first ≤ p → ¬ a.next ≤ p → p ∈ a.taken := fun p hfirst hnext =>
    h.behind p hfirst (UInt16.not_le.1 hnext)
  rcases allocate_cases a with ⟨q, hq, _, hle, _, hbelow⟩ | ⟨next, hnext, hle, _, hbelow⟩
  · rw [hq]
    refine ⟨UInt16.le_trans h.first_le (by grind), fun p hfirst hlt => PortSet.mem_add.2 ?_⟩
    replace hlt : p < q + 1 := hlt
    by_cases hp : p = q
    · exact .inl hp
    · refine .inr ?_
      by_cases hahead : a.next ≤ p
      · exact hbelow p hahead (by grind)
      · exact hold p hfirst hahead
  · rw [hnext]
    refine ⟨UInt16.le_trans h.first_le hle, fun p hfirst hlt => ?_⟩
    by_cases hahead : a.next ≤ p
    · exact hbelow p hahead hlt
    · exact hold p hfirst hahead

theorem Swept.reserve (h : a.Swept) (p : Port) : (a.reserve p).2.Swept := by
  rcases reserve_cases a p with ⟨_, hp⟩ | ⟨_, hp⟩
  · rw [hp]
    exact ⟨h.first_le, fun q hfirst hlt => PortSet.mem_add.2 (.inr (h.behind q hfirst hlt))⟩
  · rw [hp]
    exact h

theorem Reachable.swept (h : a.Reachable) : a.Swept := by
  induction h with
  | between first stop => exact swept_between first stop
  | allocate _ ih => exact ih.allocate
  | reserve _ p ih => exact ih.reserve p

/-- Where no port is left, every port of the range is taken. -/
theorem Swept.mem_taken (h : a.Swept) (hleft : a.left = []) (hfirst : a.first ≤ p)
    (hstop : p < a.stop) : p ∈ a.taken := by
  by_contra hfree
  have hmem : p ∈ a.left := h.left_eq ▸ mem_free.2 ⟨⟨hfirst, hstop⟩, hfree⟩
  exact List.not_mem_nil (hleft ▸ hmem)

/-! ## What is free besides certain ports -/

/-- The ports of the range that are neither taken nor among the given ones, in ascending order. -/
def freeBut (a : PortAllocator) (ports : List Port) : List Port :=
  a.free.filter fun p => !ports.contains p

/-- When ports have been taken, the others are as free as they were. -/
theorem Takes.free_eq {ports : List Port} (h : Takes ports a b) : b.free = a.freeBut ports := by
  refine (pairwise_free b).eq_of_mem_iff ((pairwise_free a).filter _) fun p => ?_
  rw [freeBut, List.mem_filter, mem_free, mem_free, h.mem_taken, h.first, h.stop]
  simp only [List.contains_eq_mem, Bool.not_eq_true', decide_eq_false_iff_not, not_or]
  exact ⟨fun ⟨hrange, hports, hfree⟩ => ⟨⟨hrange, hfree⟩, hports⟩,
    fun ⟨⟨hrange, hfree⟩, hports⟩ => ⟨hrange, hports, hfree⟩⟩

end PortAllocator

end Fleet
