import Fleet.Ports
import Mathlib.Data.List.Nodup

/-!
# What an allocator takes

Whatever is asked of an allocator, it gives nothing back: `Grows a b` says that `b` holds what `a`
holds, over the same range, and looks no further back. Where a call succeeds the account is exact:
`Takes ports a b` says that `b` holds the listed ports besides what `a` holds, that none of them was
held before, and that no two of them are equal.

These relations compose, so what a loop of draws and reservations takes is read off its steps. Main
statement: `serve_takes`, by which the ports granted by a run of requests are what the run has
taken. It does not say which ports a draw picks, only that they are new.
-/

namespace Fleet.PortAllocator

/-! ## Single calls -/

/-- A draw yields the next port that is not taken; it fails when every port from the next one to the
end of the range is taken, and then it has looked at all of them. -/
theorem allocate_cases (a : PortAllocator) :
    (∃ p, a.allocate = (.ok p, { a with next := p + 1, taken := a.taken.add p }) ∧
      p ∉ a.taken ∧ a.next ≤ p ∧ p < a.stop ∧ ∀ q, a.next ≤ q → q < p → q ∈ a.taken) ∨
    (∃ next, a.allocate = (.error (.portsExhausted a.first a.stop), { a with next }) ∧
      a.next ≤ next ∧ a.stop ≤ next ∧ ∀ q, a.next ≤ q → q < next → q ∈ a.taken) := by
  fun_induction allocate a with
  | case1 a hlt htaken ih =>
    have hmem : a.next ∈ a.taken := PortSet.contains_iff.1 htaken
    have hstep : ∀ q, a.next ≤ q → q ≠ a.next → a.next + 1 ≤ q := by grind
    rcases ih with ⟨p, hp, hnew, hle, hstop, hbelow⟩ | ⟨next, hnext, hle, hstop, hbelow⟩
    · refine .inl ⟨p, hp, hnew, by grind, hstop, fun q hq hqp => ?_⟩
      by_cases h : q = a.next
      · exact h ▸ hmem
      · exact hbelow q (hstep q hq h) hqp
    · refine .inr ⟨next, hnext, by grind, hstop, fun q hq hqn => ?_⟩
      by_cases h : q = a.next
      · exact h ▸ hmem
      · exact hbelow q (hstep q hq h) hqn
  | case2 a hlt hfree =>
    have hnew : a.next ∉ a.taken := fun h => hfree (PortSet.contains_iff.2 h)
    exact .inl ⟨a.next, rfl, hnew, by grind, hlt, by grind⟩
  | case3 a hend => exact .inr ⟨a.next, rfl, by grind, by grind, by grind⟩

/-- A reservation takes its port, or fails and changes nothing. -/
theorem reserve_cases (a : PortAllocator) (p : Port) :
    (p ∉ a.taken ∧ a.reserve p = (.ok (), { a with taken := a.taken.add p })) ∨
    (p ∈ a.taken ∧ a.reserve p = (.error (.portTaken p), a)) := by
  unfold reserve
  split
  · next h => exact .inr ⟨PortSet.contains_iff.1 h, rfl⟩
  · next h => exact .inl ⟨fun hp => h (PortSet.contains_iff.2 hp), rfl⟩

theorem mem_issued {a : PortAllocator} {p : Port} : p ∈ a.issued ↔ p ∈ a.taken :=
  List.mem_reverse

theorem pairwise_issued (a : PortAllocator) : a.issued.Pairwise (· < ·) :=
  List.pairwise_reverse.2 a.taken.descending

/-! ## Nothing is given back -/

/-- `b` is what has become of `a`: it has the same range and holds at least as much. -/
structure Grows (a b : PortAllocator) : Prop where
  first : b.first = a.first
  stop : b.stop = a.stop
  next : a.next ≤ b.next
  taken : ∀ p ∈ a.taken, p ∈ b.taken

theorem Grows.refl (a : PortAllocator) : Grows a a := ⟨rfl, rfl, by grind, fun _ h => h⟩

theorem Grows.trans {a b c : PortAllocator} (hab : Grows a b) (hbc : Grows b c) : Grows a c where
  first := hbc.first.trans hab.first
  stop := hbc.stop.trans hab.stop
  next := UInt16.le_trans hab.next hbc.next
  taken p hp := hbc.taken p (hab.taken p hp)

/-- `b` is what has become of `a` when the listed ports were taken, none of which was taken before.
-/
structure Takes (ports : List Port) (a b : PortAllocator) : Prop where
  first : b.first = a.first
  stop : b.stop = a.stop
  next : a.next ≤ b.next
  nodup : ports.Nodup
  fresh : ∀ p ∈ ports, p ∉ a.taken
  mem_taken : ∀ p, p ∈ b.taken ↔ p ∈ ports ∨ p ∈ a.taken

namespace Takes

variable {ports more : List Port} {a b c : PortAllocator}

theorem nil (a : PortAllocator) : Takes [] a a where
  first := rfl
  stop := rfl
  next := by grind
  nodup := .nil
  fresh _ h := absurd h List.not_mem_nil
  mem_taken p := by simp only [List.not_mem_nil, false_or]

theorem append (hab : Takes ports a b) (hbc : Takes more b c) : Takes (ports ++ more) a c where
  first := hbc.first.trans hab.first
  stop := hbc.stop.trans hab.stop
  next := UInt16.le_trans hab.next hbc.next
  nodup := List.nodup_append.2 ⟨hab.nodup, hbc.nodup, fun p hp q hq heq =>
    hbc.fresh q hq ((hab.mem_taken q).2 (.inl (heq ▸ hp)))⟩
  fresh p hp := by
    rcases List.mem_append.1 hp with h | h
    · exact hab.fresh p h
    · exact fun ha => hbc.fresh p h ((hab.mem_taken p).2 (.inr ha))
  mem_taken p := by
    rw [hbc.mem_taken, hab.mem_taken, List.mem_append]
    exact ⟨fun h => by rcases h with h | h | h <;> simp [h], fun h => by
      rcases h with (h | h) | h <;> simp [h]⟩

theorem perm (h : Takes ports a b) (hperm : ports.Perm more) : Takes more a b where
  first := h.first
  stop := h.stop
  next := h.next
  nodup := hperm.nodup_iff.1 h.nodup
  fresh p hp := h.fresh p (hperm.mem_iff.2 hp)
  mem_taken p := by rw [h.mem_taken, hperm.mem_iff]

theorem grows (h : Takes ports a b) : Grows a b where
  first := h.first
  stop := h.stop
  next := h.next
  taken p hp := (h.mem_taken p).2 (.inr hp)

end Takes

/-- What a successful draw takes is its port. -/
theorem allocate_takes {a b : PortAllocator} {p : Port} (h : a.allocate = (.ok p, b)) :
    Takes [p] a b := by
  rcases allocate_cases a with ⟨q, hq, hnew, hle, hstop, _⟩ | ⟨next, hnext, _⟩
  · obtain ⟨rfl, rfl⟩ : q = p ∧ _ = b := by simpa [hq] using h
    refine ⟨rfl, rfl, ?_, List.nodup_singleton q, fun x hx => ?_, fun x => ?_⟩
    · show a.next ≤ q + 1
      grind
    · exact List.mem_singleton.1 hx ▸ hnew
    · rw [List.mem_singleton]
      exact PortSet.mem_add
  · rw [hnext] at h
    cases h

/-- A draw that fails takes nothing. -/
theorem allocate_takes_nil {a b : PortAllocator} {e : Failure} (h : a.allocate = (.error e, b)) :
    Takes [] a b := by
  rcases allocate_cases a with ⟨p, hp, _⟩ | ⟨next, hnext, hle, _⟩
  · rw [hp] at h
    cases h
  · rw [hnext] at h
    cases h
    exact ⟨rfl, rfl, hle, .nil, fun _ h => absurd h List.not_mem_nil, fun p => by simp⟩

theorem allocate_grows (a : PortAllocator) : Grows a a.allocate.2 := by
  cases h : a.allocate with
  | mk o b =>
    cases o with
    | ok p => exact (allocate_takes h).grows
    | error e => exact (allocate_takes_nil h).grows

theorem reserve_grows (a : PortAllocator) (p : Port) : Grows a (a.reserve p).2 := by
  rcases reserve_cases a p with ⟨_, hp⟩ | ⟨_, hp⟩
  · rw [hp]
    exact ⟨rfl, rfl, by grind, fun q hq => PortSet.mem_add.2 (.inr hq)⟩
  · rw [hp]
    exact .refl a

/-- What a successful reservation takes is its port. -/
theorem reserve_takes {a b : PortAllocator} {p : Port} (h : a.reserve p = (.ok (), b)) :
    Takes [p] a b := by
  rcases reserve_cases a p with ⟨hnew, hp⟩ | ⟨_, hp⟩
  · rw [hp] at h
    cases h
    refine ⟨rfl, rfl, by grind, List.nodup_singleton p, fun x hx => ?_, fun x => ?_⟩
    · exact List.mem_singleton.1 hx ▸ hnew
    · rw [List.mem_singleton]
      exact PortSet.mem_add
  · rw [hp] at h
    cases h

/-! ## Reservations one after another -/

/-- Reservations that all succeed take all their ports. -/
theorem reserveAll_takes {ports : List Port} {a b : PortAllocator}
    (h : reserveAll ports a = (.ok (), b)) : Takes ports a b := by
  induction ports generalizing a with
  | nil =>
    cases h
    exact .nil _
  | cons p rest ih =>
    unfold reserveAll at h
    split at h
    · next a' hp => exact (reserve_takes hp).append (ih h)
    · cases h

/-- Reservations all succeed exactly when their ports are distinct and none is taken. -/
theorem reserveAll_ok_iff {ports : List Port} {a : PortAllocator} :
    (reserveAll ports a).1 = .ok () ↔ ports.Nodup ∧ ∀ p ∈ ports, p ∉ a.taken := by
  induction ports generalizing a with
  | nil => simp [reserveAll]
  | cons p rest ih =>
    rcases reserve_cases a p with ⟨hnew, hp⟩ | ⟨htaken, hp⟩
    · simp only [reserveAll, hp, ih, List.nodup_cons, List.forall_mem_cons, PortSet.mem_add]
      grind
    · simp [reserveAll, hp, htaken]

/-- Reservations end at the first port that is taken, and have taken those before it. -/
theorem reserveAll_error {ports : List Port} {a b : PortAllocator} {e : Failure}
    (h : reserveAll ports a = (.error e, b)) :
    ∃ before p after, ports = before ++ p :: after ∧ e = .portTaken p ∧ Takes before a b ∧
      p ∈ b.taken := by
  induction ports generalizing a with
  | nil => cases h
  | cons p rest ih =>
    rcases reserve_cases a p with ⟨_, hp⟩ | ⟨htaken, hp⟩
    · simp only [reserveAll, hp] at h
      obtain ⟨before, q, after, rfl, he, htakes, hq⟩ := ih h
      exact ⟨p :: before, q, after, rfl, he, (reserve_takes hp).append htakes, hq⟩
    · simp only [reserveAll, hp] at h
      cases h
      exact ⟨[], p, rest, rfl, rfl, .nil _, htaken⟩

/-- What reservations keep one by one they keep together, whether they succeed or fail. -/
theorem reserveAll_keeps {P : PortAllocator → Prop}
    (hreserve : ∀ a p, P a → P (a.reserve p).2) (ports : List Port) {a : PortAllocator} (h : P a) :
    P (reserveAll ports a).2 := by
  induction ports generalizing a with
  | nil => exact h
  | cons p rest ih =>
    have hp := hreserve a p h
    unfold reserveAll
    split
    · next a' heq =>
      rw [heq] at hp
      exact ih hp
    · next e a' heq =>
      rw [heq] at hp
      exact hp

/-! ## Runs of requests -/

/-- What may be asked of an allocator. -/
inductive Request
  /-- Any port that is free. -/
  | any
  /-- A certain port. -/
  | port (p : Port)
  deriving DecidableEq, Repr

/-- Answers a request with the port that it obtains. -/
def answer (a : PortAllocator) : Request → Outcome Port × PortAllocator
  | .any => a.allocate
  | .port p =>
    match a.reserve p with
    | (.ok (), b) => (.ok p, b)
    | (.error e, b) => (.error e, b)

/-- A request for a certain port is answered by its reservation, and granted where this succeeds. -/
theorem answer_port (a : PortAllocator) (p : Port) :
    a.answer (.port p) = ((a.reserve p).1.map fun _ => p, (a.reserve p).2) := by
  rcases reserve_cases a p with ⟨_, hp⟩ | ⟨_, hp⟩
  · rw [answer, hp]
    rfl
  · rw [answer, hp]
    rfl

/-- Answers requests, one after another. -/
def serve : List Request → PortAllocator → List (Outcome Port) × PortAllocator
  | [], a => ([], a)
  | q :: rest, a =>
    let (first, a) := a.answer q
    let (others, a) := serve rest a
    (first :: others, a)

/-- The ports that answers grant. -/
def granted : List (Outcome Port) → List Port
  | [] => []
  | .ok p :: rest => p :: granted rest
  | .error _ :: rest => granted rest

theorem granted_cons (answer : Outcome Port) (answers : List (Outcome Port)) :
    granted (answer :: answers) = granted [answer] ++ granted answers := by
  cases answer <;> rfl

/-- An answer takes what it grants. -/
theorem answer_takes (q : Request) (a : PortAllocator) :
    Takes (granted [(a.answer q).1]) a (a.answer q).2 := by
  cases q with
  | any =>
    show Takes (granted [a.allocate.1]) a a.allocate.2
    cases h : a.allocate with
    | mk o b =>
      cases o with
      | ok p => exact allocate_takes h
      | error e => exact allocate_takes_nil h
  | port p =>
    rcases reserve_cases a p with ⟨_, hp⟩ | ⟨_, hp⟩
    · simp only [answer, hp]
      exact reserve_takes hp
    · simp only [answer, hp]
      exact .nil a

/-- A run of requests has taken the ports that its answers grant, and nothing else. -/
theorem serve_takes (requests : List Request) (a : PortAllocator) :
    Takes (granted (a.serve requests).1) a (a.serve requests).2 := by
  induction requests generalizing a with
  | nil => exact .nil a
  | cons q rest ih =>
    show Takes (granted ((a.answer q).1 :: ((a.answer q).2.serve rest).1)) a
      ((a.answer q).2.serve rest).2
    rw [granted_cons]
    exact (answer_takes q a).append (ih (a.answer q).2)

end Fleet.PortAllocator
