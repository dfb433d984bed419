import Fleet.Failure

/-!
# Host ports

Within one run a host port is handed out at most once. A `PortAllocator` draws ports from a
half-open range in ascending order and remembers every port that was issued or reserved; ports
reserved by configuration are skipped, inside the range and outside it.

A failed draw or reservation leaves the taken ports as they were. Main statements: `mem_add` says
what a set of ports holds, `reserve_ok_iff` when a reservation succeeds.
-/

namespace Fleet

/-- A set of ports, greatest first. -/
structure PortSet where
  /-- The ports in descending order. -/
  ports : List Port
  /-- The order is strict. -/
  descending : ports.Pairwise (· > ·)

namespace PortSet

/-- No port. -/
def empty : PortSet := ⟨[], .nil⟩

instance : Inhabited PortSet := ⟨empty⟩

instance : Membership Port PortSet := ⟨fun s p => p ∈ s.ports⟩

/-- Puts a port at its place in a descending list. -/
def place (p : Port) : List Port → List Port
  | [] => [p]
  | q :: rest => if p > q then p :: q :: rest else if p = q then q :: rest else q :: place p rest

theorem mem_place {p x : Port} : ∀ {l : List Port}, x ∈ place p l ↔ x = p ∨ x ∈ l
  | [] => by simp [place]
  | q :: rest => by
    unfold place
    split
    · simp
    · split
      · next h => subst h; simp
      · simp only [List.mem_cons, mem_place]; grind

theorem descending_place {p : Port} : ∀ {l : List Port}, l.Pairwise (· > ·) →
    (place p l).Pairwise (· > ·)
  | [], _ => by simp [place]
  | q :: rest, h => by
    have hhead := (List.pairwise_cons.1 h).1
    unfold place
    split
    · next hgt =>
      refine List.pairwise_cons.2 ⟨fun x hx => ?_, h⟩
      rcases List.mem_cons.1 hx with hx | hx
      · exact hx ▸ hgt
      · exact UInt16.lt_trans (hhead x hx) hgt
    · split
      · exact h
      · next hle hne =>
        refine List.pairwise_cons.2 ⟨fun x hx => ?_, descending_place (List.pairwise_cons.1 h).2⟩
        rcases mem_place.1 hx with hx | hx
        · subst hx
          exact UInt16.lt_of_le_of_ne (UInt16.not_lt.1 hle) hne
        · exact hhead x hx

/-- The set with one more port. -/
def add (s : PortSet) (p : Port) : PortSet := ⟨place p s.ports, descending_place s.descending⟩

/-- Whether a port is in the set; the search ends at the first smaller port. -/
def holds (p : Port) : List Port → Bool
  | [] => false
  | q :: rest => if p > q then false else p == q || holds p rest

/-- Whether a port is in the set. -/
def contains (s : PortSet) (p : Port) : Bool := holds p s.ports

/-- The ports, ascending. -/
def toList (s : PortSet) : List Port := s.ports.reverse

@[simp]
theorem mem_add {s : PortSet} {p x : Port} : x ∈ s.add p ↔ x = p ∨ x ∈ s := mem_place

theorem holds_iff {p : Port} : ∀ {l : List Port}, l.Pairwise (· > ·) → (holds p l = true ↔ p ∈ l)
  | [], _ => by simp [holds]
  | q :: rest, h => by
    have hhead := (List.pairwise_cons.1 h).1
    have ih := holds_iff (p := p) (List.pairwise_cons.1 h).2
    unfold holds
    split
    · next hgt =>
      refine ⟨fun h => by simp at h, fun hm => ?_⟩
      rcases List.mem_cons.1 hm with hm | hm
      · exact absurd hgt (hm ▸ UInt16.lt_irrefl _)
      · exact absurd hgt (UInt16.not_lt.2 (UInt16.le_of_lt (hhead p hm)))
    · simp [ih]

/-- The check decides membership. -/
@[simp]
theorem contains_iff {s : PortSet} {p : Port} : s.contains p = true ↔ p ∈ s :=
  holds_iff s.descending

instance (p : Port) (s : PortSet) : Decidable (p ∈ s) := decidable_of_iff _ contains_iff

end PortSet

/-- Hands out the ports from `first` up to, not including, `stop`. -/
structure PortAllocator where
  first : Port
  stop : Port
  /-- The next port to look at. -/
  next : Port
  /-- Every port issued or reserved. -/
  taken : PortSet

namespace PortAllocator

/-- An allocator that has handed out nothing. -/
def between (first stop : Port) : PortAllocator := ⟨first, stop, first, .empty⟩

/-- The range that is used when none is configured. -/
def standard : PortAllocator := between 30000 31000

/-- Whether a port is issued or reserved. -/
def isTaken (a : PortAllocator) (p : Port) : Bool := a.taken.contains p

/-- Every port issued or reserved, ascending. -/
def issued (a : PortAllocator) : List Port := a.taken.toList

/-- Draws the next port that is not taken. -/
def allocate (a : PortAllocator) : Outcome Port × PortAllocator :=
  if a.next < a.stop then
    if a.taken.contains a.next then allocate { a with next := a.next + 1 }
    else (.ok a.next, { a with next := a.next + 1, taken := a.taken.add a.next })
  else (.error (.portsExhausted a.first a.stop), a)
termination_by a.stop.toNat - a.next.toNat
decreasing_by
  next h _ =>
    have h₁ : a.next.toNat < a.stop.toNat := UInt16.lt_iff_toNat_lt.1 h
    have h₂ : a.stop.toNat < 2 ^ 16 := a.stop.toNat_lt
    have h₃ : (a.next + 1).toNat = a.next.toNat + 1 := by
      rw [UInt16.toNat_add]
      exact Nat.mod_eq_of_lt (by simp; omega)
    simp only [h₃]
    omega

/-- Marks a port as taken, if it is not. -/
def reserve (a : PortAllocator) (p : Port) : Outcome Unit × PortAllocator :=
  if a.taken.contains p then (.error (.portTaken p), a)
  else (.ok (), { a with taken := a.taken.add p })

/-- A port can be reserved exactly when it is not taken. -/
theorem reserve_ok_iff {a : PortAllocator} {p : Port} :
    (a.reserve p).1 = .ok () ↔ p ∉ a.taken := by
  unfold reserve
  split
  · next h => simp [PortSet.contains_iff.1 h]
  · next h => simpa using h

/-- Reserves ports one after another, up to the first that is taken. -/
def reserveAll : List Port → PortAllocator → Outcome Unit × PortAllocator
  | [], a => (.ok (), a)
  | p :: rest, a =>
    match a.reserve p with
    | (.ok (), a) => reserveAll rest a
    | (.error e, a) => (.error e, a)

end PortAllocator

end Fleet
