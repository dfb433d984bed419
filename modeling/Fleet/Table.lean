/-!
# Tables with ascending keys

A `Table κ α` maps keys to values. Its entries are a list whose keys ascend strictly, so a table has
one written form: two tables with the same entries are equal, and every walk over a table meets its
keys in order. Names are compared by code point, ports as numbers.

Main statements: `find?_insert` says what an insertion does to look-ups, and `Table.ext_find?` says
that look-ups decide a table.
-/

namespace Fleet

/-- A list of entries whose keys ascend strictly. -/
def Ascending {κ α : Type} [Ord κ] (entries : List (κ × α)) : Prop :=
  entries.Pairwise fun a b => compare a.1 b.1 = .lt

/-- A finite map, written as its entries in key order. -/
structure Table (κ α : Type) [Ord κ] where
  /-- The entries in key order. -/
  entries : List (κ × α)
  /-- The keys ascend. -/
  ascending : Ascending entries

namespace Table

variable {κ α β : Type} [Ord κ]

instance [DecidableEq κ] [DecidableEq α] : DecidableEq (Table κ α) := fun a b =>
  if h : a.entries = b.entries then
    isTrue (by cases a; cases b; cases h; rfl)
  else
    isFalse fun e => h (e ▸ rfl)

instance [Repr κ] [Repr α] : Repr (Table κ α) where
  reprPrec t p := reprPrec t.entries p

/-- The table without entries. -/
def empty : Table κ α := ⟨[], .nil⟩

instance : Inhabited (Table κ α) := ⟨empty⟩

instance : EmptyCollection (Table κ α) := ⟨empty⟩

/-- Whether the table has no entry. -/
def isEmpty (t : Table κ α) : Bool := t.entries.isEmpty

/-- The number of entries. -/
def size (t : Table κ α) : Nat := t.entries.length

/-- The keys, ascending. -/
def keys (t : Table κ α) : List κ := t.entries.map (·.1)

/-- The values, in key order. -/
def values (t : Table κ α) : List α := t.entries.map (·.2)

/-- The value first listed under a key. -/
def lookup (k : κ) : List (κ × α) → Option α
  | [] => none
  | (k', v) :: rest => if compare k k' = .eq then some v else lookup k rest

/-- The value under a key. -/
def find? (t : Table κ α) (k : κ) : Option α := lookup k t.entries

/-- Whether a key has a value. -/
def contains (t : Table κ α) (k : κ) : Bool := (t.find? k).isSome

/-- Puts a value at the place of its key, in place of the value that was there. -/
def place (k : κ) (v : α) : List (κ × α) → List (κ × α)
  | [] => [(k, v)]
  | (k', v') :: rest =>
    match compare k k' with
    | .lt => (k, v) :: (k', v') :: rest
    | .eq => (k, v) :: rest
    | .gt => (k', v') :: place k v rest

theorem mem_place {k : κ} {v : α} {e : κ × α} :
    ∀ {l : List (κ × α)}, e ∈ place k v l → e = (k, v) ∨ e ∈ l
  | [], h => by simpa [place] using h
  | (k', v') :: rest, h => by
    unfold place at h
    split at h
    · simpa using h
    · rcases List.mem_cons.1 h with h | h
      · exact .inl h
      · exact .inr (List.mem_cons_of_mem _ h)
    · rcases List.mem_cons.1 h with h | h
      · exact .inr (h ▸ List.mem_cons_self)
      · rcases mem_place h with h | h
        · exact .inl h
        · exact .inr (List.mem_cons_of_mem _ h)

theorem ascending_place [Std.TransOrd κ] [Std.LawfulEqOrd κ] {k : κ} {v : α} :
    ∀ {l : List (κ × α)}, Ascending l → Ascending (place k v l)
  | [], _ => by simp [place, Ascending]
  | (k', v') :: rest, h => by
    have hrest : Ascending rest := h.tail
    have hhead : ∀ e ∈ rest, compare k' e.1 = .lt := fun e he => List.rel_of_pairwise_cons h he
    unfold place
    split
    · next hlt =>
      refine List.pairwise_cons.2 ⟨fun e he => ?_, h⟩
      rcases List.mem_cons.1 he with he | he
      · exact he ▸ hlt
      · exact Std.TransCmp.lt_trans hlt (hhead e he)
    · next heq =>
      have : k = k' := Std.LawfulEqCmp.eq_of_compare heq
      exact List.pairwise_cons.2 ⟨fun e he => this ▸ hhead e he, hrest⟩
    · next hgt =>
      refine List.pairwise_cons.2 ⟨fun e he => ?_, ascending_place hrest⟩
      rcases mem_place he with he | he
      · exact he ▸ Std.OrientedCmp.lt_of_gt hgt
      · exact hhead e he

/-- The table with `k` set to `v`. -/
def insert [Std.TransOrd κ] [Std.LawfulEqOrd κ] (t : Table κ α) (k : κ) (v : α) : Table κ α :=
  ⟨place k v t.entries, ascending_place t.ascending⟩

/-- The table of a list of entries; the last entry of a key counts. -/
def ofList [Std.TransOrd κ] [Std.LawfulEqOrd κ] (l : List (κ × α)) : Table κ α :=
  l.foldl (fun t e => t.insert e.1 e.2) empty

/-- The entries of both tables; where both have a key, the later table counts. -/
def overlay [Std.TransOrd κ] [Std.LawfulEqOrd κ] (earlier later : Table κ α) : Table κ α :=
  later.entries.foldl (fun t e => t.insert e.1 e.2) earlier

theorem ascending_filter {l : List (κ × α)} (p : κ × α → Bool) (h : Ascending l) :
    Ascending (l.filter p) :=
  List.Pairwise.sublist List.filter_sublist h

/-- The entries that satisfy `p`. -/
def filter (p : κ → α → Bool) (t : Table κ α) : Table κ α :=
  ⟨t.entries.filter fun e => p e.1 e.2, ascending_filter _ t.ascending⟩

/-- The table without the key `k`. -/
def erase (t : Table κ α) (k : κ) : Table κ α :=
  t.filter fun k' _ => compare k k' != .eq

theorem ascending_mapValues {l : List (κ × α)} (f : κ → α → β) (h : Ascending l) :
    Ascending (l.map fun e => (e.1, f e.1 e.2)) := by
  unfold Ascending
  rw [List.pairwise_map]
  exact h

/-- The table with every value replaced. -/
def mapValues (f : κ → α → β) (t : Table κ α) : Table κ β :=
  ⟨t.entries.map fun e => (e.1, f e.1 e.2), ascending_mapValues f t.ascending⟩

/-! ## Look-ups -/

@[simp]
theorem find?_empty (k : κ) : (empty : Table κ α).find? k = none := rfl

theorem lookup_place [Std.LawfulEqOrd κ] [DecidableEq κ] (k k' : κ) (v : α) (l : List (κ × α)) :
    lookup k' (place k v l) = if k' = k then some v else lookup k' l := by
  induction l with
  | nil => simp [place, lookup]
  | cons e rest ih =>
    obtain ⟨k₁, v₁⟩ := e
    unfold place
    split
    · simp [lookup]
    · next heq =>
      have : k = k₁ := Std.LawfulEqCmp.eq_of_compare heq
      subst this
      by_cases h : k' = k <;> simp [lookup, h]
    · next hgt =>
      by_cases h : k' = k
      · subst h
        simp [lookup, hgt, ih]
      · simp [lookup, h, ih]

/-- An insertion changes the look-up of its own key only. -/
theorem find?_insert [Std.TransOrd κ] [Std.LawfulEqOrd κ] [DecidableEq κ]
    (t : Table κ α) (k k' : κ) (v : α) :
    (t.insert k v).find? k' = if k' = k then some v else t.find? k' :=
  lookup_place k k' v t.entries

theorem lookup_eq_none {k : κ} : ∀ {l : List (κ × α)},
    (∀ e ∈ l, compare k e.1 = .lt) → lookup k l = none
  | [], _ => rfl
  | (k', v) :: rest, h => by
    have hlt : compare k k' = .lt := h (k', v) List.mem_cons_self
    simp [lookup, hlt, lookup_eq_none fun e he => h e (List.mem_cons_of_mem _ he)]

theorem mem_entries_iff_lookup [Std.LawfulEqOrd κ] [DecidableEq κ] {k : κ} {v : α} :
    ∀ {l : List (κ × α)}, Ascending l →
    ((k, v) ∈ l ↔ lookup k l = some v)
  | [], _ => by simp [lookup]
  | (k', v') :: rest, h => by
    have hhead : ∀ e ∈ rest, compare k' e.1 = .lt := fun e he => List.rel_of_pairwise_cons h he
    have ih : (k, v) ∈ rest ↔ lookup k rest = some v :=
      mem_entries_iff_lookup (List.Pairwise.tail h)
    by_cases hk : k = k'
    · subst hk
      have hnot : lookup k rest = none := lookup_eq_none hhead
      simp [lookup, ih, hnot, eq_comm]
    · simp [lookup, hk, ih]

/-- The entries of a table are its look-ups. -/
theorem mem_entries_iff [Std.LawfulEqOrd κ] [DecidableEq κ] {t : Table κ α} {k : κ} {v : α} :
    (k, v) ∈ t.entries ↔ t.find? k = some v :=
  mem_entries_iff_lookup t.ascending

theorem ext_lookup [Std.TransOrd κ] [Std.LawfulEqOrd κ] [DecidableEq κ] :
    ∀ {l m : List (κ × α)}, Ascending l → Ascending m →
    (∀ k, lookup k l = lookup k m) → l = m
  | [], [], _, _, _ => rfl
  | [], (k, v) :: m, _, _, h => by have := h k; simp [lookup] at this
  | (k, v) :: l, [], _, _, h => by have := h k; simp [lookup] at this
  | (k, v) :: l, (k', v') :: m, hl, hm, h => by
    have hheadl : ∀ e ∈ l, compare k e.1 = .lt := fun e he => List.rel_of_pairwise_cons hl he
    have hheadm : ∀ e ∈ m, compare k' e.1 = .lt := fun e he => List.rel_of_pairwise_cons hm he
    have htaill : Ascending l := List.Pairwise.tail hl
    have htailm : Ascending m := List.Pairwise.tail hm
    have hk : k = k' := by
      by_cases hne : k = k'
      · exact hne
      have hne' : ¬ k' = k := fun e => hne e.symm
      have h1 : some v = lookup k m := by simpa [lookup, hne] using h k
      have h2 : lookup k' l = some v' := by simpa [lookup, hne'] using h k'
      have c1 := hheadm _ ((mem_entries_iff_lookup htailm).2 h1.symm)
      have c2 := hheadl _ ((mem_entries_iff_lookup htaill).2 h2)
      have c3 : compare k k = .lt := Std.TransCmp.lt_trans c2 c1
      simp at c3
    subst hk
    have hv : v = v' := by simpa [lookup] using h k
    subst hv
    have hrest : l = m := by
      refine ext_lookup htaill htailm fun x => ?_
      by_cases hx : x = k
      · subst hx
        rw [lookup_eq_none hheadl, lookup_eq_none hheadm]
      · simpa [lookup, hx] using h x
    rw [hrest]

/-- Two tables with the same look-ups are equal. -/
theorem ext_find? [Std.TransOrd κ] [Std.LawfulEqOrd κ] [DecidableEq κ]
    {t u : Table κ α} (h : ∀ k, t.find? k = u.find? k) : t = u := by
  have := ext_lookup t.ascending u.ascending h
  cases t; cases u; cases this; rfl

end Table

end Fleet
