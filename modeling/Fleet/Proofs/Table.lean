import Fleet.Table
import Mathlib.Data.List.Nodup

/-!
# Laws of tables

What later theories use of tables beyond look-ups of inserted keys: the keys of a table are pairwise
distinct, so an entry is decided by its key, and a list whose keys ascend is the list of entries of
the table it makes. Of entries that are inserted one after another the last one of a key counts
(`find?_foldl_insert`), in tables of lists and in overlaid tables alike.
-/

namespace Fleet.Table

variable {κ α : Type} [Ord κ]

theorem eq_empty_iff {t : Table κ α} : t = .empty ↔ ∀ e, e ∉ t.entries := by
  constructor
  · rintro rfl e
    exact List.not_mem_nil
  · intro h
    obtain ⟨entries, ascending⟩ := t
    obtain rfl := List.eq_nil_iff_forall_not_mem.2 h
    rfl

/-- Ascending keys are pairwise distinct. -/
theorem nodup_keys_of_ascending [Std.LawfulEqOrd κ] {l : List (κ × α)} (h : Ascending l) :
    (l.map (·.1)).Nodup := by
  rw [List.Nodup, List.pairwise_map]
  refine h.imp fun {a b} hlt heq => ?_
  have heq' : compare a.1 b.1 = .eq := heq ▸ Std.ReflCmp.compare_self
  rw [heq'] at hlt
  cases hlt

/-- The keys of a table are pairwise distinct. -/
theorem nodup_keys [Std.LawfulEqOrd κ] (t : Table κ α) : t.keys.Nodup :=
  nodup_keys_of_ascending t.ascending

/-- The keys are what has a value. -/
theorem mem_keys_iff [Std.LawfulEqOrd κ] [DecidableEq κ] {t : Table κ α} {k : κ} :
    k ∈ t.keys ↔ (t.find? k).isSome := by
  rw [keys, List.mem_map, Option.isSome_iff_exists]
  constructor
  · rintro ⟨⟨k', v⟩, he, rfl⟩
    exact ⟨v, mem_entries_iff.1 he⟩
  · rintro ⟨v, hv⟩
    exact ⟨(k, v), mem_entries_iff.2 hv, rfl⟩

/-- A key has one entry. -/
theorem eq_of_mem_entries [Std.LawfulEqOrd κ] {t : Table κ α} {k : κ} {v w : α}
    (hv : (k, v) ∈ t.entries) (hw : (k, w) ∈ t.entries) : v = w :=
  congrArg Prod.snd (List.inj_on_of_nodup_map t.nodup_keys hv hw rfl)

/-- Keys ascend, so an entry with a lesser key stands before another one. -/
theorem mem_before_of_lt [Std.OrientedOrd κ] {t : Table κ α} {before after : List (κ × α)}
    {e e' : κ × α} (h : t.entries = before ++ e :: after) (he' : e' ∈ t.entries)
    (hlt : compare e'.1 e.1 = .lt) : e' ∈ before := by
  have hascending := t.ascending
  rw [h] at he' hascending
  refine (List.mem_append.1 he').resolve_right fun hbehind => ?_
  have hle : e' = e ∨ compare e.1 e'.1 = .lt := (List.mem_cons.1 hbehind).imp_right
    (List.rel_of_pairwise_cons (List.pairwise_append.1 hascending).2.1)
  rcases hle with rfl | hgt
  · have hself : compare e'.1 e'.1 = .eq := Std.ReflCmp.compare_self
    rw [hself] at hlt
    cases hlt
  · rw [Std.OrientedCmp.gt_of_lt hgt] at hlt
    cases hlt

/-- An insertion brings in its own entry at most. -/
theorem mem_entries_of_mem_insert [Std.TransOrd κ] [Std.LawfulEqOrd κ] {t : Table κ α} {k : κ}
    {v : α} {e : κ × α} (h : e ∈ (t.insert k v).entries) : e = (k, v) ∨ e ∈ t.entries :=
  mem_place h

theorem place_of_forall_lt [Std.OrientedOrd κ] {k : κ} {v : α} :
    ∀ {l : List (κ × α)}, (∀ e ∈ l, compare e.1 k = .lt) → place k v l = l ++ [(k, v)]
  | [], _ => rfl
  | (k', v') :: rest, h => by
    have hgt : compare k k' = .gt := Std.OrientedCmp.gt_of_lt (h (k', v') List.mem_cons_self)
    have ih := place_of_forall_lt (v := v) fun e he => h e (List.mem_cons_of_mem _ he)
    simp only [place, hgt, ih, List.cons_append]

/-- Entries behind all that a table has are inserted at its end. -/
theorem entries_foldl_insert [Std.TransOrd κ] [Std.LawfulEqOrd κ] :
    ∀ (l : List (κ × α)) (t : Table κ α), Ascending (t.entries ++ l) →
      (l.foldl (fun t e => t.insert e.1 e.2) t).entries = t.entries ++ l
  | [], t, _ => (List.append_nil _).symm
  | (k, v) :: rest, t, h => by
    have hplace : (t.insert k v).entries = t.entries ++ [(k, v)] :=
      place_of_forall_lt fun e he => (List.pairwise_append.1 h).2.2 e he (k, v) List.mem_cons_self
    have hassoc : t.entries ++ (k, v) :: rest = (t.insert k v).entries ++ rest := by
      rw [hplace, List.append_assoc, List.singleton_append]
    rw [hassoc] at h ⊢
    exact entries_foldl_insert rest (t.insert k v) h

/-- A list whose keys ascend is the list of entries of its table. -/
theorem entries_ofList [Std.TransOrd κ] [Std.LawfulEqOrd κ] {l : List (κ × α)} (h : Ascending l) :
    (ofList l).entries = l :=
  entries_foldl_insert l empty h

/-- What is found in a filtered table. -/
theorem find?_filter [Std.LawfulEqOrd κ] [DecidableEq κ] {t : Table κ α} {p : κ → α → Bool} {k : κ}
    {v : α} : (t.filter p).find? k = some v ↔ t.find? k = some v ∧ p k v = true := by
  rw [← mem_entries_iff, ← mem_entries_iff]
  exact List.mem_filter

/-- An erasure changes the look-up of its own key only. -/
theorem find?_erase [Std.LawfulEqOrd κ] [DecidableEq κ] (t : Table κ α) (k k' : κ) :
    (t.erase k).find? k' = if k' = k then none else t.find? k' := by
  refine Option.ext fun v => find?_filter.trans ?_
  by_cases hk : k' = k
  · simp [hk]
  · simp [hk, Ne.symm hk]

/-- The last value that a list has under a key. -/
def lastUnder [DecidableEq κ] (l : List (κ × α)) (k : κ) : Option α :=
  ((l.filter fun e => e.1 = k).map (·.2)).getLast?

omit [Ord κ] in
theorem lastUnder_cons [DecidableEq κ] (e : κ × α) (rest : List (κ × α)) (k : κ) :
    lastUnder (e :: rest) k = (lastUnder rest k).or (if e.1 = k then some e.2 else none) := by
  unfold lastUnder
  by_cases hk : e.1 = k
  · rw [List.filter_cons_of_pos (by simpa using hk), List.map_cons, List.getLast?_cons, if_pos hk]
    cases ((rest.filter fun e => e.1 = k).map (·.2)).getLast? <;> rfl
  · rw [List.filter_cons_of_neg (by simpa using hk), if_neg hk, Option.or_none]

omit [Ord κ] in
theorem lastUnder_append [DecidableEq κ] (l m : List (κ × α)) (k : κ) :
    lastUnder (l ++ m) k = (lastUnder m k).or (lastUnder l k) := by
  rw [lastUnder, List.filter_append, List.map_append, List.getLast?_append]
  rfl

omit [Ord κ] in
/-- Entries of other keys do not count. -/
theorem lastUnder_filter [DecidableEq κ] (l : List (κ × α)) {p : κ × α → Bool} {k : κ}
    (h : ∀ v, p (k, v) = true) : lastUnder (l.filter p) k = lastUnder l k := by
  have hfilter : ∀ e ∈ l, (decide (e.1 = k) && p e) = decide (e.1 = k) := by
    rintro ⟨k', v⟩ _
    by_cases hk : k' = k
    · subst hk
      simp [h v]
    · simp [hk]
  rw [lastUnder, List.filter_filter, List.filter_congr hfilter, lastUnder]

omit [Ord κ] in
theorem isSome_lastUnder [DecidableEq κ] {l : List (κ × α)} {k : κ} :
    (lastUnder l k).isSome ↔ k ∈ l.map (·.1) := by
  rw [lastUnder, List.getLast?_isSome, ne_eq, List.map_eq_nil_iff, List.filter_eq_nil_iff]
  simp

omit [Ord κ] in
/-- If no key is repeated, every entry of a list counts. -/
theorem lastUnder_eq_some_iff [DecidableEq κ] {l : List (κ × α)} (h : (l.map (·.1)).Nodup) {k : κ}
    {v : α} : lastUnder l k = some v ↔ (k, v) ∈ l := by
  induction l with
  | nil => simp [lastUnder]
  | cons e rest ih =>
    obtain ⟨hnew, hrest⟩ := List.nodup_cons.1 h
    rw [lastUnder_cons, List.mem_cons]
    by_cases hk : e.1 = k
    · have hnone : lastUnder rest k = none := by
        rw [← Option.not_isSome_iff_eq_none, isSome_lastUnder]
        exact hk ▸ hnew
      have hbehind : (k, v) ∉ rest := fun hmem =>
        hnew (List.mem_map.2 ⟨(k, v), hmem, hk.symm⟩)
      simp [hnone, hk, hbehind, Prod.ext_iff, eq_comm]
    · have hother : (k, v) ≠ e := fun heq => hk (congrArg Prod.fst heq).symm
      rw [if_neg hk, Option.or_none, ih hrest, or_iff_right hother]

omit [Ord κ] in
/-- If no key is repeated, the order of a list does not count. -/
theorem lastUnder_eq_of_perm [DecidableEq κ] {l m : List (κ × α)} (h : (l.map (·.1)).Nodup)
    (hperm : m.Perm l) (k : κ) : lastUnder m k = lastUnder l k := by
  have hm : (m.map (·.1)).Nodup := (hperm.map _).nodup_iff.2 h
  refine Option.ext fun v => ?_
  rw [lastUnder_eq_some_iff hm, lastUnder_eq_some_iff h, hperm.mem_iff]

/-- Of entries that are inserted one after another, the last one of a key counts. -/
theorem find?_foldl_insert [Std.TransOrd κ] [Std.LawfulEqOrd κ] [DecidableEq κ]
    (l : List (κ × α)) (t : Table κ α) (k : κ) :
    (l.foldl (fun t e => t.insert e.1 e.2) t).find? k = (lastUnder l k).or (t.find? k) := by
  induction l generalizing t with
  | nil => rfl
  | cons e rest ih =>
    rw [List.foldl_cons, ih, find?_insert, lastUnder_cons, Option.or_assoc]
    by_cases hk : k = e.1
    · rw [if_pos hk, if_pos hk.symm, Option.some_or]
    · rw [if_neg hk, if_neg (Ne.symm hk), Option.none_or]

/-- Of the entries of a list, the last one of a key counts. -/
theorem find?_ofList [Std.TransOrd κ] [Std.LawfulEqOrd κ] [DecidableEq κ] (l : List (κ × α))
    (k : κ) : (ofList l).find? k = lastUnder l k := by
  rw [ofList, find?_foldl_insert, find?_empty, Option.or_none]

/-- A key has one entry in a list whose keys ascend. -/
theorem lastUnder_of_ascending [Std.LawfulEqOrd κ] [DecidableEq κ] (k : κ) :
    ∀ {l : List (κ × α)}, Ascending l → lastUnder l k = lookup k l
  | [], _ => rfl
  | (k', v) :: rest, h => by
    have hhead : ∀ e ∈ rest, compare k' e.1 = .lt := fun e he => List.rel_of_pairwise_cons h he
    have ih : lastUnder rest k = lookup k rest := lastUnder_of_ascending k (List.Pairwise.tail h)
    rw [lastUnder_cons, ih]
    by_cases hk : k' = k
    · subst hk
      simp [lookup, lookup_eq_none hhead]
    · simp [lookup, hk, Ne.symm hk]

/-- Where both tables have a key, the later one counts. -/
theorem find?_overlay [Std.TransOrd κ] [Std.LawfulEqOrd κ] [DecidableEq κ]
    (earlier later : Table κ α) (k : κ) :
    (earlier.overlay later).find? k = (later.find? k).or (earlier.find? k) := by
  rw [overlay, find?_foldl_insert, lastUnder_of_ascending k later.ascending]
  rfl

/-- The table of a list has the keys of the list. -/
theorem isSome_find?_ofList [Std.TransOrd κ] [Std.LawfulEqOrd κ] [DecidableEq κ] (l : List (κ × α))
    (k : κ) : ((ofList l).find? k).isSome ↔ ∃ e ∈ l, e.1 = k := by
  rw [find?_ofList, isSome_lastUnder, List.mem_map]

/-- The table of a function on some keys. -/
theorem find?_ofList_map [Std.TransOrd κ] [Std.LawfulEqOrd κ] [DecidableEq κ] (f : κ → α)
    (l : List κ) (k : κ) :
    (ofList (l.map fun k => (k, f k))).find? k = if k ∈ l then some (f k) else none := by
  rw [find?_ofList]
  induction l with
  | nil => rfl
  | cons k' rest ih =>
    rw [List.map_cons, lastUnder_cons, ih]
    by_cases hk : k' = k
    · subst hk
      by_cases hrest : k' ∈ rest <;> simp [hrest]
    · simp [hk, Ne.symm hk]

theorem mem_values_ofList_map [Std.TransOrd κ] [Std.LawfulEqOrd κ] [DecidableEq κ] {f : κ → α}
    {l : List κ} {v : α} :
    v ∈ (ofList (l.map fun k => (k, f k))).values ↔ ∃ k ∈ l, f k = v := by
  rw [values, List.mem_map]
  constructor
  · rintro ⟨⟨k, v'⟩, he, rfl⟩
    have hfind := mem_entries_iff.1 he
    rw [find?_ofList_map] at hfind
    split at hfind
    · next hk => exact ⟨k, hk, Option.some.inj hfind⟩
    · cases hfind
  · rintro ⟨k, hk, rfl⟩
    refine ⟨(k, f k), mem_entries_iff.2 ?_, rfl⟩
    rw [find?_ofList_map, if_pos hk]

theorem find?_mapValues [Std.LawfulEqOrd κ] [DecidableEq κ] {β : Type} (f : κ → α → β)
    (t : Table κ α) (k : κ) : (t.mapValues f).find? k = (t.find? k).map (f k) := by
  refine Option.ext fun v => ?_
  rw [← mem_entries_iff, Option.map_eq_some_iff]
  refine List.mem_map.trans ⟨?_, ?_⟩
  · rintro ⟨⟨k', a⟩, he, heq⟩
    cases heq
    exact ⟨a, mem_entries_iff.1 he, rfl⟩
  · rintro ⟨a, ha, rfl⟩
    exact ⟨(k, a), mem_entries_iff.2 ha, rfl⟩

end Fleet.Table
