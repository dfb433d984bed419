import Fleet.Proofs.Table
import Fleet.Rehearsal
import Fleet.Text.Hex

/-!
# Laws of kept containers

A call of a container runtime brings in the container that it creates, and nothing else: every other
container that is kept afterwards was kept before under the same name and with the same spec. It may
have been stopped by the call.

An id tells the number of its container (`idOf_injective`), and numbers are given out once. So in a
store that has only created and removed containers, an id is the id of one container (`Numbered`),
and what is done to an id is done to this container: removing it, stopped first or not, leaves all
others as they were (`remove_eq`, `remove_stop`).
-/

namespace Fleet

namespace ContainerStore

/-- Creating a container keeps it, and the others as they are. -/
theorem mem_create {s : ContainerStore} {spec : ContainerSpec} {e : String × HeldContainer}
    (he : e ∈ (s.create spec).2.containers.entries) :
    (e.1 = spec.name ∧ e.2.spec = spec) ∨ e ∈ s.containers.entries := by
  unfold create at he
  split at he
  · exact .inr he
  · rcases Table.mem_entries_of_mem_insert he with rfl | he
    · exact .inl ⟨rfl, rfl⟩
    · exact .inr he

/-- Stopping a container keeps all ids and specs. -/
theorem mem_stop {s : ContainerStore} {id : String} {e : String × HeldContainer}
    (he : e ∈ (s.stop id).2.containers.entries) :
    ∃ held, (e.1, held) ∈ s.containers.entries ∧ held.id = e.2.id ∧ held.spec = e.2.spec := by
  unfold stop at he
  split at he
  · obtain ⟨e', he', rfl⟩ := List.mem_map.1 he
    refine ⟨e'.2, he', ?_⟩
    dsimp only
    split <;> exact ⟨rfl, rfl⟩
  · exact ⟨e.2, he, rfl, rfl⟩

/-- Removing a container keeps others only. -/
theorem mem_remove {s : ContainerStore} {id : String} {e : String × HeldContainer}
    (he : e ∈ (s.remove id).2.containers.entries) : e ∈ s.containers.entries := by
  unfold remove at he
  split at he
  · exact (List.mem_filter.1 he).1
  · exact he

/-- A container that is kept after a call was created by the call, or kept before. -/
theorem mem_handler {s : ContainerStore} (call : RuntimeCall) {e : String × HeldContainer}
    (he : e ∈ (handler call s).2.containers.entries) :
    (∃ spec, call = .create spec ∧ e.1 = spec.name ∧ e.2.spec = spec) ∨
      ∃ held, (e.1, held) ∈ s.containers.entries ∧ held.spec = e.2.spec := by
  cases call with
  | create spec =>
    rcases mem_create he with ⟨hname, hspec⟩ | he
    · exact .inl ⟨spec, rfl, hname, hspec⟩
    · exact .inr ⟨e.2, he, rfl⟩
  | stop id =>
    obtain ⟨held, hheld, _, hspec⟩ := mem_stop he
    exact .inr ⟨held, hheld, hspec⟩
  | remove id => exact .inr ⟨e.2, mem_remove he, rfl⟩
  | exec name arguments =>
    refine .inr ⟨e.2, ?_, rfl⟩
    simp only [handler, exec] at he
    split at he <;> exact he
  | pull image auth => exact .inr ⟨e.2, he, rfl⟩
  | list pattern => exact .inr ⟨e.2, he, rfl⟩
  | logs name => exact .inr ⟨e.2, he, rfl⟩

/-! ## Ids tell numbers -/

/-- The number that hexadecimal digits write behind others. -/
def hexNumber (digits : List Char) (others : Nat) : Nat :=
  digits.foldl (fun n c => 16 * n + (Text.hexValue? c).getD 0) others

theorem hexNumber_append (first second : List Char) (others : Nat) :
    hexNumber (first ++ second) others = hexNumber second (hexNumber first others) :=
  List.foldl_append

theorem hexNumber_zeros (count : Nat) : hexNumber (List.replicate count '0') 0 = 0 := by
  induction count with
  | zero => rfl
  | succ count ih => exact ih

theorem hexNumber_digitChar (others : Nat) :
    ∀ d < 16, hexNumber [d.digitChar] others = 16 * others + d := by
  have hvalue : ∀ d < 16, Text.hexValue? d.digitChar = some d := by decide
  intro d hd
  show 16 * others + (Text.hexValue? d.digitChar).getD 0 = _
  rw [hvalue d hd]
  rfl

theorem hexNumber_toDigits (n : Nat) : hexNumber (Nat.toDigits 16 n) 0 = n := by
  induction n using Nat.base_induction 16 (by decide) with
  | single d hd =>
    rw [Nat.toDigits_of_lt_base hd, hexNumber_digitChar 0 d hd, Nat.mul_zero, Nat.zero_add]
  | digit n d hd hn ih =>
    rw [← Nat.toDigits_append_toDigits (by decide) hn hd, hexNumber_append, ih,
      Nat.toDigits_of_lt_base hd, hexNumber_digitChar n d hd]

/-- The number can be read off an id, also behind the zeros. -/
theorem idOf_injective : Function.Injective idOf := by
  have hread : ∀ n, hexNumber (hexDigits 12 n) 0 = n := by
    intro n
    rw [hexDigits, hexNumber_append, hexNumber_zeros, hexNumber_toDigits]
  intro m n h
  have hdigits : hexDigits 12 m = hexDigits 12 n :=
    String.ofList_injective ((String.append_right_inj _).1 h)
  rw [← hread m, ← hread n, hdigits]

/-! ## Numbered stores -/

/-- Ids are those of numbers that have been given out, and each is the id of one container. -/
structure Numbered (s : ContainerStore) : Prop where
  given : ∀ e ∈ s.containers.entries, ∃ n ≤ s.created, e.2.id = idOf n
  distinct : ∀ e ∈ s.containers.entries, ∀ e' ∈ s.containers.entries, e.2.id = e'.2.id → e = e'

/-- The store without the containers that satisfy a test. -/
def without (s : ContainerStore) (gone : HeldContainer → Bool) : ContainerStore :=
  { s with containers := s.containers.filter fun _ c => !gone c }

variable {s : ContainerStore}

theorem Numbered.create (h : s.Numbered) (spec : ContainerSpec) : (s.create spec).2.Numbered := by
  unfold ContainerStore.create
  split
  · exact h
  · have hfresh : ∀ e ∈ s.containers.entries, e.2.id ≠ idOf (s.created + 1) := by
      intro e he hid
      obtain ⟨n, hn, hgiven⟩ := h.given e he
      have hnumber : n = s.created + 1 := idOf_injective (hgiven.symm.trans hid)
      omega
    refine ⟨fun e he => ?_, fun e he e' he' hid => ?_⟩
    · rcases Table.mem_entries_of_mem_insert he with rfl | he
      · exact ⟨s.created + 1, Nat.le_refl _, rfl⟩
      · obtain ⟨n, hn, hgiven⟩ := h.given e he
        exact ⟨n, Nat.le_succ_of_le hn, hgiven⟩
    · rcases Table.mem_entries_of_mem_insert he with rfl | he <;>
        rcases Table.mem_entries_of_mem_insert he' with rfl | he'
      · rfl
      · exact absurd hid.symm (hfresh e' he')
      · exact absurd hid (hfresh e he)
      · exact h.distinct e he e' he' hid

theorem Numbered.without (h : s.Numbered) (gone : HeldContainer → Bool) :
    (s.without gone).Numbered where
  given e he := h.given e (List.mem_filter.1 he).1
  distinct e he e' he' := h.distinct e (List.mem_filter.1 he).1 e' (List.mem_filter.1 he').1

/-- Containers that keep their ids stay numbered. -/
theorem Numbered.of_kept (h : s.Numbered) {s' : ContainerStore} (hcreated : s'.created = s.created)
    (hkept : ∀ e ∈ s'.containers.entries,
      ∃ held, (e.1, held) ∈ s.containers.entries ∧ held.id = e.2.id) : s'.Numbered where
  given e he := by
    obtain ⟨held, hheld, hid⟩ := hkept e he
    rw [hcreated, ← hid]
    exact h.given _ hheld
  distinct e he e' he' heq := by
    obtain ⟨held, hheld, hid⟩ := hkept e he
    obtain ⟨held', hheld', hid'⟩ := hkept e' he'
    have hsame := h.distinct _ hheld _ hheld' ((hid.trans heq).trans hid'.symm)
    have hkey : e.1 = e'.1 := (Prod.mk.inj hsame).1
    exact Prod.ext hkey (Table.eq_of_mem_entries (t := s'.containers) he (hkey ▸ he'))

/-- No id is held twice. -/
theorem Numbered.nodup_ids (h : s.Numbered) : (s.containers.values.map (·.id)).Nodup := by
  have hentries : s.containers.entries.Nodup := .of_map _ s.containers.nodup_keys
  rw [Table.values, List.map_map, List.Nodup, List.pairwise_map]
  exact hentries.imp_of_mem fun {e e'} he he' hne hid => hne (h.distinct e he e' he' hid)

theorem without_congr {gone gone' : HeldContainer → Bool}
    (h : ∀ e ∈ s.containers.entries, gone e.2 = gone' e.2) : s.without gone = s.without gone' := by
  have hentries : (s.containers.entries.filter fun e => !gone e.2) =
      s.containers.entries.filter fun e => !gone' e.2 :=
    List.filter_congr fun e he => congrArg not (h e he)
  simp only [ContainerStore.without, Table.filter, hentries]

theorem without_none : (s.without fun _ => false) = s := by
  have hall : (s.containers.entries.filter fun _ => true) = s.containers.entries :=
    List.filter_true _
  simp only [ContainerStore.without, Table.filter, Bool.not_false, hall]

theorem without_without (gone more : HeldContainer → Bool) :
    (s.without gone).without more = s.without fun c => gone c || more c := by
  simp only [ContainerStore.without, Table.filter, List.filter_filter, Bool.not_or, Bool.and_comm]

theorem holds_iff {id : String} : s.holds id = true ↔ ∃ e ∈ s.containers.entries, e.2.id = id := by
  simp [holds, Table.values]

theorem remove_eq {id : String} (h : s.holds id = true) :
    s.remove id = (.ok (), s.without fun c => c.id == id) :=
  if_pos h

/-- A container that is stopped and then removed is gone, and the others are as they were. -/
theorem remove_stop {id : String} (h : s.holds id = true) :
    (s.stop id).2.remove id = (.ok (), s.without fun c => c.id == id) := by
  let stopped (c : HeldContainer) : HeldContainer :=
    if c.id == id then { c with running := false } else c
  have hid : ∀ c, (stopped c).id = c.id := by
    intro c
    dsimp only [stopped]
    split <;> rfl
  have hstop : (s.stop id).2 = { s with containers := s.containers.mapValues fun _ => stopped } :=
    congrArg Prod.snd (if_pos h)
  have hholds : (s.stop id).2.holds id = true := by
    obtain ⟨e, he, rfl⟩ := holds_iff.1 h
    rw [hstop]
    exact holds_iff.2 ⟨(e.1, stopped e.2), List.mem_map_of_mem he, hid e.2⟩
  rw [remove_eq hholds, hstop]
  -- the container that was changed is the one that is filtered out
  have hentries : (s.containers.entries.map fun e => (e.1, stopped e.2)).filter
      (fun e => !(e.2.id == id)) = s.containers.entries.filter fun e => !(e.2.id == id) := by
    rw [List.filter_map]
    simp only [Function.comp_def, hid]
    refine (List.map_congr_left fun e he => ?_).trans (List.map_id _)
    have hother : (e.2.id == id) = false := by simpa using (List.mem_filter.1 he).2
    simp only [stopped, hother]
    rfl
  simp only [ContainerStore.without, Table.filter, Table.mapValues, hentries]

end ContainerStore

/-- Pulling an image is noted by the containers' store at most. No container is changed by it, and
the other services are as they were. -/
theorem Rehearsal.services_ensureImage (listing : List ListingEntry) (token : Token)
    (auth : Option Config.RegistryAuth) (image : String) (s : RunState Rehearsal) :
    ∃ pulls, ((Rehearsal.collaborators listing token).ensureImage auth image s).2.services =
      { s.services with containers := { s.services.containers with pulls := pulls } } := by
  simp only [Collaborators.ensureImage, ImageCache.ensure]
  split
  · exact ⟨s.services.containers.pulls, rfl⟩
  · exact ⟨s.services.containers.pulls ++ [image], rfl⟩

end Fleet
