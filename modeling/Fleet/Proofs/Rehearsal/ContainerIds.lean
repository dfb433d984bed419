import Fleet.Proofs.Rehearsal.ContainerRuns
import Mathlib.Data.List.Nodup

/-!
# Ids of kept containers

Containers are kept by name, but they are stopped and removed by id, and a creation puts a new
container in the place of an older one of its name without asking for its id. What makes an id tell
a container nevertheless is that ids are given out by creations only, each the id of the next number
(`Issued`). This is kept up by whatever a store is used for, so an id whose container is gone cannot
come back (`Issued.gone_foldl`). The numbers are natural numbers: they do not run out and start over.

`faithful_after` says what follows for the operations on a store after any use.
-/

namespace Fleet.ContainerStore

/-! ## Ids that are given out -/

/-- The id that a use gives out. -/
def issue? (s : ContainerStore) : Use → Option String
  | .call (.create spec) => (s.create spec).1.toOption
  | _ => none

/-- The ids that uses give out from a store on, in order. -/
def issuedFrom (s : ContainerStore) : List Use → List String
  | [] => []
  | use :: rest => (s.issue? use).toList ++ (s.used use).issuedFrom rest

/-- The ids that uses of an empty store give out, in order. -/
def issued (uses : List Use) : List String := issuedFrom {} uses

/-- The ids given out are those of the numbers that have been counted, and every container has one
of them. -/
structure Issued (ids : List String) (s : ContainerStore) : Prop where
  counted : ids = (List.range s.created).map fun n => idOf (n + 1)
  held : ∀ e ∈ s.containers.entries, e.2.id ∈ ids

variable {s : ContainerStore} {spec : ContainerSpec} {name id : String} {c : HeldContainer}
  {ids : List String}

/-- The creation of a name that is to fail fails, and changes nothing. -/
theorem create_of_mem_failing (h : spec.name ∈ s.failing) :
    s.create spec = (.error (.runtime (.creationFailed spec.name)), s) :=
  if_pos (List.contains_iff_mem.2 h)

/-- Any other creation gives out the id of the next number. -/
theorem create_of_not_mem_failing (h : spec.name ∉ s.failing) :
    s.create spec = (.ok (idOf (s.created + 1)),
      { s with
        created := s.created + 1
        containers := s.containers.insert spec.name ⟨idOf (s.created + 1), spec, true⟩ }) :=
  if_neg fun hmem => h (List.contains_iff_mem.1 hmem)

/-- A use that gives out no id counts nothing, and no container comes to another id by it. -/
structure Silent (s : ContainerStore) (use : Use) : Prop where
  issue : s.issue? use = none
  created : (s.used use).created = s.created
  kept : ∀ e ∈ (s.used use).containers.entries, ∃ held ∈ s.containers.entries, held.2.id = e.2.id

/-- A use is a creation that gives out the next id, or it gives out none. -/
theorem used_cases (s : ContainerStore) (use : Use) :
    (∃ spec, use = .call (.create spec) ∧ spec.name ∉ s.failing) ∨ s.Silent use := by
  have same : ∀ {use}, s.issue? use = none → (s.used use).created = s.created →
      (s.used use).containers = s.containers → s.Silent use := fun hissue hcreated hcontainers =>
    ⟨hissue, hcreated, fun e he => ⟨e, hcontainers ▸ he, rfl⟩⟩
  cases use with
  | call call =>
    cases call with
    | create spec =>
      by_cases hfailing : spec.name ∈ s.failing
      · have hcreate := create_of_mem_failing hfailing
        refine .inr (same ?_ ?_ ?_)
        · exact congrArg (·.1.toOption) hcreate
        · exact congrArg (·.2.created) hcreate
        · exact congrArg (·.2.containers) hcreate
      · exact .inl ⟨spec, rfl, hfailing⟩
    | stop id =>
      refine .inr ⟨rfl, ?_, fun e he => ?_⟩
      · simp only [used, handler, stop]
        split <;> rfl
      · obtain ⟨held, hheld, hid, _⟩ := mem_stop he
        exact ⟨_, hheld, hid⟩
    | remove id =>
      refine .inr ⟨rfl, ?_, fun e he => ⟨e, mem_remove he, rfl⟩⟩
      simp only [used, handler, remove]
      split <;> rfl
    | exec name arguments =>
      refine .inr (same rfl ?_ ?_) <;>
      · simp only [used, handler, exec]
        split <;> rfl
    | pull image auth => exact .inr (same rfl rfl rfl)
    | list pattern => exact .inr (same rfl rfl rfl)
    | logs name => exact .inr (same rfl rfl rfl)
  | failOn name => exact .inr (same rfl rfl rfl)
  | setLogs name text => exact .inr (same rfl rfl rfl)
  | pushOutput name output => exact .inr (same rfl rfl rfl)

namespace Issued

theorem nodup (h : Issued ids s) : ids.Nodup := by
  rw [h.counted]
  exact List.nodup_range.map fun m n heq => Nat.succ.inj (idOf_injective heq)

/-- The next id has not been given out. -/
theorem next_not_mem (h : Issued ids s) : idOf (s.created + 1) ∉ ids := by
  rw [h.counted, List.mem_map]
  rintro ⟨n, hn, heq⟩
  have hnumber : n + 1 = s.created + 1 := idOf_injective heq
  have hcounted := List.mem_range.1 hn
  omega

theorem used (h : Issued ids s) (use : Use) :
    Issued (ids ++ (s.issue? use).toList) (s.used use) := by
  rcases used_cases s use with ⟨spec, rfl, hfailing⟩ | hsilent
  · have hcreate := create_of_not_mem_failing hfailing
    have hissue : s.issue? (.call (.create spec)) = some (idOf (s.created + 1)) :=
      congrArg (·.1.toOption) hcreate
    have hused : s.used (.call (.create spec)) = _ := congrArg Prod.snd hcreate
    rw [hissue, hused]
    refine ⟨?_, fun e he => ?_⟩
    · rw [h.counted]
      exact (congrArg (List.map _) List.range_succ).trans List.map_append |>.symm
    · rcases Table.mem_entries_of_mem_insert he with rfl | he
      · exact List.mem_append_right _ List.mem_cons_self
      · exact List.mem_append_left _ (h.held e he)
  · rw [hsilent.issue, Option.toList_none, List.append_nil]
    refine ⟨hsilent.created ▸ h.counted, fun e he => ?_⟩
    obtain ⟨held, hheld, hid⟩ := hsilent.kept e he
    exact hid ▸ h.held held hheld

/-- No use gives an id that was given out to another container. -/
theorem gone_used (h : Issued ids s) (hid : id ∈ ids) (hgone : s.holds id = false) (use : Use) :
    (s.used use).holds id = false := by
  rw [Bool.eq_false_iff] at hgone ⊢
  refine mt (fun hheld => ?_) hgone
  obtain ⟨e, he, hsame⟩ := holds_iff.1 hheld
  rcases used_cases s use with ⟨spec, rfl, hfailing⟩ | hsilent
  · have hused : s.used (.call (.create spec)) = _ := congrArg Prod.snd (create_of_not_mem_failing hfailing)
    rw [hused] at he
    rcases Table.mem_entries_of_mem_insert he with rfl | he
    · cases hsame
      exact absurd hid h.next_not_mem
    · exact holds_iff.2 ⟨e, he, hsame⟩
  · obtain ⟨held, hkept, hidheld⟩ := hsilent.kept e he
    exact holds_iff.2 ⟨held, hkept, hidheld.trans hsame⟩

theorem foldl (uses : List Use) (h : Issued ids s) :
    Issued (ids ++ s.issuedFrom uses) (uses.foldl ContainerStore.used s) := by
  induction uses generalizing s ids with
  | nil => rwa [issuedFrom, List.append_nil]
  | cons use rest ih =>
    rw [issuedFrom, ← List.append_assoc]
    exact ih (h.used use)

/-- An id whose container is gone stays without one. -/
theorem gone_foldl (uses : List Use) (h : Issued ids s) (hid : id ∈ ids)
    (hgone : s.holds id = false) : (uses.foldl ContainerStore.used s).holds id = false := by
  induction uses generalizing s ids with
  | nil => exact hgone
  | cons use rest ih =>
    exact ih (h.used use) (List.mem_append_left _ hid) (h.gone_used hid hgone use)

end Issued

theorem issued_after (uses : List Use) : Issued (issued uses) (after uses) := by
  have hempty : Issued [] {} := ⟨rfl, fun e he => absurd he List.not_mem_nil⟩
  exact hempty.foldl uses

/-! ## Names that are to fail -/

theorem mem_failing_used {use : Use} :
    name ∈ (s.used use).failing ↔ use = .failOn name ∨ name ∈ s.failing := by
  have same : ∀ {use}, use ≠ .failOn name → (s.used use).failing = s.failing →
      (name ∈ (s.used use).failing ↔ use = .failOn name ∨ name ∈ s.failing) :=
    fun hother hfailing => by rw [hfailing, or_iff_right hother]
  cases use with
  | failOn failing =>
    refine List.mem_cons.trans (or_congr ⟨?_, ?_⟩ Iff.rfl)
    · rintro rfl
      rfl
    · exact fun h => (Use.failOn.inj h).symm
  | call call =>
    refine same Use.noConfusion ?_
    cases call with
    | create spec => simp only [used, handler, create]; split <;> rfl
    | stop id => simp only [used, handler, stop]; split <;> rfl
    | remove id => simp only [used, handler, remove]; split <;> rfl
    | exec name arguments => simp only [used, handler, exec]; split <;> rfl
    | pull image auth => rfl
    | list pattern => rfl
    | logs name => rfl
  | setLogs name text => exact same Use.noConfusion rfl
  | pushOutput name output => exact same Use.noConfusion rfl

/-- The names whose creation fails are those for which this was asked. -/
theorem mem_failing_after {uses : List Use} :
    name ∈ (after uses).failing ↔ .failOn name ∈ uses := by
  have hall : ∀ (s : ContainerStore),
      name ∈ (uses.foldl used s).failing ↔ .failOn name ∈ uses ∨ name ∈ s.failing := by
    induction uses with
    | nil => simp
    | cons use rest ih =>
      intro s
      rw [List.foldl_cons, ih, mem_failing_used, List.mem_cons, eq_comm, or_left_comm, or_assoc]
  exact (hall {}).trans (or_iff_left List.not_mem_nil)

/-! ## What is done to one id -/

/-- In a numbered store, the container with an id is the one that was found to have it. -/
theorem Numbered.name_eq (h : s.Numbered) (hfind : s.containers.find? name = some c)
    {name' : String} {c' : HeldContainer} (hfind' : s.containers.find? name' = some c')
    (hid : c'.id = c.id) : name' = name :=
  congrArg Prod.fst
    (h.distinct _ (Table.mem_entries_iff.2 hfind') _ (Table.mem_entries_iff.2 hfind) hid)

theorem holds_of_find? (hfind : s.containers.find? name = some c) : s.holds c.id = true :=
  holds_iff.2 ⟨(name, c), Table.mem_entries_iff.2 hfind, rfl⟩

/-- Only the container with the id is stopped. -/
theorem Numbered.stop_eq (h : s.Numbered) (hfind : s.containers.find? name = some c) :
    s.stop c.id = (.ok (), { s with
      containers := s.containers.insert name { c with running := false } }) := by
  have htable : (s.containers.mapValues fun _ other =>
      if other.id == c.id then { other with running := false } else other) =
      s.containers.insert name { c with running := false } := by
    refine Table.ext_find? fun name' => ?_
    rw [Table.find?_mapValues, Table.find?_insert]
    by_cases hname : name' = name
    · rw [hname, if_pos rfl, hfind, Option.map_some, if_pos (beq_self_eq_true _)]
    · rw [if_neg hname]
      cases hfind' : s.containers.find? name' with
      | none => rfl
      | some c' =>
        have hother : ¬ (c'.id == c.id) = true := fun hid =>
          hname (h.name_eq hfind hfind' (beq_iff_eq.1 hid))
        rw [Option.map_some, if_neg hother]
  rw [stop, if_pos (holds_of_find? hfind), htable]

/-- Only the container with the id is removed. -/
theorem Numbered.remove_eq_erase (h : s.Numbered) (hfind : s.containers.find? name = some c) :
    s.remove c.id = (.ok (), { s with containers := s.containers.erase name }) := by
  have htable : (s.containers.filter fun _ other => !(other.id == c.id)) =
      s.containers.erase name := by
    refine Table.ext_find? fun name' => ?_
    rw [Table.find?_erase]
    refine Option.ext fun c' => Table.find?_filter.trans ?_
    by_cases hname : name' = name
    · rw [hname, if_pos rfl, hfind]
      constructor
      · rintro ⟨⟨⟩, hother⟩
        simp at hother
      · rintro ⟨⟩
    · rw [if_neg hname, and_iff_left_of_imp]
      intro hfind'
      have hother : c'.id ≠ c.id := fun hid => hname (h.name_eq hfind hfind' hid)
      simpa using hother
  rw [remove_eq (holds_of_find? hfind), ContainerStore.without, htable]

/-- A container that is replaced leaves its id behind. -/
theorem Numbered.gone_of_insert (h : s.Numbered) (hfind : s.containers.find? name = some c)
    {newer : HeldContainer} (hnewer : newer.id ≠ c.id) (created : Nat) :
    holds { s with created := created, containers := s.containers.insert name newer } c.id =
      false := by
  rw [Bool.eq_false_iff, ne_eq, holds_iff]
  rintro ⟨⟨name', c'⟩, he, hid⟩
  have hfind' := Table.mem_entries_iff.1 he
  rw [Table.find?_insert] at hfind'
  split at hfind'
  · cases hfind'
    exact hnewer hid
  · next hother => exact hother (h.name_eq hfind hfind' hid)

theorem Numbered.gone_of_erase (h : s.Numbered) (hfind : s.containers.find? name = some c) :
    holds { s with containers := s.containers.erase name } c.id = false := by
  rw [Bool.eq_false_iff, ne_eq, holds_iff]
  rintro ⟨⟨name', c'⟩, he, hid⟩
  have hfind' := Table.mem_entries_iff.1 he
  rw [Table.find?_erase] at hfind'
  split at hfind'
  · cases hfind'
  · next hother => exact hother (h.name_eq hfind hfind' hid)

/-! ## Stores after any use -/

/-- What a store that has been used holds, and what the operations on it do. -/
structure Faithful (uses : List Use) : Prop where
  /-- Every container is kept under the name of its spec. -/
  named : ∀ e ∈ (after uses).containers.entries, e.2.spec.name = e.1
  /-- No two containers have one id. -/
  distinct : ((after uses).containers.values.map (·.id)).Nodup
  /-- A container has an id that was given out. -/
  live : ∀ c ∈ (after uses).containers.values, c.id ∈ issued uses
  /-- No id was given out twice. -/
  once : (issued uses).Nodup
  /-- An id that was given out and whose container is gone stays without one for ever. -/
  gone : ∀ id ∈ issued uses, (after uses).holds id = false →
    ∀ more, (after (uses ++ more)).holds id = false
  /-- Without a container, an id is invalid: nothing is done for it. -/
  invalid : ∀ id, (after uses).holds id = false →
    (after uses).stop id = (.error (.runtime (.noSuchContainer id)), after uses) ∧
      (after uses).remove id = (.error (.runtime (.noSuchContainer id)), after uses)
  /-- Where creation is to fail it fails, and changes nothing. -/
  create_fails : ∀ spec, .failOn spec.name ∈ uses →
    (after uses).create spec =
      (.error (.runtime (.creationFailed spec.name)), after uses)
  /-- Any other creation answers with an id that was never given out. The new container takes the
  place of the one of its name, whose id is without a container then, and of no other. -/
  create : ∀ spec, .failOn spec.name ∉ uses → ∃ id, id ∉ issued uses ∧
    (after uses).create spec = (.ok id, { after uses with
      created := (after uses).created + 1
      containers := (after uses).containers.insert spec.name ⟨id, spec, true⟩ }) ∧
    ∀ c, (after uses).containers.find? spec.name = some c →
      ((after uses).create spec).2.holds c.id = false
  /-- The container with an id is stopped, and no other. -/
  stop : ∀ name c, (after uses).containers.find? name = some c →
    (after uses).stop c.id = (.ok (), { after uses with
      containers := (after uses).containers.insert name { c with running := false } })
  /-- The container with an id is removed, and no other, and the id is without one then. -/
  remove : ∀ name c, (after uses).containers.find? name = some c →
    (after uses).remove c.id =
        (.ok (), { after uses with containers := (after uses).containers.erase name }) ∧
      ((after uses).remove c.id).2.holds c.id = false

/-- Whatever a store has been used for, it is a faithful store of containers. -/
theorem faithful_after (uses : List Use) : Faithful uses := by
  have hsound := sound_after uses
  have hissued := issued_after uses
  have hlive : ∀ c ∈ (after uses).containers.values, c.id ∈ issued uses := by
    intro c hc
    obtain ⟨e, he, rfl⟩ := List.mem_map.1 hc
    exact hissued.held e he
  refine
    { named := hsound.named
      distinct := hsound.numbered.nodup_ids
      live := hlive
      once := hissued.nodup
      gone := fun id hid hgone more => ?gone
      invalid := fun id hgone => ?invalid
      create_fails := fun spec hfailing => create_of_mem_failing (mem_failing_after.2 hfailing)
      create := fun spec hfailing => ?create
      stop := fun name c hfind => hsound.numbered.stop_eq hfind
      remove := fun name c hfind => ?remove }
  case gone =>
    rw [after, List.foldl_append]
    exact hissued.gone_foldl more hid hgone
  case invalid =>
    have hnot : ¬ (after uses).holds id = true := Bool.eq_false_iff.1 hgone
    exact ⟨if_neg hnot, if_neg hnot⟩
  case create =>
    have hcreate := create_of_not_mem_failing (mt mem_failing_after.1 hfailing)
    refine ⟨_, hissued.next_not_mem, hcreate, fun c hfind => ?_⟩
    have hold : c.id ∈ issued uses :=
      hlive c (List.mem_map_of_mem (Table.mem_entries_iff.2 hfind))
    have hnewer : idOf ((after uses).created + 1) ≠ c.id := fun hid =>
      hissued.next_not_mem (hid ▸ hold)
    rw [hcreate]
    exact hsound.numbered.gone_of_insert hfind hnewer _
  case remove =>
    have hremove := hsound.numbered.remove_eq_erase hfind
    refine ⟨hremove, ?_⟩
    rw [hremove]
    exact hsound.numbered.gone_of_erase hfind

end Fleet.ContainerStore
