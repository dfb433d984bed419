import Fleet.Deployment
import Fleet.Proofs.Container.Specs
import Fleet.Proofs.Rehearsal.Containers
import Fleet.Proofs.Text.Words

/-!
# What the removal of a pass leaves

In a rehearsal the removal of a pass always succeeds. It removes the containers whose names have the
profile's stem and whose labels say that they belong to the pass, and it changes nothing else, the
order of the other containers included (`run_undeploy`). Every container of a module is removed with
the pass of its kind (`removes_of_mem_specsOf`), so the removal of both passes leaves none of them
(`containers_without_passes`).
-/

namespace Fleet

/-- The other pass. -/
def ModuleKind.other : ModuleKind → ModuleKind
  | .management => .business
  | .business => .management

/-- The run with other containers. -/
def RunState.holding (s : RunState Rehearsal) (store : ContainerStore) : RunState Rehearsal :=
  ⟨s.images, { s.services with containers := store }⟩

namespace Deployment

open ContainerStore

variable {listing : List ListingEntry} {token : Token} {s : RunState Rehearsal}

theorem run_remove {id : String} {store : ContainerStore}
    (h : s.services.containers.remove id = (.ok (), store)) :
    Program.run (Rehearsal.collaborators listing token).handler (Action.removeContainer id).run s =
      (.ok (), s.holding store) := by
  show ((s.services.containers.remove id).1, s.holding (s.services.containers.remove id).2) = _
  rw [h]

/-- Removing one container, which is stopped first if it runs. -/
theorem run_removeAll_cons {c : ContainerSummary} (rest : List ContainerSummary)
    (hheld : s.services.containers.holds c.id = true) :
    Program.run (Rehearsal.collaborators listing token).handler (removeAll (c :: rest)).run s =
      Program.run (Rehearsal.collaborators listing token).handler
        (do let names ← removeAll rest; pure (c.name :: names) : Action (List String)).run
        (s.holding (s.services.containers.without fun held => held.id == c.id)) := by
  rw [removeAll]
  by_cases hrunning : c.isRunning
  · have hstop : Program.run (Rehearsal.collaborators listing token).handler
        (Action.stopContainer c.id).outcome.run s =
        (.ok (s.services.containers.stop c.id).1,
          s.holding (s.services.containers.stop c.id).2) :=
      Action.run_outcome _ _ _
    simp only [if_pos hrunning]
    rw [Program.run_bind_of_ok hstop]
    exact Program.run_bind_of_ok (run_remove (remove_stop hheld))
  · simp only [if_neg hrunning]
    exact Program.run_bind_of_ok (run_remove (remove_eq hheld))

/-- Containers that are held are removed one after another. -/
theorem run_removeAll (found : List ContainerSummary) (s : RunState Rehearsal)
    (hheld : ∀ c ∈ found, s.services.containers.holds c.id = true)
    (hnodup : (found.map (·.id)).Nodup) :
    Program.run (Rehearsal.collaborators listing token).handler (removeAll found).run s =
      (.ok (found.map (·.name)), s.holding (s.services.containers.without fun held =>
        (found.map (·.id)).contains held.id)) := by
  induction found generalizing s with
  | nil =>
    show (Except.ok [], s) = (_, s.holding (s.services.containers.without fun _ => false))
    rw [without_none]
    rfl
  | cons c rest ih =>
    obtain ⟨hc, hrest⟩ := List.forall_mem_cons.1 hheld
    obtain ⟨hfirst, hdistinct⟩ := List.nodup_cons.1 hnodup
    have hleft : ∀ d ∈ rest, (s.services.containers.without fun held =>
        held.id == c.id).holds d.id = true := by
      intro d hd
      obtain ⟨e, he, hid⟩ := holds_iff.1 (hrest d hd)
      have hne : e.2.id ≠ c.id := fun heq =>
        hfirst (List.mem_map.2 ⟨d, hd, hid.symm.trans heq⟩)
      refine holds_iff.2 ⟨e, List.mem_filter.2 ⟨he, ?_⟩, hid⟩
      show (!(e.2.id == c.id)) = true
      rw [beq_false_of_ne hne]
      rfl
    rw [run_removeAll_cons rest hc, Program.run_bind_of_ok (ih _ hleft hdistinct)]
    show (Except.ok _, s.holding ((s.services.containers.without _).without _)) = _
    rw [without_without]
    rfl

/-- Whether a held container is removed with a pass. -/
def removes (n : Naming) (kind : ModuleKind) (held : HeldContainer) : Bool :=
  belongsTo n kind held.summary && Text.contains held.spec.name n.stem

theorem removes_of_mem_specsOf {b : Blueprint} {d : Descriptor} {held : HeldContainer}
    (h : held.spec ∈ b.specsOf d) : removes b.naming d.kind held = true := by
  obtain ⟨⟨rest, hname⟩, hprofile, hkind⟩ := Blueprint.stem_and_labels h
  have hbelongs : belongsTo b.naming d.kind held.summary = true := by
    show (held.spec.labels.find? Label.profile == some b.naming.profile &&
      held.spec.labels.find? Label.kind == some d.kind.text) = true
    rw [hprofile, hkind, beq_self_eq_true, beq_self_eq_true]
    rfl
  rw [removes, hbelongs, hname, Text.contains_append]
  rfl

/-- The containers that are found for a pass are those that are removed with it. -/
theorem run_containers (n : Naming) (kind : ModuleKind) (s : RunState Rehearsal) :
    Program.run (Rehearsal.collaborators listing token).handler (containers n kind).run s =
      (.ok ((s.services.containers.containers.values.filter (removes n kind)).map
        HeldContainer.summary), s) := by
  have hlisted : Program.run (Rehearsal.collaborators listing token).handler
      (Action.listContainers n.stem).run s = (.ok (s.services.containers.list n.stem), s) := rfl
  rw [containers, Program.run_bind_of_ok hlisted]
  show (Except.ok ((s.services.containers.list n.stem).filter (belongsTo n kind)), s) = _
  rw [list, List.filter_map, List.filter_filter]
  rfl

/-- The removal of a pass removes its containers, and nothing else. -/
theorem run_undeploy (listing : List ListingEntry) (token : Token) (n : Naming) (kind : ModuleKind)
    (s : RunState Rehearsal) (h : s.services.containers.Numbered) :
    Program.run (Rehearsal.collaborators listing token).handler (undeploy n kind).run s =
      (.ok ((s.services.containers.containers.values.filter (removes n kind)).map (·.spec.name)),
        s.holding (s.services.containers.without (removes n kind))) := by
  have hheld : ∀ c ∈ (s.services.containers.containers.values.filter (removes n kind)).map
      HeldContainer.summary, s.services.containers.holds c.id = true := by
    intro c hc
    obtain ⟨held, hmem, rfl⟩ := List.mem_map.1 hc
    obtain ⟨e, he, rfl⟩ := List.mem_map.1 (List.mem_filter.1 hmem).1
    exact holds_iff.2 ⟨e, he, rfl⟩
  have hids : ((s.services.containers.containers.values.filter (removes n kind)).map
      HeldContainer.summary).map (·.id) =
      (s.services.containers.containers.values.filter (removes n kind)).map (·.id) :=
    List.map_map
  have hnodup := h.nodup_ids.sublist
    ((List.filter_sublist (p := removes n kind)).map (HeldContainer.id))
  rw [undeploy, Program.run_bind_of_ok (run_containers n kind s),
    run_removeAll _ s hheld (hids ▸ hnodup), hids, List.map_map]
  refine congrArg (fun store => (_, s.holding store)) (without_congr fun e he => ?_)
  -- the ids that are removed are those of the containers that were found
  refine Bool.eq_iff_iff.2 (List.contains_iff_mem.trans ⟨fun hid => ?_, fun hremoves => ?_⟩)
  · obtain ⟨held, hmem, hid⟩ := List.mem_map.1 hid
    obtain ⟨hvalue, hremoves⟩ := List.mem_filter.1 hmem
    obtain ⟨e', he', rfl⟩ := List.mem_map.1 hvalue
    rwa [h.distinct e' he' e he hid] at hremoves
  · exact List.mem_map_of_mem (List.mem_filter.2 ⟨List.mem_map_of_mem he, hremoves⟩)

/-- When both passes have been removed, nothing of them is left. -/
theorem containers_without_passes {n : Naming} {store : ContainerStore}
    (h : ∀ e ∈ store.containers.entries, ∃ kind, removes n kind e.2 = true) (first : ModuleKind) :
    ((store.without (removes n first)).without (removes n first.other)).containers = .empty := by
  refine Table.eq_empty_iff.2 fun e he => ?_
  obtain ⟨he, hsecond⟩ := List.mem_filter.1 he
  obtain ⟨he, hfirst⟩ := List.mem_filter.1 he
  obtain ⟨kind, hremoves⟩ := h e he
  have hkind : kind = first ∨ kind = first.other := by
    cases kind <;> cases first <;> decide
  rcases hkind with rfl | rfl
  · exact absurd hremoves (by simpa using hfirst)
  · exact absurd hremoves (by simpa using hsecond)

end Deployment

end Fleet
