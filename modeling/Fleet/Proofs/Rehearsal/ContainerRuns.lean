import Fleet.Proofs.Rehearsal.Containers

/-!
# Stores after any use

A store of containers is used by the calls of a container runtime, and failures, logs and outputs
are laid down for it. Whatever it has been used for, its containers are kept under their names, and
no id is the id of two of them (`sound_after`).
-/

namespace Fleet.ContainerStore

/-- What may be done with a store. -/
inductive Use
  | call (call : RuntimeCall)
  | failOn (name : String)
  | setLogs (name text : String)
  | pushOutput (name : String) (output : Outcome String)

/-- The store that is left by a use. -/
def used (s : ContainerStore) : Use → ContainerStore
  | .call call => (handler call s).2
  | .failOn name => s.failOn name
  | .setLogs name text => s.setLogs name text
  | .pushOutput name output => s.pushOutput name output

/-- What is left of an empty store by uses, one after another. -/
def after (uses : List Use) : ContainerStore := uses.foldl used {}

/-- Containers are kept under their names, and each has an id of its own. -/
structure Sound (s : ContainerStore) : Prop where
  numbered : s.Numbered
  named : ∀ e ∈ s.containers.entries, e.2.spec.name = e.1

namespace Sound

variable {s s' : ContainerStore}

/-- Containers that keep their ids and specs stay sound. -/
theorem of_kept (h : s.Sound) (hcreated : s'.created = s.created)
    (hkept : ∀ e ∈ s'.containers.entries,
      ∃ held, (e.1, held) ∈ s.containers.entries ∧ held.id = e.2.id ∧ held.spec = e.2.spec) :
    s'.Sound where
  numbered := h.numbered.of_kept hcreated fun e he => by
    obtain ⟨held, hheld, hid, _⟩ := hkept e he
    exact ⟨held, hheld, hid⟩
  named e he := by
    obtain ⟨held, hheld, _, hspec⟩ := hkept e he
    exact hspec ▸ h.named _ hheld

theorem of_containers_eq (h : s.Sound) (hcreated : s'.created = s.created)
    (hcontainers : s'.containers = s.containers) : s'.Sound :=
  h.of_kept hcreated fun e he => ⟨e.2, hcontainers ▸ he, rfl, rfl⟩

theorem create (h : s.Sound) (spec : ContainerSpec) : (s.create spec).2.Sound where
  numbered := h.numbered.create spec
  named e he := by
    rcases mem_create he with ⟨hname, hspec⟩ | he
    · rw [hspec, hname]
    · exact h.named e he

theorem call (h : s.Sound) (call : RuntimeCall) : (handler call s).2.Sound := by
  cases call with
  | create spec => exact h.create spec
  | stop id =>
    refine h.of_kept ?_ fun e he => mem_stop he
    simp only [handler, stop]
    split <;> rfl
  | remove id =>
    refine h.of_kept ?_ fun e he => ⟨e.2, mem_remove he, rfl, rfl⟩
    simp only [handler, remove]
    split <;> rfl
  | exec name arguments =>
    simp only [handler, exec]
    split <;> exact h.of_containers_eq rfl rfl
  | pull image auth => exact h.of_containers_eq rfl rfl
  | list pattern => exact h
  | logs name => exact h

theorem used (h : s.Sound) (use : Use) : (s.used use).Sound := by
  cases use with
  | call call => exact h.call call
  | failOn name => exact h.of_containers_eq rfl rfl
  | setLogs name text => exact h.of_containers_eq rfl rfl
  | pushOutput name output => exact h.of_containers_eq rfl rfl

end Sound

/-- Whatever a store has been used for, it is sound. -/
theorem sound_after (uses : List Use) : (after uses).Sound := by
  have hall : ∀ (rest : List Use) (s : ContainerStore), s.Sound → (rest.foldl used s).Sound := by
    intro rest
    induction rest with
    | nil => exact fun s hs => hs
    | cons use rest ih => exact fun s hs => ih _ (hs.used use)
  refine hall uses {} ⟨⟨?_, ?_⟩, ?_⟩ <;> exact fun e he => absurd he List.not_mem_nil

end Fleet.ContainerStore
