import Fleet.Proofs.Container.Specs
import Fleet.Proofs.Deployment.OneTurn
import Fleet.Proofs.Failures

/-!
# The calls of a deployment

A deployment pulls images and creates the containers of its modules, and makes no other call. This
holds of the deployment in order (`within_deploy`) and of every order of turns
(`FailsOnly.turns`): a contract that allows these creations is kept by the tasks that are left,
whoever takes a turn. And if the pass fails, it does so with a failure that a pull or a creation was
answered.

Nothing is said here about which of the creations are made; that depends on the answers.
-/

namespace Fleet

namespace Deployment

variable {c : Contract Call.Answer} {G : Failure → Prop} {b : Blueprint}

theorem failsOnly_startModule (hblames : c.Blames G)
    (hpull : ∀ image auth, c.allows (.ensureImage image auth)) {d : Descriptor}
    (hcreate : c.allows (.createContainer (b.moduleSpec d))) :
    (startModule b d).FailsOnly c G := by
  have hmodule : (Action.createContainer (b.moduleSpec d) >>= fun _ => pure ()).FailsOnly c G :=
    Attempt.FailsOnly.bind ⟨hcreate, fun _ ho _ => hblames _ _ _ hcreate ho⟩
      fun _ => Attempt.failsOnly_pure
  have himage : (Action.ensureImage d.image b.auth).FailsOnly c G :=
    ⟨hpull _ _, fun _ ho _ => hblames _ _ _ (hpull _ _) ho⟩
  unfold startModule
  split
  · exact hmodule
  · exact himage.bind fun _ => hmodule

theorem failsOnly_startSidecar (hblames : c.Blames G)
    (hpull : ∀ image auth, c.allows (.ensureImage image auth)) {spec : ContainerSpec}
    (hcreate : c.allows (.createContainer spec)) : (startSidecar b spec).FailsOnly c G := by
  have himage : (Action.ensureImage spec.image b.auth).FailsOnly c G :=
    ⟨hpull _ _, fun _ ho _ => hblames _ _ _ (hpull _ _) ho⟩
  have hsidecar : (Action.createContainer spec).FailsOnly c G :=
    ⟨hcreate, fun _ ho _ => hblames _ _ _ hcreate ho⟩
  exact himage.bind fun _ => hsidecar.bind fun _ => Attempt.failsOnly_pure

theorem within_startModule (hpull : ∀ image auth, c.allows (.ensureImage image auth))
    {d : Descriptor} (hcreate : c.allows (.createContainer (b.moduleSpec d))) :
    (startModule b d).Within c :=
  Action.within_of_failsOnly (failsOnly_startModule (Contract.blames_true c) hpull hcreate)

theorem within_startSidecar (hpull : ∀ image auth, c.allows (.ensureImage image auth))
    {spec : ContainerSpec} (hcreate : c.allows (.createContainer spec)) :
    (startSidecar b spec).Within c :=
  Action.within_of_failsOnly (failsOnly_startSidecar (Contract.blames_true c) hpull hcreate)

/-- Starting modules creates their containers, and answers sidecars of theirs. -/
theorem keeps_startModules (hpull : ∀ image auth, c.allows (.ensureImage image auth))
    {ds : List Descriptor}
    (hcreate : ∀ d ∈ ds, ∀ spec ∈ b.specsOf d, c.allows (.createContainer spec)) :
    (startModules b ds).Keeps c fun specs => ∀ spec ∈ specs, c.allows (.createContainer spec) := by
  induction ds with
  | nil => exact Action.keeps_pure fun _ h => absurd h List.not_mem_nil
  | cons d rest ih =>
    obtain ⟨hd, hrest⟩ := List.forall_mem_cons.1 hcreate
    refine Action.keeps_bind (within_startModule hpull (hd _ List.mem_cons_self)) fun _ _ => ?_
    refine Action.keeps_bind (ih hrest) fun specs hspecs => Action.keeps_pure fun spec h => ?_
    rcases List.mem_append.1 h with h | h
    · exact hd spec (List.mem_cons_of_mem _ h)
    · exact hspecs spec h

theorem within_startSidecars (hpull : ∀ image auth, c.allows (.ensureImage image auth))
    {specs : List ContainerSpec} (hcreate : ∀ spec ∈ specs, c.allows (.createContainer spec)) :
    (startSidecars b specs).Within c := by
  induction specs with
  | nil => exact Action.keeps_pure trivial
  | cons spec rest ih =>
    obtain ⟨hspec, hrest⟩ := List.forall_mem_cons.1 hcreate
    refine Action.within_bind (Action.within_outcome (within_startSidecar hpull hspec))
      fun first => ?_
    refine Action.within_bind (Action.within_outcome (ih hrest)) fun others => ?_
    cases first with
    | error e => exact Action.keeps_throw
    | ok _ => exact Action.keeps_mk_pure fun _ _ => trivial

/-- A deployment pulls images and creates the containers of its modules. -/
theorem within_deploy (hpull : ∀ image auth, c.allows (.ensureImage image auth)) {p : Pass}
    (hcreate : ∀ d ∈ p.deployable, ∀ spec ∈ b.specsOf d, c.allows (.createContainer spec)) :
    (deploy b p).Within c := by
  have hall : (startAll b p.deployable).Within c :=
    Action.keeps_bind (keeps_startModules hpull hcreate) fun _ hspecs =>
      within_startSidecars hpull hspecs
  exact Action.within_bind hall fun _ => Action.keeps_pure trivial

namespace Underway

/-- The tasks that are left keep a contract. They fail, and the pass has failed, with some failures
only. -/
structure FailsOnly (c : Contract Call.Answer) (G : Failure → Prop) (u : Underway) : Prop where
  modules : ∀ m ∈ u.modules, m.task.Keeps c fun o => ∀ e, o = .error e → G e
  awaiting : ∀ m ∈ u.modules, ∀ task ∈ m.sidecar?, task.Keeps c fun o => ∀ e, o = .error e → G e
  sidecars : ∀ task ∈ u.sidecars, task.Keeps c fun o => ∀ e, o = .error e → G e
  ended : ∀ e, .error e ∈ u.ended → G e
  outcome : ∀ e, u.outcome? = some (.error e) → G e

/-- The tasks that are left keep a contract. -/
abbrev Within (c : Contract Call.Answer) (u : Underway) : Prop := u.FailsOnly c fun _ => True

theorem failsOnly_start (hblames : c.Blames G)
    (hpull : ∀ image auth, c.allows (.ensureImage image auth)) {ds : List Descriptor}
    (hcreate : ∀ d ∈ ds, ∀ spec ∈ b.specsOf d, c.allows (.createContainer spec)) :
    (start b ds).FailsOnly c G where
  modules m hm := by
    obtain ⟨d, hd, rfl⟩ := List.mem_map.1 hm
    exact (failsOnly_startModule hblames hpull (hcreate d hd _ List.mem_cons_self)).keeps
  awaiting m hm task htask := by
    obtain ⟨d, hd, rfl⟩ := List.mem_map.1 hm
    obtain ⟨spec, hspec, rfl⟩ := Option.map_eq_some_iff.1 htask
    have hmem : spec ∈ b.specsOf d := List.mem_cons_of_mem _ (Option.mem_toList.2 hspec)
    exact (failsOnly_startSidecar hblames hpull (hcreate d hd spec hmem)).keeps
  sidecars task htask := absurd htask List.not_mem_nil
  ended e he := absurd he List.not_mem_nil
  outcome e he := nomatch he

theorem within_start (hpull : ∀ image auth, c.allows (.ensureImage image auth))
    {ds : List Descriptor}
    (hcreate : ∀ d ∈ ds, ∀ spec ∈ b.specsOf d, c.allows (.createContainer spec)) :
    (start b ds).Within c :=
  failsOnly_start (Contract.blames_true c) hpull hcreate

variable {σ : Type} {handler : Handler Call.Answer σ} {Inv : σ → Prop} {u : Underway} {s : σ}

namespace FailsOnly

/-- A turn keeps what the handler keeps at allowed calls, and leaves the other tasks as they are. -/
theorem turn (h : u.FailsOnly c G) (hserved : c.Served handler Inv) (hs : Inv s) (t : Turn) :
    (turn handler t u s).1.FailsOnly c G ∧ Inv (turn handler t u s).2 := by
  have hturned := turned_turn handler t u s
  generalize (Underway.turn handler t u s).1 = u', (Underway.turn handler t u s).2 = s'
    at hturned ⊢
  cases hturned with
  | idle _ => exact ⟨h, hs⟩
  | moduleUp _ hm ha =>
    obtain ⟨htask, hrest⟩ := List.forall_mem_cons.1 (hm ▸ h.modules)
    obtain ⟨hsidecar, hrest'⟩ := List.forall_mem_cons.1 (hm ▸ h.awaiting)
    obtain ⟨-, hinv⟩ := ha ▸ htask.advance hserved hs
    refine ⟨⟨hrest, hrest', ?_, h.ended, h.outcome⟩, hinv⟩
    refine List.forall_mem_append.2 ⟨h.sidecars, fun task ht => ?_⟩
    exact hsidecar task (Option.mem_toList.1 ht)
  | moduleFailed _ hm ha =>
    obtain ⟨htask, -⟩ := List.forall_mem_cons.1 (hm ▸ h.modules)
    obtain ⟨hdone, hinv⟩ := ha ▸ htask.advance hserved hs
    refine ⟨⟨fun _ hn => absurd hn List.not_mem_nil, fun _ hn => absurd hn List.not_mem_nil,
      h.sidecars, h.ended, fun e he => ?_⟩, hinv⟩
    cases he
    exact hdone _ rfl
  | moduleGoesOn _ hm ha _ =>
    obtain ⟨htask, hrest⟩ := List.forall_mem_cons.1 (hm ▸ h.modules)
    obtain ⟨hsidecar, hrest'⟩ := List.forall_mem_cons.1 (hm ▸ h.awaiting)
    obtain ⟨htask', hinv⟩ := ha ▸ htask.advance hserved hs
    exact ⟨⟨List.forall_mem_cons.2 ⟨htask', hrest⟩, List.forall_mem_cons.2 ⟨hsidecar, hrest'⟩,
      h.sidecars, h.ended, h.outcome⟩, hinv⟩
  | sidecarEnded hsplit ha =>
    obtain ⟨hfirst, hlater⟩ := List.forall_mem_append.1 (hsplit ▸ h.sidecars)
    obtain ⟨htask, hlater⟩ := List.forall_mem_cons.1 hlater
    obtain ⟨hdone, hinv⟩ := ha ▸ htask.advance hserved hs
    refine ⟨⟨h.modules, h.awaiting, List.forall_mem_append.2 ⟨hfirst, hlater⟩, fun e he => ?_,
      h.outcome⟩, hinv⟩
    rcases List.mem_append.1 he with he | he
    · exact h.ended e he
    · exact hdone e (List.mem_singleton.1 he).symm
  | sidecarGoesOn hsplit ha _ =>
    obtain ⟨hfirst, hlater⟩ := List.forall_mem_append.1 (hsplit ▸ h.sidecars)
    obtain ⟨htask, hlater⟩ := List.forall_mem_cons.1 hlater
    obtain ⟨htask', hinv⟩ := ha ▸ htask.advance hserved hs
    exact ⟨⟨h.modules, h.awaiting,
      List.forall_mem_append.2 ⟨hfirst, List.forall_mem_cons.2 ⟨htask', hlater⟩⟩, h.ended,
      h.outcome⟩, hinv⟩
  | notedUp _ _ he =>
    refine ⟨⟨h.modules, h.awaiting, h.sidecars, fun e he' => h.ended e ?_, h.outcome⟩, hs⟩
    exact he ▸ List.mem_cons_of_mem _ he'
  | notedFailure _ _ he =>
    refine ⟨⟨h.modules, h.awaiting, h.sidecars, fun e he' => h.ended e ?_, fun e he' => ?_⟩, hs⟩
    · exact he ▸ List.mem_cons_of_mem _ he'
    · cases he'
      exact h.ended _ (he ▸ List.mem_cons_self)
  | finished _ _ _ _ =>
    exact ⟨⟨h.modules, h.awaiting, h.sidecars, h.ended, fun _ he => nomatch he⟩, hs⟩
  | givenUp _ hsplit =>
    obtain ⟨hfirst, hlater⟩ := List.forall_mem_append.1 (hsplit ▸ h.sidecars)
    obtain ⟨-, hlater⟩ := List.forall_mem_cons.1 hlater
    exact ⟨⟨h.modules, h.awaiting, List.forall_mem_append.2 ⟨hfirst, hlater⟩, h.ended, h.outcome⟩,
      hs⟩

/-- Turns keep what the handler keeps at allowed calls, in every order. -/
theorem turns (h : u.FailsOnly c G) (hserved : c.Served handler Inv) (hs : Inv s)
    (ts : List Turn) : (turns handler ts u s).1.FailsOnly c G ∧ Inv (turns handler ts u s).2 := by
  induction ts generalizing u s with
  | nil => exact ⟨h, hs⟩
  | cons t rest ih =>
    obtain ⟨hu, hinv⟩ := h.turn hserved hs t
    exact ih hu hinv

end FailsOnly

end Underway

end Deployment

end Fleet
