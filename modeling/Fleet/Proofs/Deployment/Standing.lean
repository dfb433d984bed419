import Fleet.Proofs.Deployment.Passage

/-!
# Where a pass stands

While the tasks of a pass take turns, the modules that are up are always the first ones of the pass
(`Standing`): containers were created for them only, a sidecar is being started only for one of
them, and the tasks of the others are as the pass began with them, the one in turn aside. So the
container of a sidecar is created behind that of its module (`SidecarsBehind`), in every order of
turns and whatever the calls are answered.

The modules of a pass have different names here; that is what tells their containers apart, since
the names of the containers themselves need not (`Blueprint.name_eq_cases`).
-/

namespace Fleet.Deployment

open Program Underway

variable {σ : Type} {handler : Handler Call.Answer σ} {b : Blueprint} {ds : List Descriptor}
  {spec : ContainerSpec} {task task' : Task} {events events' : List Event}

/-- The container of a sidecar is created only when that of its module is up. -/
def SidecarsBehind (b : Blueprint) (ds : List Descriptor) (events : List Event) : Prop :=
  ∀ d ∈ ds, ∀ port earlier answer later,
    events = earlier ++ ⟨.createContainer (b.sidecarSpec d port), answer⟩ :: later →
    Created earlier (b.moduleSpec d)

theorem SidecarsBehind.append {e : Event} (h : SidecarsBehind b ds events)
    (hup : ∀ d ∈ ds, ∀ port, e.1 = .createContainer (b.sidecarSpec d port) →
      Created events (b.moduleSpec d)) : SidecarsBehind b ds (events ++ [e]) := by
  intro d hd port earlier answer later heq
  rcases List.eq_nil_or_concat later with rfl | ⟨before, last, rfl⟩
  · obtain ⟨rfl, hlast⟩ := List.append_inj' heq rfl
    obtain rfl := List.singleton_inj.1 hlast
    exact hup d hd port rfl
  · rw [List.concat_eq_append, ← List.cons_append, ← List.append_assoc] at heq
    exact h d hd port earlier answer before (List.append_inj' heq rfl).1

/-- What a record shows of a task's next call. -/
inductive Recorded (spec : ContainerSpec) (task' : Task) (events : List Event) : List Event → Prop
  | nothing (hbrings : Brings spec task') : Recorded spec task' events events
  | pulled {image : String} {auth : Option Config.RegistryAuth} {answer : Outcome Unit}
      (hbrings : Brings spec task') :
      Recorded spec task' events (events ++ [⟨.ensureImage image auth, answer⟩])
  | created {id : String} (ht' : task' = .done (.ok ())) :
      Recorded spec task' events (events ++ [⟨.createContainer spec, .ok id⟩])
  | refused {e : Failure} (ht' : task' = .done (.error e)) :
      Recorded spec task' events (events ++ [⟨.createContainer spec, .error e⟩])

theorem Brings.recorded {t t' : σ × List Event} (h : Brings spec task)
    (ha : task.advance (recording handler) t = (task', t')) : Recorded spec task' t.2 t'.2 := by
  cases h.advances ha with
  | ended _ ht' hs => exact hs ▸ .nothing (ht' ▸ trivial)
  | pulled hcall hbrings _ => exact recording_eq hcall ▸ .pulled hbrings
  | pullFailed hcall ht' => exact recording_eq hcall ▸ .pulled (ht' ▸ trivial)
  | created hcall ht' => exact recording_eq hcall ▸ .created ht'
  | refused hcall ht' => exact recording_eq hcall ▸ .refused ht'

theorem created_append {e : Event} {spec : ContainerSpec} : Created (events ++ [e]) spec ↔
    Created events spec ∨ ∃ id, e = ⟨.createContainer spec, .ok id⟩ := by
  simp only [Created, List.mem_append, List.mem_singleton, exists_or, eq_comm]

namespace Recorded

/-- The container of a task is created when the task ends well. -/
theorem created_iff (h : Recorded spec task' events events') {other : ContainerSpec} :
    Created events' other ↔ Created events other ∨ (other = spec ∧ task' = .done (.ok ())) := by
  cases h with
  | nothing hbrings =>
    refine (or_iff_left ?_).symm
    rintro ⟨-, rfl⟩
    exact hbrings
  | pulled hbrings =>
    refine created_append.trans (or_congr_right ⟨?_, ?_⟩)
    · rintro ⟨_, he⟩
      cases he
    · rintro ⟨-, rfl⟩
      exact hbrings.elim
  | created ht' =>
    refine created_append.trans (or_congr_right ⟨?_, ?_⟩)
    · rintro ⟨_, he⟩
      cases he
      exact ⟨rfl, ht'⟩
    · rintro ⟨rfl, -⟩
      exact ⟨_, rfl⟩
  | refused ht' =>
    refine created_append.trans (or_congr_right ⟨?_, ?_⟩)
    · rintro ⟨_, he⟩
      cases he
    · rintro ⟨-, hdone⟩
      cases ht'.symm.trans hdone

theorem brings (h : Recorded spec task' events events') (hd : ∀ o, task' ≠ .done o) :
    Brings spec task' := by
  cases h with
  | nothing hbrings => exact hbrings
  | pulled hbrings => exact hbrings
  | created ht' => exact absurd ht' (hd _)
  | refused ht' => exact absurd ht' (hd _)

theorem sidecarsBehind (h : Recorded spec task' events events')
    (hevents : SidecarsBehind b ds events)
    (hup : ∀ d ∈ ds, ∀ port, spec = b.sidecarSpec d port → Created events (b.moduleSpec d)) :
    SidecarsBehind b ds events' := by
  cases h with
  | nothing _ => exact hevents
  | pulled _ => exact hevents.append fun _ _ _ heq => nomatch heq
  | created _ => exact hevents.append fun d hd port heq => hup d hd port (by cases heq; rfl)
  | refused _ => exact hevents.append fun d hd port heq => hup d hd port (by cases heq; rfl)

end Recorded

/-! ## The containers of the first modules -/

/-- Of the modules of a pass some first ones are up, and no containers were created but for them. -/
structure CreatedUpTo (b : Blueprint) (ds up : List Descriptor) (events : List Event) : Prop where
  modules : ∀ d ∈ up, Created events (b.moduleSpec d)
  only : ∀ spec, Created events spec → ∃ d ∈ up, spec ∈ b.specsOf d
  behind : SidecarsBehind b ds events

namespace CreatedUpTo

variable {up : List Descriptor} {d : Descriptor}

/-- A module is up. -/
theorem moduleUp (h : CreatedUpTo b ds up events)
    (hrecorded : Recorded (b.moduleSpec d) (.done (.ok ())) events events') :
    CreatedUpTo b ds (up ++ [d]) events' where
  modules := List.forall_mem_append.2
    ⟨fun d' hd' => hrecorded.created_iff.2 (.inl (h.modules d' hd')),
    List.forall_mem_singleton.2 (hrecorded.created_iff.2 (.inr ⟨rfl, rfl⟩))⟩
  only spec hspec := by
    rcases hrecorded.created_iff.1 hspec with hspec | ⟨rfl, -⟩
    · obtain ⟨d', hd', hmem⟩ := h.only spec hspec
      exact ⟨d', List.mem_append_left _ hd', hmem⟩
    · exact ⟨d, List.mem_append_right _ (List.mem_singleton_self d), List.mem_cons_self⟩
  behind := hrecorded.sidecarsBehind h.behind fun d' _ port heq =>
    absurd heq (Blueprint.moduleSpec_ne_sidecarSpec d d' port)

/-- A module goes on, or it fails. -/
theorem moduleGoesOn (h : CreatedUpTo b ds up events)
    (hrecorded : Recorded (b.moduleSpec d) task' events events') (ht' : task' ≠ .done (.ok ())) :
    CreatedUpTo b ds up events' where
  modules d' hd' := hrecorded.created_iff.2 (.inl (h.modules d' hd'))
  only spec hspec := h.only spec
    ((hrecorded.created_iff.1 hspec).resolve_right fun hdone => ht' hdone.2)
  behind := hrecorded.sidecarsBehind h.behind fun d' _ port heq =>
    absurd heq (Blueprint.moduleSpec_ne_sidecarSpec d d' port)

/-- A sidecar goes on whose module is up. -/
theorem sidecar (h : CreatedUpTo b ds up events)
    (hnames : ∀ d ∈ ds, ∀ d' ∈ ds, d.name = d'.name → d = d') (hup : ∀ d ∈ up, d ∈ ds)
    (hd : d ∈ up) {port : Port} (hport : d.sidecarPort? = some port)
    (hrecorded : Recorded (b.sidecarSpec d port) task' events events') :
    CreatedUpTo b ds up events' where
  modules d' hd' := hrecorded.created_iff.2 (.inl (h.modules d' hd'))
  only spec hspec := by
    rcases hrecorded.created_iff.1 hspec with hspec | ⟨rfl, -⟩
    · exact h.only spec hspec
    · exact ⟨d, hd, Blueprint.mem_specsOf_iff.2 (.inr ⟨port, hport, rfl⟩)⟩
  behind := by
    refine hrecorded.sidecarsBehind h.behind fun d' hd' port' heq => ?_
    have hname : d.name = d'.name := by
      have hspecs := congrArg ContainerSpec.name heq
      rw [Blueprint.sidecarSpec_name, Blueprint.sidecarSpec_name] at hspecs
      exact (String.append_left_inj _).1 ((String.append_right_inj _).1 hspecs)
    cases hnames d (hup d hd) d' hd' hname
    exact h.modules d hd

end CreatedUpTo

/-! ## The tasks that are left -/

/-- The tasks of a module that is not up: its own may have begun, its sidecar's has not. -/
structure Waits (b : Blueprint) (d : Descriptor) (m : ModuleTask) : Prop where
  brings : Brings (b.moduleSpec d) m.task
  sidecar : m.sidecar? = (moduleTask b d).sidecar?

/-- A task is to start the sidecar of one of these modules. -/
def Accompanies (b : Blueprint) (up : List Descriptor) (task : Task) : Prop :=
  ∃ d ∈ up, ∃ port, d.sidecarPort? = some port ∧ Brings (b.sidecarSpec d port) task

/-- Of the modules of a pass the first ones are up. The others have their tasks still, unless the
pass has given them up. -/
structure Standing (b : Blueprint) (ds up rest : List Descriptor) (u : Underway)
    (events : List Event) : Prop where
  split : ds = up ++ rest
  modules : u.modules = [] ∨ List.Forall₂ (Waits b) rest u.modules
  sidecars : ∀ task ∈ u.sidecars, Accompanies b up task
  created : CreatedUpTo b ds up events

namespace Standing

variable {up rest : List Descriptor} {u : Underway}

theorem start (b : Blueprint) (ds : List Descriptor) : Standing b ds [] ds (.start b ds) [] where
  split := rfl
  modules := by
    refine .inr (List.forall₂_map_right_iff.2 (List.forall₂_same.2 fun d _ => ?_))
    exact ⟨brings_startModule b d, rfl⟩
  sidecars _ ht := absurd ht List.not_mem_nil
  created := by
    refine ⟨fun _ hd => absurd hd List.not_mem_nil,
      fun _ ⟨_, hid⟩ => absurd hid List.not_mem_nil, ?_⟩
    intro _ _ _ _ _ _ heq
    simp at heq

/-- The first of the modules that are left has its turn. -/
theorem exists_first (h : Standing b ds up rest u events) {m : ModuleTask}
    {later : List ModuleTask} (hm : u.modules = m :: later) :
    ∃ d rest', rest = d :: rest' ∧ Waits b d m ∧ List.Forall₂ (Waits b) rest' later := by
  rcases h.modules with hnone | hall
  · cases hnone.symm.trans hm
  · rw [hm] at hall
    cases hall with
    | cons hfirst hlater => exact ⟨_, _, rfl, hfirst, hlater⟩

/-- A turn of a pass starts its next module, or it leaves the modules that are up as they are. -/
theorem turn (hnames : ∀ d ∈ ds, ∀ d' ∈ ds, d.name = d'.name → d = d') {t t' : σ × List Event}
    (h : Standing b ds up rest u t.2) {turn : Turn} {u' : Underway}
    (hturned : Turned (recording handler) u t turn u' t') :
    ∃ up' rest', Standing b ds up' rest' u' t'.2 := by
  have hup : ∀ d ∈ up, d ∈ ds := fun d hd => h.split ▸ List.mem_append_left _ hd
  cases hturned with
  | idle _ => exact ⟨up, rest, h⟩
  | @moduleUp m later _ _ hm ha =>
    obtain ⟨d, rest', rfl, hwaits, hlater⟩ := h.exists_first hm
    refine ⟨up ++ [d], rest', h.split.trans (by simp), .inr hlater, ?_,
      h.created.moduleUp (hwaits.brings.recorded ha)⟩
    refine List.forall_mem_append.2 ⟨fun task ht => ?_, fun task ht => ?_⟩
    · obtain ⟨d', hd', hrest⟩ := h.sidecars task ht
      exact ⟨d', List.mem_append_left _ hd', hrest⟩
    · -- the task of the module's sidecar has not begun
      rw [hwaits.sidecar] at ht
      obtain ⟨spec, hspec, rfl⟩ := Option.map_eq_some_iff.1 (Option.mem_toList.1 ht)
      obtain ⟨port, hport, rfl⟩ := Option.map_eq_some_iff.1 hspec
      exact ⟨d, List.mem_append_right _ (List.mem_singleton_self d), port, hport,
        brings_startSidecar b _⟩
  | moduleFailed _ hm ha =>
    obtain ⟨d, rest', rfl, hwaits, -⟩ := h.exists_first hm
    exact ⟨up, d :: rest', h.split, .inl rfl, h.sidecars,
      h.created.moduleGoesOn (hwaits.brings.recorded ha) (by simp)⟩
  | moduleGoesOn _ hm ha hd =>
    obtain ⟨d, rest', rfl, hwaits, hlater⟩ := h.exists_first hm
    have hrecorded := hwaits.brings.recorded ha
    exact ⟨up, d :: rest', h.split, .inr (.cons ⟨hrecorded.brings hd, hwaits.sidecar⟩ hlater),
      h.sidecars, h.created.moduleGoesOn hrecorded (hd _)⟩
  | sidecarEnded hs ha =>
    obtain ⟨hfirst, hlater⟩ := List.forall_mem_append.1 (hs ▸ h.sidecars)
    obtain ⟨⟨d, hd, port, hport, hbrings⟩, hlater⟩ := List.forall_mem_cons.1 hlater
    exact ⟨up, rest, h.split, h.modules, List.forall_mem_append.2 ⟨hfirst, hlater⟩,
      h.created.sidecar hnames hup hd hport (hbrings.recorded ha)⟩
  | sidecarGoesOn hs ha hdone =>
    obtain ⟨hfirst, hlater⟩ := List.forall_mem_append.1 (hs ▸ h.sidecars)
    obtain ⟨⟨d, hd, port, hport, hbrings⟩, hlater⟩ := List.forall_mem_cons.1 hlater
    have hrecorded := hbrings.recorded ha
    refine ⟨up, rest, h.split, h.modules, List.forall_mem_append.2 ⟨hfirst, ?_⟩,
      h.created.sidecar hnames hup hd hport hrecorded⟩
    exact List.forall_mem_cons.2 ⟨⟨d, hd, port, hport, hrecorded.brings hdone⟩, hlater⟩
  | notedUp _ _ _ => exact ⟨up, rest, h.split, h.modules, h.sidecars, h.created⟩
  | notedFailure _ _ _ => exact ⟨up, rest, h.split, h.modules, h.sidecars, h.created⟩
  | finished _ _ _ _ => exact ⟨up, rest, h.split, h.modules, h.sidecars, h.created⟩
  | givenUp _ hs =>
    obtain ⟨hfirst, hlater⟩ := List.forall_mem_append.1 (hs ▸ h.sidecars)
    obtain ⟨-, hlater⟩ := List.forall_mem_cons.1 hlater
    exact ⟨up, rest, h.split, h.modules, List.forall_mem_append.2 ⟨hfirst, hlater⟩, h.created⟩

/-- From a module on that is not up, nothing is created for the modules of a pass in name order. -/
theorem not_created (h : Standing b ds up rest u events)
    (hds : ds.Pairwise fun d d' => d.name < d'.name) {d d' : Descriptor} (hd : d ∈ ds)
    (hdown : d ∉ up) (hle : d.name ≤ d'.name) (hspec : spec ∈ b.specsOf d') :
    ¬ Created events spec := by
  intro hcreated
  obtain ⟨d₀, hup, hspec₀⟩ := h.created.only spec hcreated
  have hname : d₀.name = d'.name :=
    Option.some.inj ((Blueprint.module_label hspec₀).symm.trans (Blueprint.module_label hspec))
  have hrest : d ∈ rest := (List.mem_append.1 (h.split ▸ hd)).resolve_left hdown
  rw [h.split, List.pairwise_append] at hds
  have hless : d₀.name < d.name := hds.2.2 d₀ hup d hrest
  exact String.lt_irrefl _ (Std.lt_of_lt_of_le (hname ▸ hless) hle)

/-- In every order of turns, the modules of a pass that are up are its first ones. -/
theorem turns (handler : Handler Call.Answer σ)
    (hnames : ∀ d ∈ ds, ∀ d' ∈ ds, d.name = d'.name → d = d') (ts : List Turn)
    {t : σ × List Event} (h : Standing b ds up rest u t.2) :
    ∃ up' rest', Standing b ds up' rest' (turns (recording handler) ts u t).1
      (turns (recording handler) ts u t).2.2 := by
  induction ts generalizing u t up rest with
  | nil => exact ⟨up, rest, h⟩
  | cons first later ih =>
    obtain ⟨up', rest', h'⟩ := h.turn hnames (turned_turn (recording handler) first u t)
    exact ih h'

end Standing

end Fleet.Deployment
