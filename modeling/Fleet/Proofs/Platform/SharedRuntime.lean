import Fleet.Config.Check
import Fleet.Proofs.Deployment.Removal
import Fleet.Proofs.Platform.HostPorts

/-!
# Platforms that share a runtime

Several platforms may keep their containers in one runtime. Each finds its own by the profile that a
label names, but it creates containers by name, and a new container takes the place of one of its
name, whoever created that.

**The law** (`others_kept`): whatever has happened on the runtime before, and whatever then happens
to one platform, the containers of other profiles stay exactly as they are, but for those whose name
is also the name of a container that the platform plans. A name can be shared only if one of the
profiles is the other with a hyphen and more behind it: a name begins with the profile and a hyphen,
and does not tell where the profile ends.

Such a container is lost. `replaced_across_profiles` is a case.
-/

namespace Fleet

/-- The profile under which a container was created. -/
def HeldContainer.profile? (c : HeldContainer) : Option String := c.spec.labels.find? Label.profile

namespace Platform

variable {c : Config} {token : Token} {listing : List ListingEntry} {before : ContainerStore}
  {s s' : Account}

/-! ## Leaving the containers of others alone -/

/-- The id of a container of another profile. -/
def Foreign (c : Config) (before : ContainerStore) (id : String) : Prop :=
  ∃ e ∈ before.containers.entries, e.2.id = id ∧ e.2.profile? ≠ some c.profile.name

/-- Planned containers are created only, and no container of another profile is stopped or removed.
Whatever is listed with the label of the profile is not one of those. -/
def respecting (c : Config) (token : Token) (listing : List ListingEntry)
    (before : ContainerStore) : Contract Call.Answer where
  allows
    | .createContainer spec => Planned c token listing spec
    | .stopContainer id | .removeContainer id => ¬ Foreign c before id
    | _ => True
  expects
    | .rootToken, answer => answer = .ok token
    | .listing, answer => answer = .ok listing
    | .listContainers _, answer => ∀ listed, answer = .ok listed → ∀ x ∈ listed,
        x.labels.find? Label.profile = some c.profile.name → ¬ Foreign c before x.id
    | _, _ => True

theorem respecting_free : (respecting c token listing before).FreeButContainers := by
  intro call hcall
  cases call <;> trivial

theorem passesWithin_respecting (isDirectory : String → Bool) :
    PassesWithin (respecting c token listing before) ⟨c, isDirectory⟩ := by
  intro token' listing' resolved kind htoken hlisting hresolved
  cases htoken
  cases hlisting
  refine Deployment.within_deploy (fun _ _ => trivial) fun d hd spec hspec => ?_
  exact planned_of_deployable (plan_of_resolve hresolved) d hd spec hspec

theorem within_removeAll_respecting {found : List ContainerSummary}
    (hfound : ∀ x ∈ found, ¬ Foreign c before x.id) :
    (Deployment.removeAll found).Within (respecting c token listing before) := by
  induction found with
  | nil => exact Action.keeps_pure trivial
  | cons x rest ih =>
    obtain ⟨hx, hrest⟩ := List.forall_mem_cons.1 hfound
    have hstop : (Action.stopContainer x.id).Within (respecting c token listing before) :=
      ⟨hx, fun _ _ _ _ => trivial⟩
    have hremove : (Action.removeContainer x.id).Within (respecting c token listing before) :=
      ⟨hx, fun _ _ _ _ => trivial⟩
    have hnames : (Deployment.removeAll rest >>= fun names => pure (x.name :: names)).Within
        (respecting c token listing before) :=
      Action.within_bind (ih hrest) fun _ => Action.keeps_pure trivial
    have hothers := Action.within_bind hremove fun _ => hnames
    unfold Deployment.removeAll
    split
    · exact Action.within_bind (Action.within_outcome hstop) fun _ => hothers
    · exact hothers

/-- A pass is removed by the labels of its containers. -/
theorem removalsWithin_respecting (isDirectory : String → Bool) :
    RemovalsWithin (respecting c token listing before) ⟨c, isDirectory⟩ := by
  intro kind
  have hlist : (Action.listContainers (naming ⟨c, isDirectory⟩).stem).Keeps
      (respecting c token listing before) fun listed => ∀ x ∈ listed,
        x.labels.find? Label.profile = some c.profile.name → ¬ Foreign c before x.id :=
    ⟨trivial, fun _ hanswer => hanswer⟩
  have hcontainers : (Deployment.containers (naming ⟨c, isDirectory⟩) kind).Keeps
      (respecting c token listing before) fun found => ∀ x ∈ found, ¬ Foreign c before x.id := by
    refine Action.keeps_bind hlist fun listed hlisted => Action.keeps_pure fun x hx => ?_
    obtain ⟨hmem, hbelongs⟩ := List.mem_filter.1 hx
    obtain ⟨hprofile, _⟩ := Bool.and_eq_true_iff.1 hbelongs
    exact hlisted x hmem (eq_of_beq hprofile)
  exact Action.keeps_bind hcontainers fun found hfound => within_removeAll_respecting hfound

/-! ## Containers and whose they are -/

/-- Containers are numbered, and kept under names that begin with the profile of their label. -/
structure Owned (store : ContainerStore) : Prop where
  numbered : store.Numbered
  named : ∀ e ∈ store.containers.entries, e.1 = e.2.spec.name
  stemmed : ∀ e ∈ store.containers.entries, ∃ profile rest, e.2.profile? = some profile ∧
    e.1 = (Naming.mk profile).stem ++ rest

/-- What happens to one platform keeps the containers of the others, or puts a planned container of
the platform in their place. -/
structure Apart (c : Config) (token : Token) (listing : List ListingEntry) (before : ContainerStore)
    (s : Account) : Prop where
  owned : Owned s.1.services.containers
  created : before.created ≤ s.1.services.containers.created
  foreign : ∀ e ∈ s.1.services.containers.containers.entries, Foreign c before e.2.id →
    e.2.profile? ≠ some c.profile.name
  kept : ∀ e ∈ before.containers.entries, e.2.profile? ≠ some c.profile.name →
    e ∈ s.1.services.containers.containers.entries ∨
    ∃ spec, Planned c token listing spec ∧ spec.name = e.1 ∧
      ∀ held, (e.1, held) ∈ s.1.services.containers.containers.entries →
        Planned c token listing held.spec

theorem apart_self {images : ImageCache} {services : Rehearsal}
    (h : Owned services.containers) (noted : List ContainerSpec) :
    Apart c token listing services.containers (⟨images, services⟩, noted) where
  owned := h
  created := Nat.le_refl _
  foreign e he hforeign := by
    obtain ⟨e', he', hid, hprofile⟩ := hforeign
    rw [← h.numbered.distinct e' he' e he hid]
    exact hprofile
  kept e he _ := .inl he

theorem Apart.of_containers_eq (h : Apart c token listing before s)
    (hkept : s'.1.services.containers.containers = s.1.services.containers.containers)
    (hcreated : s'.1.services.containers.created = s.1.services.containers.created) :
    Apart c token listing before s' := by
  obtain ⟨⟨⟨hgiven, hdistinct⟩, hnamed, hstemmed⟩, hle, hforeign, hall⟩ := h
  rw [← hkept] at hgiven hdistinct hnamed hstemmed hforeign hall
  rw [← hcreated] at hgiven hle
  exact ⟨⟨⟨hgiven, hdistinct⟩, hnamed, hstemmed⟩, hle, hforeign, hall⟩

/-- Containers are left or gone, with their ids and specs, and those of others are left. -/
theorem Apart.of_left (h : Apart c token listing before s)
    (hcreated : s'.1.services.containers.created = s.1.services.containers.created)
    (hleft : ∀ e ∈ s'.1.services.containers.containers.entries,
      ∃ held, (e.1, held) ∈ s.1.services.containers.containers.entries ∧
        held.id = e.2.id ∧ held.spec = e.2.spec)
    (hothers : ∀ e ∈ s.1.services.containers.containers.entries, Foreign c before e.2.id →
      e ∈ s'.1.services.containers.containers.entries) :
    Apart c token listing before s' where
  owned := by
    refine ⟨h.owned.numbered.of_kept hcreated fun e he => ?_, fun e he => ?_, fun e he => ?_⟩
    · obtain ⟨held, hheld, hid, _⟩ := hleft e he
      exact ⟨held, hheld, hid⟩
    · obtain ⟨held, hheld, _, hspec⟩ := hleft e he
      exact hspec ▸ h.owned.named _ hheld
    · obtain ⟨held, hheld, _, hspec⟩ := hleft e he
      obtain ⟨profile, rest, hprofile, hname⟩ := h.owned.stemmed _ hheld
      refine ⟨profile, rest, ?_, hname⟩
      rw [HeldContainer.profile?, ← hspec]
      exact hprofile
  created := hcreated ▸ h.created
  foreign e he hforeign := by
    obtain ⟨held, hheld, hid, hspec⟩ := hleft e he
    rw [HeldContainer.profile?, ← hspec]
    exact h.foreign _ hheld (hid ▸ hforeign)
  kept e he hprofile := by
    rcases h.kept e he hprofile with hmem | ⟨spec, hplanned, hname, htaken⟩
    · exact .inl (hothers e hmem ⟨e, he, rfl, hprofile⟩)
    · refine .inr ⟨spec, hplanned, hname, fun held hheld => ?_⟩
      obtain ⟨held', hheld', _, hspec⟩ := hleft _ hheld
      exact hspec ▸ htaken held' hheld'

/-! ## What the calls of a platform do -/

theorem Apart.create (h : Apart c token listing before s) (hbefore : before.Numbered)
    {spec : ContainerSpec} (hspec : Planned c token listing spec)
    (hstep : s'.1.services.containers = (s.1.services.containers.create spec).2) :
    Apart c token listing before s' := by
  rcases hcreate : s.1.services.containers.create spec with ⟨outcome, store⟩
  have hnumbered := h.owned.numbered.create spec
  rw [hcreate] at hstep hnumbered
  unfold ContainerStore.create at hcreate
  split at hcreate
  · cases hcreate
    exact h.of_containers_eq (by rw [hstep]) (by rw [hstep])
  · cases hcreate
    -- the new container has an id that no container had
    have hnew : ¬ Foreign c before (ContainerStore.idOf (s.1.services.containers.created + 1)) := by
      rintro ⟨e, he, hid, _⟩
      obtain ⟨n, hn, hgiven⟩ := hbefore.given e he
      have hnumber := ContainerStore.idOf_injective (hgiven.symm.trans hid)
      have hle := h.created
      omega
    obtain ⟨rest, hname, hprofile⟩ : ∃ rest, spec.name = (Naming.mk c.profile.name).stem ++ rest ∧
        spec.labels.find? Label.profile = some c.profile.name := by
      obtain ⟨_, _, d, _, _, hmem⟩ := hspec
      obtain ⟨⟨rest, hname⟩, hprofile, _⟩ := Blueprint.stem_and_labels hmem
      exact ⟨rest, hname, hprofile⟩
    refine ⟨⟨hstep ▸ hnumbered, fun e he => ?_, fun e he => ?_⟩, ?_, fun e he hforeign => ?_,
      fun e he hother => ?_⟩
    · rw [hstep] at he
      rcases Table.mem_entries_of_mem_insert he with rfl | he
      · rfl
      · exact h.owned.named e he
    · rw [hstep] at he
      rcases Table.mem_entries_of_mem_insert he with rfl | he
      · exact ⟨c.profile.name, rest, hprofile, hname⟩
      · exact h.owned.stemmed e he
    · rw [hstep]
      exact Nat.le_succ_of_le h.created
    · rw [hstep] at he
      rcases Table.mem_entries_of_mem_insert he with rfl | he
      · exact absurd hforeign hnew
      · exact h.foreign e he hforeign
    · rw [hstep]
      by_cases hkey : e.1 = spec.name
      · refine .inr ⟨spec, hspec, hkey.symm, fun held hheld => ?_⟩
        have hfind := Table.mem_entries_iff.1 hheld
        rw [Table.find?_insert, if_pos hkey] at hfind
        cases hfind
        exact hspec
      · have hsame : ∀ held, (e.1, held) ∈ s.1.services.containers.containers.entries ↔
            (e.1, held) ∈ (s.1.services.containers.containers.insert spec.name
              ⟨ContainerStore.idOf (s.1.services.containers.created + 1), spec, true⟩).entries := by
          intro held
          rw [Table.mem_entries_iff, Table.mem_entries_iff, Table.find?_insert, if_neg hkey]
        rcases h.kept e he hother with hmem | ⟨spec', hplanned, hname', htaken⟩
        · exact .inl ((hsame e.2).1 hmem)
        · exact .inr ⟨spec', hplanned, hname', fun held hheld => htaken held ((hsame held).2 hheld)⟩

theorem Apart.stop (h : Apart c token listing before s) {id : String}
    (hid : ¬ Foreign c before id)
    (hstep : s'.1.services.containers = (s.1.services.containers.stop id).2) :
    Apart c token listing before s' := by
  unfold ContainerStore.stop at hstep
  split at hstep
  · refine h.of_left (by rw [hstep]) (fun e he => ?_) fun e he hforeign => ?_
    · rw [hstep] at he
      obtain ⟨e', he', rfl⟩ := List.mem_map.1 he
      refine ⟨e'.2, he', ?_, ?_⟩ <;> dsimp only <;> split <;> rfl
    · have hne : (e.2.id == id) = false := beq_false_of_ne fun heq => hid (heq ▸ hforeign)
      rw [hstep]
      refine List.mem_map.2 ⟨e, he, ?_⟩
      show (e.1, if (e.2.id == id) = true then _ else e.2) = e
      rw [hne]
      rfl
  · exact h.of_containers_eq (by rw [hstep]) (by rw [hstep])

theorem Apart.remove (h : Apart c token listing before s) {id : String}
    (hid : ¬ Foreign c before id)
    (hstep : s'.1.services.containers = (s.1.services.containers.remove id).2) :
    Apart c token listing before s' := by
  unfold ContainerStore.remove at hstep
  split at hstep
  · refine h.of_left (by rw [hstep]) (fun e he => ?_) fun e he hforeign => ?_
    · rw [hstep] at he
      exact ⟨e.2, (List.mem_filter.1 he).1, rfl, rfl⟩
    · rw [hstep]
      exact List.mem_filter.2 ⟨he, bne_iff_ne.2 fun heq => hid (heq ▸ hforeign)⟩
  · exact h.of_containers_eq (by rw [hstep]) (by rw [hstep])

/-- What is listed with the label of the profile is no container of another. -/
theorem Apart.listed (h : Apart c token listing before s) {pattern : String} {x : ContainerSummary}
    (hx : x ∈ s.1.services.containers.list pattern)
    (hprofile : x.labels.find? Label.profile = some c.profile.name) : ¬ Foreign c before x.id := by
  obtain ⟨held, hheld, rfl⟩ := List.mem_map.1 hx
  obtain ⟨e, he, rfl⟩ := List.mem_map.1 (List.mem_filter.1 hheld).1
  exact fun hforeign => h.foreign e he hforeign hprofile

theorem served_respecting (hbefore : before.Numbered) :
    (respecting c token listing before).Served
      (noting (Rehearsal.collaborators listing token).handler)
      (Apart c token listing before) := by
  intro call s hallows h
  cases call with
  | createContainer spec => exact ⟨trivial, h.create hbefore hallows rfl⟩
  | stopContainer id => exact ⟨trivial, h.stop hallows rfl⟩
  | removeContainer id => exact ⟨trivial, h.remove hallows rfl⟩
  | listContainers pattern =>
    refine ⟨?_, h.of_containers_eq rfl rfl⟩
    intro listed hlisted x hx hprofile
    cases hlisted
    exact h.listed hx hprofile
  | ensureImage image auth =>
    obtain ⟨pulls, hservices⟩ := Rehearsal.services_ensureImage listing token auth image s.1
    refine ⟨trivial, h.of_containers_eq ?_ ?_⟩
    · show ((Rehearsal.collaborators listing token).ensureImage auth image
        s.1).2.services.containers.containers = _
      rw [hservices]
    · show ((Rehearsal.collaborators listing token).ensureImage auth image
        s.1).2.services.containers.created = _
      rw [hservices]
  | rootToken => exact ⟨rfl, h.of_containers_eq rfl rfl⟩
  | listing => exact ⟨rfl, h.of_containers_eq rfl rfl⟩
  | probe port => exact ⟨trivial, h.of_containers_eq rfl rfl⟩
  | gatewayStatus => exact ⟨trivial, h.of_containers_eq rfl rfl⟩
  | describeGroup group => exact ⟨trivial, h.of_containers_eq rfl rfl⟩
  | identity call => exact ⟨trivial, h.of_containers_eq rfl rfl⟩
  | management call => exact ⟨trivial, h.of_containers_eq rfl rfl⟩
  | now => exact ⟨trivial, h.of_containers_eq rfl rfl⟩
  | sleep millis => exact ⟨trivial, h.of_containers_eq rfl rfl⟩

/-- Whatever happens to one platform leaves the containers of the others alone, up to names. -/
theorem Apart.occur (hbefore : before.Numbered) (h : Apart c token listing before s)
    (o : Occurrence) : Apart c token listing before (occur c token listing s o) := by
  cases o with
  | command isDirectory command =>
    have hkeeps : (command.transcript ⟨c, isDirectory⟩).Keeps (respecting c token listing before)
        fun _ => True :=
      command.keeps_transcript respecting_free (passesWithin_respecting isDirectory)
        (removalsWithin_respecting isDirectory)
    exact (hkeeps.run (served_respecting hbefore) h).2
  | pass isDirectory kind turns =>
    simp only [Platform.occur]
    split
    · next resolved hresolved =>
      have hstart : (Deployment.Underway.start (.ofConfig c (some token))
          (Pass.ofKind kind resolved).deployable).Within (respecting c token listing before) := by
        refine Deployment.Underway.within_start (fun _ _ => trivial) fun d hd spec hspec => ?_
        exact planned_of_deployable (plan_of_resolve hresolved) d hd spec hspec
      exact (hstart.turns (served_respecting hbefore) h turns).2
    · exact h
  | change services failing => exact h.of_containers_eq rfl rfl

/-! ## Sharing -/

/-- Something that happens to one of the platforms that share a runtime. -/
structure Happening where
  config : Config
  token : Token
  listing : List ListingEntry
  /-- The images that the platform has pulled. -/
  images : ImageCache
  occurrence : Occurrence

/-- What is left of the shared services when it has happened. -/
def Happening.leaves (m : Happening) (r : Rehearsal) : Rehearsal :=
  (occur m.config m.token m.listing (⟨m.images, r⟩, []) m.occurrence).1.services

/-- What is left when all this has happened to services that keep no container at first. -/
def sharing (services : Rehearsal) (happenings : List Happening) : Rehearsal :=
  happenings.foldl (fun r m => m.leaves r) (keeping services {} [])

theorem Owned.leaves {r : Rehearsal} (h : Owned r.containers) (m : Happening) :
    Owned (m.leaves r).containers :=
  ((apart_self h []).occur h.numbered m.occurrence).owned

theorem owned_sharing (services : Rehearsal) (happenings : List Happening) :
    Owned (sharing services happenings).containers := by
  have hall : ∀ (rest : List Happening) (r : Rehearsal), Owned r.containers →
      Owned (rest.foldl (fun r m => m.leaves r) r).containers := by
    intro rest
    induction rest with
    | nil => exact fun r hr => hr
    | cons m rest ih => exact fun r hr => ih _ (hr.leaves m)
  refine hall happenings _ ⟨⟨?_, ?_⟩, ?_, ?_⟩ <;> exact fun e he => absurd he List.not_mem_nil

/-! ## Names that two profiles share -/

theorem extends_of_append_eq {first second rest rest' : List Char}
    (h : first ++ '-' :: rest = second ++ '-' :: rest') :
    first = second ∨ (∃ more, second = first ++ '-' :: more) ∨
      ∃ more, first = second ++ '-' :: more := by
  rcases List.append_eq_append_iff.1 h with ⟨more, hsecond, hrest⟩ | ⟨more, hfirst, hrest⟩
  · cases more with
    | nil => exact .inl (by rw [hsecond, List.append_nil])
    | cons x more =>
      obtain ⟨rfl, _⟩ := List.cons.inj hrest
      exact .inr (.inl ⟨more, hsecond⟩)
  · cases more with
    | nil => exact .inl (by rw [hfirst, List.append_nil])
    | cons x more =>
      obtain ⟨rfl, _⟩ := List.cons.inj hrest
      exact .inr (.inr ⟨more, hfirst⟩)

/-- Of two profiles that share a name, one is the other with a hyphen and more behind it. -/
theorem extends_of_stems {first second rest rest' : String} (hne : first ≠ second)
    (h : (Naming.mk first).stem ++ rest = (Naming.mk second).stem ++ rest') :
    ∃ more, second = first ++ "-" ++ more ∨ first = second ++ "-" ++ more := by
  have hlists : first.toList ++ '-' :: rest.toList = second.toList ++ '-' :: rest'.toList := by
    have htexts := congrArg String.toList h
    simpa [Naming.stem] using htexts
  have htext : ∀ {start whole : String} {more : List Char},
      whole.toList = start.toList ++ '-' :: more →
        whole = start ++ "-" ++ String.ofList more := by
    intro start whole more hwhole
    refine String.toList_injective ?_
    rw [hwhole]
    simp
  rcases extends_of_append_eq hlists with heq | ⟨more, hmore⟩ | ⟨more, hmore⟩
  · exact absurd (String.toList_injective heq) hne
  · exact ⟨String.ofList more, .inl (htext hmore)⟩
  · exact ⟨String.ofList more, .inr (htext hmore)⟩

/-- Whatever has happened on a shared runtime, and whatever then happens to one platform, every
container of another profile stays as it is, unless the platform plans a container of its name. Then
whatever is kept under the name is planned by the platform, and one of the two profiles is the other
with a hyphen and more behind it. -/
theorem others_kept (services : Rehearsal) (happenings : List Happening) (m : Happening) :
    let before := (sharing services happenings).containers.containers
    let after := (m.leaves (sharing services happenings)).containers.containers
    let profile := m.config.profile.name
    ∀ name held, before.find? name = some held → held.profile? ≠ some profile →
      after.find? name = some held ∨
      ∃ spec other more, Planned m.config m.token m.listing spec ∧ spec.name = name ∧
        (∀ held', after.find? name = some held' →
          Planned m.config m.token m.listing held'.spec) ∧
        held.profile? = some other ∧
        (profile = other ++ "-" ++ more ∨ other = profile ++ "-" ++ more) := by
  intro before after profile name held hheld hother
  have howned := owned_sharing services happenings
  have hentry : (name, held) ∈ before.entries := Table.mem_entries_iff.2 hheld
  have hstart : Apart m.config m.token m.listing (sharing services happenings).containers
      (⟨m.images, sharing services happenings⟩, []) := apart_self howned []
  have hapart := hstart.occur howned.numbered m.occurrence
  rcases hapart.kept (name, held) hentry hother with hkept | ⟨spec, hplanned, hname, htaken⟩
  · exact .inl (Table.mem_entries_iff.1 hkept)
  · obtain ⟨other, rest, hprofile, hstem⟩ := howned.stemmed (name, held) hentry
    have hstem' : ∃ rest', spec.name = (Naming.mk profile).stem ++ rest' := by
      obtain ⟨_, _, d, _, _, hmem⟩ := hplanned
      exact (Blueprint.stem_and_labels hmem).1
    obtain ⟨rest', hstem'⟩ := hstem'
    have hne : other ≠ profile := by
      rintro rfl
      exact hother hprofile
    obtain ⟨more, hmore⟩ := extends_of_stems hne ((hstem.symm.trans hname.symm).trans hstem')
    refine .inr ⟨spec, other, more, hplanned, hname, fun held' hheld' => ?_, hprofile, hmore⟩
    exact htaken held' (Table.mem_entries_iff.2 hheld')

/-- A profile with one module, which has no sidecar. -/
def oneModule (profile module : String) : Config :=
  { profile := ⟨profile⟩
    modules := Table.ofList [(module, .explicit { Overrides.none with
      version := some "1.0.0", deploySidecar := some false })] }

/-- The business pass of a profile with one module is deployed, or removed. -/
def oneCommand (profile module : String) (command : Command) : Happening :=
  ⟨oneModule profile module, ⟨"root"⟩, [], .empty, .command (fun _ => true) command⟩

/-- What is kept for a module when other profiles have deployed and removed theirs. -/
theorem kept_beside_others :
    let happenings := [oneCommand "blue" "mod-a" .deployModules,
      oneCommand "green" "mod-a" .deployModules]
    let m := oneCommand "blue" "mod-a" .undeployModules
    ∃ held, (sharing {} happenings).containers.containers.find? "green-mod-a" = some held ∧
      held.profile? = some "green" ∧
      (m.leaves (sharing {} happenings)).containers.containers.find? "green-mod-a" = some held := by
  intro happenings m
  obtain ⟨held, hheld⟩ : ∃ held,
      (sharing {} happenings).containers.containers.find? "green-mod-a" = some held :=
    Option.isSome_iff_exists.1 (by decide +kernel)
  have hprofile : held.profile? = some "green" := by
    have hsome : ((sharing {} happenings).containers.containers.find? "green-mod-a").bind
        HeldContainer.profile? = some "green" := by decide +kernel
    rw [hheld] at hsome
    exact hsome
  refine ⟨held, hheld, hprofile, ?_⟩
  have hother : held.profile? ≠ some m.config.profile.name := by
    rw [hprofile]
    decide
  rcases others_kept {} happenings m "green-mod-a" held hheld hother with
    hkept | ⟨_, other, more, _, _, _, hlabel, hmore⟩
  · exact hkept
  · -- the profiles differ in their first letter
    cases hprofile.symm.trans hlabel
    have hblue : m.config.profile.name = "blue" := rfl
    rcases hmore with hmore | hmore <;>
      · have hlists := congrArg String.toList hmore
        simp [hblue] at hlists

/-- Two profiles of which the second begins with the first and a hyphen, both in order. The modules
`b` and `mod-b` have containers of one name, and the deployment of one profile takes the place of
the container of the other. -/
theorem replaced_across_profiles :
    let first := oneCommand "flotilla-mod" "b" .deployModules
    let second := oneCommand "flotilla" "mod-b" .deployModules
    let before := sharing {} [first]
    let profile? (r : Rehearsal) :=
      (r.containers.containers.find? "flotilla-mod-b").bind HeldContainer.profile?
    first.config.check.toBool = true ∧ second.config.check.toBool = true ∧
      profile? before = some "flotilla-mod" ∧
      profile? (second.leaves before) = some "flotilla" := by
  decide +kernel

end Platform

end Fleet
