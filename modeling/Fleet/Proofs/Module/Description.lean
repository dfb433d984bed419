import Fleet.Proofs.Module.Assignment

/-!
# What resolved modules are made of

Every field of a descriptor but for its ports is decided by the entries of its name: the last one
that sets the field counts, and where none does, what is usual for the name (`Described`). The
version may come from the listing instead, of which the last entry that offers the name counts. The
ports are a matter of the allocator.
-/

namespace Fleet

namespace ListingEntry

/-- The version of a name in the last entry that offers one. -/
def lastVersion (listing : List ListingEntry) (name : String) : Option String :=
  ((offered listing).filter fun id => id.name = name).getLast?.map (·.version)

theorem find?_versions (listing : List ListingEntry) (name : String) :
    (versions listing).find? name = lastVersion listing name := by
  rw [versions, Table.find?_ofList, Table.lastUnder, lastVersion, List.filter_map, List.map_map,
    List.getLast?_map]
  rfl

end ListingEntry

namespace Resolver

/-- The version of a name: the one set last, else the one listed last. -/
def lastVersion? (entries : List (String × ModuleSpec)) (listing : List ListingEntry)
    (name : String) : Option String :=
  (lastSet entries name (·.version)).or (ListingEntry.lastVersion listing name)

/-- Every field of a descriptor but for its ports is what the last entry of its name says that sets
the field, and else what is usual for the name. -/
structure Described (r : Resolver) (entries : List (String × ModuleSpec))
    (listing : List ListingEntry) (d : Descriptor) : Prop where
  deployModule : d.flags.deployModule =
    (lastSet entries d.name (·.deployModule)).getD (Flags.ofName d.name).deployModule
  deploySidecar : d.flags.deploySidecar =
    (lastSet entries d.name (·.deploySidecar)).getD (Flags.ofName d.name).deploySidecar
  useVault : d.flags.useVault =
    (lastSet entries d.name (·.useVault)).getD (Flags.ofName d.name).useVault
  useGatewayUrl : d.flags.useGatewayUrl =
    (lastSet entries d.name (·.useGatewayUrl)).getD (Flags.ofName d.name).useGatewayUrl
  disableSystemUser : d.flags.disableSystemUser =
    (lastSet entries d.name (·.disableSystemUser)).getD (Flags.ofName d.name).disableSystemUser
  version : d.version = (lastVersion? entries listing d.name).getD ""
  /-- A module without a version is not deployed. -/
  unversioned : lastVersion? entries listing d.name = none → d.flags.deployModule = false
  memoryMb : d.memoryMb = (lastSet entries d.name (·.memoryMb)).getD standardMemoryMb
  cpus : d.cpus = lastSet entries d.name (·.cpus)
  localPath : d.localPath = lastSet entries d.name (·.localPath)
  localImage : d.localImage = (lastSet entries d.name (·.localPath)).isSome
  image : d.image =
    if ∃ e ∈ entries, e.1 = d.name ∧ e.2.overrides.localPath.isSome then
      d.name ++ ":" ++ d.version
    else r.imageNamespace ++ "/" ++ d.name ++ ":" ++ d.version
  environment : ∀ key,
    d.environment.find? key = lastSet entries d.name fun o => o.environment.bind (·.find? key)
  sidecarEnvironment : ∀ key, d.sidecarEnvironment.find? key =
    lastSet entries d.name fun o => o.sidecarEnvironment.bind (·.find? key)

/-- A version is settled if there is one, or if there need not be one. -/
theorem versionOf_ok {name version : String} {o : Overrides} {versions : Table String String}
    (h : versionOf name o versions = .ok version) :
    version = (o.version.or (versions.find? name)).getD "" ∧
      (o.version.or (versions.find? name) = none → (flagsOf name o).deployModule = false) := by
  simp only [versionOf] at h
  split at h
  · next hfound =>
    cases h
    rw [hfound]
    exact ⟨rfl, fun hnone => nomatch hnone⟩
  · next hnone =>
    split at h
    · cases h
    · next hdeploy =>
      cases h
      rw [hnone]
      exact ⟨rfl, fun _ => Bool.eq_false_iff.2 hdeploy⟩

/-- A settled module is described by the entries of its name. -/
theorem described_of_settled {r : Resolver} {entries : List (String × ModuleSpec)}
    {listing : List ListingEntry} {e : String × ModuleSpec} {p : Pending}
    (he : e ∈ (mergeEntries entries).entries)
    (h : r.settle (ListingEntry.versions listing) e.1 e.2 = .ok p) :
    r.Described entries listing p.descriptor := by
  have hlast {α : Type} (field : Overrides → Option α) (hfield : LaterWins field) :
      field e.2.overrides = lastSet entries e.1 field := hfield.of_merged he
  have htext (texts : Option Texts) (key : String) :
      (texts.getD .empty).find? key = texts.bind (·.find? key) := by
    cases texts <;> rfl
  simp only [settle] at h
  split at h
  · cases h
  · next version hversion =>
    split at h
    · cases h
    · cases h
      obtain ⟨hversion, hunversioned⟩ := versionOf_ok hversion
      rw [hlast (·.version) ⟨rfl, fun _ _ => rfl⟩, ListingEntry.find?_versions]
        at hversion hunversioned
      have hlocal : e.2.overrides.localPath = lastSet entries e.1 (·.localPath) :=
        hlast (·.localPath) ⟨rfl, fun _ _ => rfl⟩
      exact {
        deployModule := congrArg (Option.getD · _) (hlast (·.deployModule) ⟨rfl, fun _ _ => rfl⟩)
        deploySidecar := congrArg (Option.getD · _) (hlast (·.deploySidecar) ⟨rfl, fun _ _ => rfl⟩)
        useVault := congrArg (Option.getD · _) (hlast (·.useVault) ⟨rfl, fun _ _ => rfl⟩)
        useGatewayUrl := congrArg (Option.getD · _) (hlast (·.useGatewayUrl) ⟨rfl, fun _ _ => rfl⟩)
        disableSystemUser :=
          congrArg (Option.getD · _) (hlast (·.disableSystemUser) ⟨rfl, fun _ _ => rfl⟩)
        version := hversion
        unversioned := hunversioned
        memoryMb := congrArg (Option.getD · _) (hlast (·.memoryMb) ⟨rfl, fun _ _ => rfl⟩)
        cpus := hlast (·.cpus) ⟨rfl, fun _ _ => rfl⟩
        localPath := hlocal
        localImage := congrArg Option.isSome hlocal
        image := by
          show r.imageOf e.1 version e.2.overrides.localPath = _
          rw [imageOf, hlocal]
          exact if_congr isSome_lastSet rfl rfl
        environment := fun key => (htext _ key).trans (hlast _ (laterWins_environment key))
        sidecarEnvironment := fun key =>
          (htext _ key).trans (hlast _ (laterWins_sidecarEnvironment key)) }

/-- Ports do not matter for what a descriptor is made of. -/
theorem Described.withPorts {r : Resolver} {entries : List (String × ModuleSpec)}
    {listing : List ListingEntry} {d : Descriptor} (h : r.Described entries listing d) (port : Port)
    (privatePort : Option Port) : r.Described entries listing { d with port, privatePort } :=
  { h with }

/-- An assignment gives ports to a module and leaves it as it is otherwise. -/
theorem assign_ok {p : Pending} {a b : PortAllocator} {d : Descriptor}
    (h : assign p a = (.ok d, b)) :
    d = { p.descriptor with port := d.port, privatePort := d.privatePort } := by
  simp only [assign] at h
  split at h
  · split at h
    · cases h
    · split at h
      · split at h
        · cases h
        · cases h
          rfl
      · cases h
        rfl
  · cases h
    rfl

/-- Modules that are settled and assigned are described by the entries of their names. -/
theorem described_of_assigned {r : Resolver} {entries merged : List (String × ModuleSpec)}
    {listing : List ListingEntry} {ps : List Pending} {ds : List Descriptor} {a b : PortAllocator}
    (hmerged : ∀ e ∈ merged, e ∈ (mergeEntries entries).entries)
    (hps : r.settleAll (ListingEntry.versions listing) merged = .ok ps)
    (hds : assignAll ps a = (.ok ds, b)) : ∀ d ∈ ds, r.Described entries listing d := by
  have hsettled := settleAll_forall₂ hps
  clear hps
  induction hsettled generalizing a ds with
  | nil =>
    cases hds
    exact fun d hd => absurd hd List.not_mem_nil
  | cons hp _ ih =>
    rw [List.forall_mem_cons] at hmerged
    unfold assignAll at hds
    split at hds
    · cases hds
    · next d _ hd =>
      split at hds
      · cases hds
      · next ds' _ hds' =>
        cases hds
        refine List.forall_mem_cons.2 ⟨?_, ih hmerged.2 hds'⟩
        rw [assign_ok hd]
        exact (described_of_settled hmerged.1 hp).withPorts d.port d.privatePort

variable {r : Resolver} {entries : List (String × ModuleSpec)} {listing : List ListingEntry}
  {a b : PortAllocator} {t : Table String Descriptor}

/-- The modules have the names of the entries. -/
theorem isSome_find?_resolved (h : r.resolve entries listing a = (.ok t, b)) (name : String) :
    (t.find? name).isSome ↔ ∃ e ∈ entries, e.1 = name := by
  obtain ⟨ps, a', hphases⟩ := resolve_phases h
  have hkeys : t.keys = (mergeEntries entries).keys := by
    rw [Table.keys, hphases.entries_eq, List.map_map]
    exact names_of_settled hphases.settled hphases.assigned
  rw [← isSome_find?_mergeEntries, ← Table.mem_keys_iff, hkeys, Table.mem_keys_iff]

/-- Resolved modules are described by the entries of their names. -/
theorem described_of_resolved (h : r.resolve entries listing a = (.ok t, b)) {name : String}
    {d : Descriptor} (hd : t.find? name = some d) :
    d.name = name ∧ r.Described entries listing d := by
  cases ends_of_resolve h with
  | @resolved ps a' ds _ hps hpins hds =>
    have hsettled := settleAll_ok hps
    obtain ⟨_, hassigned⟩ := assignAll_draws (unassigned_of_settled hsettled) hds
    have hmem : (name, d) ∈ (byName ds).entries := Table.mem_entries_iff.2 hd
    rw [entries_assigned hsettled hassigned] at hmem
    obtain ⟨d', hd', heq⟩ := List.mem_map.1 hmem
    cases heq
    exact ⟨rfl, described_of_assigned (fun e he => he) hps hds d hd'⟩

/-- A resolution goes by the entries of each name alone: entries may be moved past those of other
names, and a field is what the last entry of its name says that sets it. -/
theorem resolve_fieldWise (r : Resolver) (entries : List (String × ModuleSpec))
    (listing : List ListingEntry) (a : PortAllocator) :
    (∀ entries', SameByName entries entries' →
      r.resolve entries' listing a = r.resolve entries listing a) ∧
    ∀ t b, r.resolve entries listing a = (.ok t, b) →
      (∀ name, (t.find? name).isSome ↔ ∃ e ∈ entries, e.1 = name) ∧
      ∀ name d, t.find? name = some d → d.name = name ∧ r.Described entries listing d := by
  refine ⟨fun entries' h => ?_, fun t b h => ⟨isSome_find?_resolved h, fun name d hd => ?_⟩⟩
  · rw [resolve, resolve, mergeEntries_congr h]
  · exact described_of_resolved h hd

/-- Two entries of one module, and one of another module between them. -/
def splitEntries : List (String × ModuleSpec) :=
  [("mod-a", .explicit { Overrides.none with
      version := some "1.0.0"
      memoryMb := some 512
      environment := some (.ofList [("LEVEL", "info"), ("REGION", "eu")]) }),
    ("mod-b", .standard),
    ("mod-a", .explicit { Overrides.none with
      memoryMb := some 1024
      environment := some (.ofList [("LEVEL", "debug")]) })]

/-- The same entries, those of one module together. -/
def groupedEntries : List (String × ModuleSpec) :=
  [("mod-b", .standard)] ++ splitEntries.filter fun e => e.1 = "mod-a"

/-- A listing with two versions of the other module, and one of them to be removed. -/
def twoVersions : List ListingEntry :=
  [.enable "mod-b-2.0.0", .enable "mod-b-2.1.0", ⟨"mod-b-3.0.0", "DISABLE"⟩]

/-- What the resolution of the entries answers and leaves. -/
def splitResolution : Outcome (Table String Descriptor) × PortAllocator :=
  Resolver.resolve ⟨"org", fun _ => true⟩ splitEntries twoVersions .standard

/-- The entry that stands between the two does not matter, and both modules are described by the
entries of their names. -/
theorem splitEntries_fieldWise :
    let split := splitResolution.1.toOption.getD .empty
    splitResolution = (.ok split, splitResolution.2) ∧
    Resolver.resolve ⟨"org", fun _ => true⟩ groupedEntries twoVersions .standard =
      splitResolution ∧
    (split.find? "mod-a").isSome ∧
    ∀ name d, split.find? name = some d →
      d.name = name ∧ Described ⟨"org", fun _ => true⟩ splitEntries twoVersions d := by
  have hresolve : splitResolution = (.ok (splitResolution.1.toOption.getD .empty),
      splitResolution.2) := Prod.ext (by decide +kernel) rfl
  have hsame : SameByName splitEntries groupedEntries := by
    intro name
    by_cases ha : "mod-a" = name
    · subst ha
      decide +kernel
    · simp [entriesOf, splitEntries, groupedEntries, ha, List.filter_cons]
  obtain ⟨hmoved, hdescribed⟩ :=
    resolve_fieldWise ⟨"org", fun _ => true⟩ splitEntries twoVersions .standard
  obtain ⟨hnames, hfields⟩ := hdescribed _ _ hresolve
  exact ⟨hresolve, hmoved _ hsame, (hnames "mod-a").2 ⟨_, List.mem_cons_self, rfl⟩, hfields⟩

/-- The later limit counts, and of the environment only the key that is set again. -/
example :
    (splitResolution.1.toOption.getD .empty).values.map
        (fun d => (d.id.text, d.memoryMb, d.environment.entries)) =
      [("mod-a-1.0.0", 1024, [("LEVEL", "debug"), ("REGION", "eu")]),
        ("mod-b-2.1.0", standardMemoryMb, [])] := by
  decide +kernel

end Resolver

end Fleet
