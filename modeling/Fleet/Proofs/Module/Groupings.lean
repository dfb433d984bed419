import Fleet.Proofs.Module.Merging

/-!
# Specs in parts

What a description says about a module may be said in several entries. Merging them is associative,
so it does not matter which of them are merged first (`Grouping.foldl_mergeInto`), and an entry can
be replaced by entries that merge to it. A spec that says nothing is the unit, and saying the same
thing again changes nothing.

Each law holds because it holds of every field in which the later setting counts (`LaterWins`), and
these fields decide the overrides (`Overrides.ext_laterWins`): a key of an environment is such a
field, and so is whether the environment is there at all.

`merges_inParts` puts this together.
-/

namespace Fleet

open Resolver (LaterWins mergeEntries mergeInto entriesOf find?_mergeEntries)

/-! ## Fields decide overrides -/

/-- A table that may be absent is decided by whether it is there and by its look-ups. -/
theorem Overrides.texts_ext {t u : Option Texts}
    (hpresent : (t.map fun _ => ()) = u.map fun _ => ())
    (hfind : ∀ key, t.bind (·.find? key) = u.bind (·.find? key)) : t = u := by
  cases t with
  | none =>
    cases u with
    | none => rfl
    | some u => cases hpresent
  | some t =>
    cases u with
    | none => cases hpresent
    | some u => exact congrArg some (Table.ext_find? hfind)

theorem Overrides.present_mergeTexts (earlier later : Option Texts) :
    ((mergeTexts earlier later).map fun _ => ()) =
      (later.map fun _ => ()).or (earlier.map fun _ => ()) := by
  cases earlier <;> cases later <;> rfl

/-- Whether an environment is there is a field of which the later setting counts. -/
theorem laterWins_present_environment : LaterWins fun o => o.environment.map fun _ => () :=
  ⟨rfl, fun _ _ => Overrides.present_mergeTexts _ _⟩

theorem laterWins_present_sidecarEnvironment :
    LaterWins fun o => o.sidecarEnvironment.map fun _ => () :=
  ⟨rfl, fun _ _ => Overrides.present_mergeTexts _ _⟩

/-- Overrides are decided by the fields in which the later setting counts. -/
theorem Overrides.ext_laterWins {o o' : Overrides}
    (h : ∀ {α : Type} (field : Overrides → Option α), LaterWins field → field o = field o') :
    o = o' := by
  have henvironment : o.environment = o'.environment :=
    texts_ext (h _ laterWins_present_environment) fun key =>
      h _ (Resolver.laterWins_environment key)
  have hsidecar : o.sidecarEnvironment = o'.sidecarEnvironment :=
    texts_ext (h _ laterWins_present_sidecarEnvironment) fun key =>
      h _ (Resolver.laterWins_sidecarEnvironment key)
  cases o
  cases o'
  simp only [mk.injEq]
  exact ⟨h deployModule ⟨rfl, fun _ _ => rfl⟩, h deploySidecar ⟨rfl, fun _ _ => rfl⟩,
    h useVault ⟨rfl, fun _ _ => rfl⟩, h useGatewayUrl ⟨rfl, fun _ _ => rfl⟩,
    h disableSystemUser ⟨rfl, fun _ _ => rfl⟩, h version ⟨rfl, fun _ _ => rfl⟩,
    h port Resolver.laterWins_port, h privatePort Resolver.laterWins_privatePort,
    h memoryMb ⟨rfl, fun _ _ => rfl⟩, h cpus ⟨rfl, fun _ _ => rfl⟩, henvironment, hsidecar,
    h localPath ⟨rfl, fun _ _ => rfl⟩⟩

namespace Overrides

theorem merge_assoc (a b c : Overrides) : (a.merge b).merge c = a.merge (b.merge c) := by
  refine ext_laterWins fun field h => ?_
  rw [h.merge, h.merge, h.merge, h.merge, Option.or_assoc]

theorem merge_self (a : Overrides) : a.merge a = a := by
  refine ext_laterWins fun field h => ?_
  rw [h.merge, Option.or_self]

end Overrides

namespace ModuleSpec

theorem standard_merge (a : ModuleSpec) : standard.merge a = a := by
  cases a <;> rfl

theorem merge_standard (a : ModuleSpec) : a.merge standard = a := by
  cases a <;> rfl

theorem merge_assoc (a b c : ModuleSpec) : (a.merge b).merge c = a.merge (b.merge c) := by
  cases c with
  | standard => rw [merge_standard, merge_standard]
  | explicit c =>
    cases b with
    | standard => rw [merge_standard, standard_merge]
    | explicit b =>
      cases a with
      | standard => rw [standard_merge, standard_merge]
      | explicit a => exact congrArg explicit (Overrides.merge_assoc a b c)

theorem merge_self (a : ModuleSpec) : a.merge a = a := by
  cases a with
  | standard => rfl
  | explicit a => exact congrArg explicit (Overrides.merge_self a)

end ModuleSpec

/-! ## Groupings -/

/-- Specs that are merged two at a time, in any grouping. -/
inductive Grouping
  | entry (spec : ModuleSpec)
  | both (earlier later : Grouping)

namespace Grouping

/-- The specs, in their order. -/
def specs : Grouping → List ModuleSpec
  | entry spec => [spec]
  | both earlier later => earlier.specs ++ later.specs

/-- What the specs merge to. -/
def merged : Grouping → ModuleSpec
  | entry spec => spec
  | both earlier later => earlier.merged.merge later.merged

/-- Entries of one name that are merged one after another come to the same as in the grouping. -/
theorem foldl_mergeInto (g : Grouping) (name : String) (spec? : Option ModuleSpec) :
    (g.specs.map fun spec => (name, spec)).foldl mergeInto spec? =
      mergeInto spec? (name, g.merged) := by
  induction g generalizing spec? with
  | entry spec => rfl
  | both earlier later ihEarlier ihLater =>
    rw [specs, List.map_append, List.foldl_append, ihEarlier, ihLater]
    exact congrArg some (ModuleSpec.merge_assoc _ _ _)

/-- The entries of a name merge to its spec in any grouping. -/
theorem find?_mergeEntries_eq {entries : List (String × ModuleSpec)} {name : String} {g : Grouping}
    (h : (entriesOf entries name).map (·.2) = g.specs) :
    (mergeEntries entries).find? name = some g.merged := by
  have hown : entriesOf entries name = g.specs.map fun spec => (name, spec) := by
    rw [← h, List.map_map]
    refine ((List.map_congr_left fun e he => ?_).trans (List.map_id _)).symm
    have hname : e.1 = name := by simpa using (List.mem_filter.1 he).2
    exact Prod.ext hname.symm rfl
  rw [find?_mergeEntries, hown, foldl_mergeInto, mergeInto, Option.getD_none,
    ModuleSpec.standard_merge]

/-- An entry can be split into entries that merge to it. -/
theorem mergeEntries_split (g : Grouping) (name : String)
    (before behind : List (String × ModuleSpec)) :
    mergeEntries (before ++ g.specs.map (fun spec => (name, spec)) ++ behind) =
      mergeEntries (before ++ (name, g.merged) :: behind) := by
  refine Table.ext_find? fun other => ?_
  rw [find?_mergeEntries, find?_mergeEntries]
  simp only [entriesOf, List.filter_append, List.filter_cons, List.foldl_append]
  by_cases hname : name = other
  · have hall : (g.specs.map fun spec => (name, spec)).filter (fun e => e.1 = other) =
        g.specs.map fun spec => (name, spec) := by
      simp [List.filter_eq_self, hname]
    rw [hall, foldl_mergeInto, if_pos (by simpa using hname), List.foldl_cons]
  · have hnone : (g.specs.map fun spec => (name, spec)).filter (fun e => e.1 = other) = [] := by
      simp [List.filter_eq_nil_iff, hname]
    rw [hnone, if_neg (by simpa using hname), List.foldl_nil]

variable {α : Type} {field : Overrides → Option α} {value : α} {g : Grouping}
  {whole part : ModuleSpec}

/-- What merged specs set a field to, one of them sets it to. -/
theorem exists_of_merged (h : LaterWins field) (hvalue : field g.merged.overrides = some value) :
    ∃ part ∈ g.specs, field part.overrides = some value := by
  induction g with
  | entry spec => exact ⟨spec, List.mem_cons_self, hvalue⟩
  | both earlier later ihEarlier ihLater =>
    rw [merged, h.merge_spec, Option.or_eq_some_iff] at hvalue
    rcases hvalue with hlater | ⟨_, hearlier⟩
    · obtain ⟨part, hpart, hset⟩ := ihLater hlater
      exact ⟨part, List.mem_append_right _ hpart, hset⟩
    · obtain ⟨part, hpart, hset⟩ := ihEarlier hearlier
      exact ⟨part, List.mem_append_left _ hpart, hset⟩

/-- Merged specs set every field that one of them sets. -/
theorem isSome_merged (h : LaterWins field) (hpart : part ∈ g.specs)
    (hset : (field part.overrides).isSome) : (field g.merged.overrides).isSome := by
  induction g with
  | entry spec => exact List.mem_singleton.1 hpart ▸ hset
  | both earlier later ihEarlier ihLater =>
    rw [merged, h.merge_spec, Option.isSome_or, Bool.or_eq_true]
    rcases List.mem_append.1 hpart with hpart | hpart
    · exact .inr (ihEarlier hpart)
    · exact .inl (ihLater hpart)

end Grouping

/-- The settings of a spec are split over others: it sets a field to a value exactly if one of them
does. -/
def Splits (whole : ModuleSpec) (parts : List ModuleSpec) : Prop :=
  ∀ {α : Type} (field : Overrides → Option α), LaterWins field → ∀ value,
    field whole.overrides = some value ↔ ∃ part ∈ parts, field part.overrides = some value

/-- Specs over which settings are split merge to these settings. -/
theorem Splits.merged_eq {whole : ModuleSpec} {g : Grouping} (h : Splits whole g.specs) :
    g.merged.overrides = whole.overrides := by
  refine Overrides.ext_laterWins fun field hfield => Option.ext fun value => ?_
  constructor
  · exact fun hmerged => (h field hfield value).2 (Grouping.exists_of_merged hfield hmerged)
  · intro hwhole
    obtain ⟨part, hpart, hset⟩ := (h field hfield value).1 hwhole
    have hsome := Grouping.isSome_merged hfield hpart (Option.isSome_of_eq_some hset)
    obtain ⟨other, hother⟩ := Option.isSome_iff_exists.1 hsome
    have hsame := (h field hfield other).2 (Grouping.exists_of_merged hfield hother)
    rw [hother, ← hsame, hwhole]

/-- Settings are split over specs exactly if these merge to them and no spec says anything else. -/
theorem splits_iff {whole : ModuleSpec} {g : Grouping} : Splits whole g.specs ↔
    g.merged.overrides = whole.overrides ∧
      ∀ part ∈ g.specs, (whole.merge part).overrides = whole.overrides := by
  constructor
  · intro h
    refine ⟨h.merged_eq, fun part hpart => Overrides.ext_laterWins fun field hfield => ?_⟩
    rw [hfield.merge_spec]
    cases hset : field part.overrides with
    | none => rfl
    | some value => exact ((h field hfield value).2 ⟨part, hpart, hset⟩).symm
  · rintro ⟨hmerged, hnothing⟩ α field hfield value
    constructor
    · intro hwhole
      rw [← hmerged] at hwhole
      exact Grouping.exists_of_merged hfield hwhole
    · rintro ⟨part, hpart, hset⟩
      have hsame := congrArg field (hnothing part hpart)
      rw [hfield.merge_spec, hset] at hsame
      exact hsame.symm

/-! ## The laws of merging -/

/-- Environments merge by key: the later value of a key counts, and one that is absent erases
nothing. -/
structure MergesByKey (environment : Overrides → Option Texts) : Prop where
  find? : ∀ (earlier later : ModuleSpec) (key : String),
    (environment (earlier.merge later).overrides).bind (·.find? key) =
      ((environment later.overrides).bind (·.find? key)).or
        ((environment earlier.overrides).bind (·.find? key))
  present : ∀ earlier later : ModuleSpec, (environment (earlier.merge later).overrides).isSome =
    ((environment later.overrides).isSome || (environment earlier.overrides).isSome)

/-- A field that is such an environment, and whose presence is one too, merges by key. -/
theorem MergesByKey.of_laterWins {environment : Overrides → Option Texts}
    (hfind : ∀ key, LaterWins fun o => (environment o).bind (·.find? key))
    (hpresent : LaterWins fun o => (environment o).map fun _ => ()) :
    MergesByKey environment where
  find? earlier later key := (hfind key).merge_spec earlier later
  present earlier later := by
    have hmerge := congrArg Option.isSome (hpresent.merge_spec earlier later)
    simpa only [Option.isSome_map, Option.isSome_or] using hmerge

/-- Specs merge as an idempotent monoid does, key by key in their environments, and what a
description says about a module may be said in parts. -/
structure MergesInParts : Prop where
  assoc : ∀ a b c : ModuleSpec, (a.merge b).merge c = a.merge (b.merge c)
  standard_left : ∀ a : ModuleSpec, ModuleSpec.standard.merge a = a
  standard_right : ∀ a : ModuleSpec, a.merge .standard = a
  self : ∀ a : ModuleSpec, a.merge a = a
  environment : MergesByKey Overrides.environment
  sidecarEnvironment : MergesByKey Overrides.sidecarEnvironment
  /-- The entries of a name merge to its spec in any grouping. -/
  grouped : ∀ (entries : List (String × ModuleSpec)) (name : String) (g : Grouping),
    (entriesOf entries name).map (·.2) = g.specs →
      (mergeEntries entries).find? name = some g.merged
  /-- An entry may be split, wherever it stands, into entries that merge to it in some grouping. -/
  split : ∀ (g : Grouping) (name : String) (before behind : List (String × ModuleSpec)),
    mergeEntries (before ++ g.specs.map (fun spec => (name, spec)) ++ behind) =
      mergeEntries (before ++ (name, g.merged) :: behind)
  /-- The settings of a spec are split over others exactly if these merge to them, in any grouping,
  and none says anything else. -/
  splits : ∀ (whole : ModuleSpec) (g : Grouping), Splits whole g.specs ↔
    g.merged.overrides = whole.overrides ∧
      ∀ part ∈ g.specs, (whole.merge part).overrides = whole.overrides

/-- What a description says about a module may be said in parts. -/
theorem ModuleSpec.merges_inParts : MergesInParts where
  assoc := ModuleSpec.merge_assoc
  standard_left := ModuleSpec.standard_merge
  standard_right := ModuleSpec.merge_standard
  self := ModuleSpec.merge_self
  environment := .of_laterWins Resolver.laterWins_environment laterWins_present_environment
  sidecarEnvironment :=
    .of_laterWins Resolver.laterWins_sidecarEnvironment laterWins_present_sidecarEnvironment
  grouped _ _ _ := Grouping.find?_mergeEntries_eq
  split := Grouping.mergeEntries_split
  splits _ _ := splits_iff

/-- The environments of two entries, of which the later one sets a variable anew. -/
example :
    (ModuleSpec.explicit { Overrides.none with
        port := some 9130, environment := some (.ofList [("A", "1"), ("B", "1")]) }).merge
      (.explicit { Overrides.none with environment := some (.ofList [("B", "2")]) }) =
    .explicit { Overrides.none with
      port := some 9130, environment := some (.ofList [("A", "1"), ("B", "2")]) } := by
  decide

end Fleet
