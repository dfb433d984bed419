import Fleet.Module.Resolve
import Fleet.Proofs.Table

/-!
# How entries merge

What a name's spec comes to is decided by the entries of that name, in their order; where entries of
other names stand between them does not matter (`mergeEntries_congr`). Of these entries the last one
that sets a field decides it (`LaterWins.eq_lastSet`). The environments are no exception: a key of
an environment is a field in this respect (`laterWins_environment`).
-/

namespace Fleet

theorem Overrides.find?_mergeTexts (earlier later : Option Texts) (key : String) :
    (mergeTexts earlier later).bind (·.find? key) =
      (later.bind (·.find? key)).or (earlier.bind (·.find? key)) := by
  cases later with
  | none => cases earlier <;> rfl
  | some later =>
    cases earlier with
    | none => exact (Option.or_none).symm
    | some earlier => exact Table.find?_overlay earlier later key

namespace Resolver

/-! ## Entries of one name -/

/-- The entries of a name, in their order. -/
def entriesOf (entries : List (String × ModuleSpec)) (name : String) : List (String × ModuleSpec) :=
  entries.filter fun e => e.1 = name

/-- Both lists have the same entries of each name, in the same order: one is a reordering of the
other that moves no entry past another one of its name. -/
def SameByName (entries entries' : List (String × ModuleSpec)) : Prop :=
  ∀ name, entriesOf entries name = entriesOf entries' name

/-- An entry is merged into what the entries of its name have come to. -/
def mergeInto (spec? : Option ModuleSpec) (e : String × ModuleSpec) : Option ModuleSpec :=
  some ((spec?.getD .standard).merge e.2)

/-- A name has the spec to which its own entries merge. -/
theorem find?_mergeEntries (entries : List (String × ModuleSpec)) (name : String) :
    (mergeEntries entries).find? name = (entriesOf entries name).foldl mergeInto none := by
  -- the entries merge into what is in the table already
  suffices hfold : ∀ t : Table String ModuleSpec,
      (entries.foldl (fun t e => t.insert e.1 (((t.find? e.1).getD .standard).merge e.2)) t).find?
        name = (entriesOf entries name).foldl mergeInto (t.find? name) from hfold .empty
  induction entries with
  | nil => exact fun t => rfl
  | cons e rest ih =>
    intro t
    rw [List.foldl_cons, ih, Table.find?_insert, entriesOf, entriesOf]
    by_cases hname : e.1 = name
    · rw [List.filter_cons_of_pos (by simpa using hname), List.foldl_cons, if_pos hname.symm, hname]
      rfl
    · rw [List.filter_cons_of_neg (by simpa using hname), if_neg (Ne.symm hname)]

/-- The merged entries are of the names that have an entry. -/
theorem isSome_find?_mergeEntries (entries : List (String × ModuleSpec)) (name : String) :
    ((mergeEntries entries).find? name).isSome ↔ ∃ e ∈ entries, e.1 = name := by
  have hfold : ∀ own : List (String × ModuleSpec),
      (own.foldl mergeInto none).isSome = true ↔ own ≠ [] := by
    intro own
    rcases own.eq_nil_or_concat with rfl | ⟨before, e, rfl⟩
    · simp
    · simp [mergeInto]
  rw [find?_mergeEntries, hfold, entriesOf, Ne, List.filter_eq_nil_iff]
  simp

/-- Entries of other names do not matter. -/
theorem mergeEntries_congr {entries entries' : List (String × ModuleSpec)}
    (h : SameByName entries entries') : mergeEntries entries = mergeEntries entries' := by
  refine Table.ext_find? fun name => ?_
  rw [find?_mergeEntries, find?_mergeEntries, h name]

/-- The overrides that the entries of a name merge to. -/
def overridesOf (entries : List (String × ModuleSpec)) (name : String) : Overrides :=
  (((mergeEntries entries).find? name).getD .standard).overrides

theorem overridesOf_eq {entries : List (String × ModuleSpec)} {e : String × ModuleSpec}
    (he : e ∈ (mergeEntries entries).entries) : overridesOf entries e.1 = e.2.overrides := by
  have hfind : (mergeEntries entries).find? e.1 = some e.2 := Table.mem_entries_iff.1 he
  simp only [overridesOf, hfind, Option.getD_some]

/-! ## The last entry that sets a field -/

/-- A field of which the later setting counts: `Overrides.port` is one. -/
structure LaterWins {α : Type} (field : Overrides → Option α) : Prop where
  none : field .none = .none
  merge : ∀ earlier later, field (earlier.merge later) = (field later).or (field earlier)

theorem laterWins_port : LaterWins Overrides.port := ⟨rfl, fun _ _ => rfl⟩

theorem laterWins_privatePort : LaterWins Overrides.privatePort := ⟨rfl, fun _ _ => rfl⟩

/-- A key of an environment is a field of which the later setting counts. -/
theorem laterWins_environment (key : String) :
    LaterWins fun o => o.environment.bind (·.find? key) :=
  ⟨rfl, fun earlier later => Overrides.find?_mergeTexts earlier.environment later.environment key⟩

theorem laterWins_sidecarEnvironment (key : String) :
    LaterWins fun o => o.sidecarEnvironment.bind (·.find? key) :=
  ⟨rfl, fun earlier later =>
    Overrides.find?_mergeTexts earlier.sidecarEnvironment later.sidecarEnvironment key⟩

theorem LaterWins.merge_spec {α : Type} {field : Overrides → Option α} (h : LaterWins field)
    (earlier later : ModuleSpec) :
    field (earlier.merge later).overrides =
      (field later.overrides).or (field earlier.overrides) := by
  cases later with
  | standard =>
    show field earlier.overrides = (field Overrides.none).or (field earlier.overrides)
    rw [h.none, Option.none_or]
  | explicit o =>
    cases earlier with
    | standard =>
      show field o = (field o).or (field Overrides.none)
      rw [h.none, Option.or_none]
    | explicit o' => exact h.merge o' o

/-- What the last entry of a name sets a field to, of those that set it. -/
def lastSet {α : Type} (entries : List (String × ModuleSpec)) (name : String)
    (field : Overrides → Option α) : Option α :=
  ((entriesOf entries name).filterMap fun e => field e.2.overrides).getLast?

theorem isSome_lastSet {α : Type} {entries : List (String × ModuleSpec)} {name : String}
    {field : Overrides → Option α} :
    (lastSet entries name field).isSome ↔
      ∃ e ∈ entries, e.1 = name ∧ (field e.2.overrides).isSome := by
  rw [lastSet, List.getLast?_isSome, Ne, List.filterMap_eq_nil_iff]
  simp [entriesOf, Option.isSome_iff_ne_none]

/-- Of the entries of a name, the last one that sets a field counts. -/
theorem LaterWins.eq_lastSet {α : Type} {field : Overrides → Option α} (h : LaterWins field)
    (entries : List (String × ModuleSpec)) (name : String) :
    field (overridesOf entries name) = lastSet entries name field := by
  have hfold : ∀ (own : List (String × ModuleSpec)) (spec? : Option ModuleSpec),
      field ((own.foldl mergeInto spec?).getD .standard).overrides =
        ((own.filterMap fun e => field e.2.overrides).getLast?).or
          (field (spec?.getD .standard).overrides) := by
    intro own
    induction own with
    | nil => exact fun spec? => rfl
    | cons e rest ih =>
      intro spec?
      rw [List.foldl_cons, ih, mergeInto, Option.getD_some, h.merge_spec, ← Option.or_assoc,
        List.filterMap_cons]
      congr 1
      cases field e.2.overrides with
      | none => exact Option.or_none
      | some value =>
        show _ = List.getLast? (value :: _)
        rw [List.getLast?_cons]
        cases (rest.filterMap fun e => field e.2.overrides).getLast? <;> rfl
  rw [overridesOf, find?_mergeEntries, hfold, lastSet, Option.getD_none]
  show Option.or _ (field Overrides.none) = _
  rw [h.none, Option.or_none]

/-- A merged entry sets what the last entry of its name sets. -/
theorem LaterWins.of_merged {α : Type} {field : Overrides → Option α} (h : LaterWins field)
    {entries : List (String × ModuleSpec)} {e : String × ModuleSpec}
    (he : e ∈ (mergeEntries entries).entries) :
    field e.2.overrides = lastSet entries e.1 field := by
  rw [← overridesOf_eq he, h.eq_lastSet]

/-- The merged entries of a name leave a field open exactly if each of them does. -/
theorem overridesOf_eq_none_iff {α : Type} {field : Overrides → Option α} (h : LaterWins field)
    (entries : List (String × ModuleSpec)) (name : String) :
    field (overridesOf entries name) = none ↔
      ∀ e ∈ entries, e.1 = name → field e.2.overrides = none := by
  rw [h.eq_lastSet, ← Option.not_isSome_iff_eq_none, isSome_lastSet]
  simp only [not_exists, not_and, Option.not_isSome_iff_eq_none]

end Resolver

end Fleet
