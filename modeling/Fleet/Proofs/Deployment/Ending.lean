import Fleet.Proofs.Deployment.Upkeep

/-!
# Every pass comes to an end

The tasks of a pass can take boundedly many turns, whatever their calls are answered
(`taken_start_le`): every turn that somebody can take uses up one of those that are left
(`turnsLeft`). And until the pass has ended, somebody can take one (`exists_isOpen`). So whatever
the order, a pass whose tasks go on as long as they can ends after so many turns.
-/

namespace Fleet.Deployment.Underway

/-- The turns that are left to tasks of sidecars: their calls, one more to end or to be given up,
and one to take note of them. -/
def sidecarsLeft : List Task → Nat
  | [] => 0
  | task :: rest => callsLeft task + 2 + sidecarsLeft rest

/-- The turns that are left to modules and to their sidecars. -/
def modulesLeft : List ModuleTask → Nat
  | [] => 0
  | m :: rest => callsLeft m.task + 1 + sidecarsLeft m.sidecar?.toList + modulesLeft rest

/-- The turns that are left to a pass, at most. -/
def turnsLeft (u : Underway) : Nat :=
  modulesLeft u.modules + sidecarsLeft u.sidecars + u.ended.length +
    if u.outcome?.isNone then 1 else 0

@[simp]
theorem sidecarsLeft_append (first later : List Task) :
    sidecarsLeft (first ++ later) = sidecarsLeft first + sidecarsLeft later := by
  induction first with
  | nil => exact (Nat.zero_add _).symm
  | cons task rest ih =>
    rw [List.cons_append, sidecarsLeft, sidecarsLeft, ih, ← Nat.add_assoc]

theorem modulesLeft_start (b : Blueprint) (ds : List Descriptor) :
    modulesLeft (ds.map (moduleTask b)) ≤ 4 * (ds.flatMap b.specsOf).length := by
  induction ds with
  | nil => exact Nat.le_refl 0
  | cons d rest ih =>
    have hcalls := callsLeft_startModule b d
    rw [List.map_cons, List.flatMap_cons, List.length_append, modulesLeft, Blueprint.specsOf,
      moduleTask]
    cases b.sidecarSpec? d with
    | none => simp [sidecarsLeft] at ih ⊢; omega
    | some spec => simp [sidecarsLeft, callsLeft_startSidecar] at ih ⊢; omega

theorem turnsLeft_start_le (b : Blueprint) (ds : List Descriptor) :
    turnsLeft (start b ds) ≤ 4 * (ds.flatMap b.specsOf).length + 1 :=
  Nat.succ_le_succ (modulesLeft_start b ds)

variable {σ : Type} {handler : Handler Call.Answer σ} {u : Underway} {s : σ}

/-- A turn changes nothing if nobody can take it, and else it is one of those that were left. -/
theorem Turned.turnsLeft_lt {t : Turn} {u' : Underway} {s' : σ} (h : Turned handler u s t u' s')
    (hbrings : ∀ task ∈ u.tasks, ∃ spec, Brings spec task) :
    (isOpen t u = false ∧ u' = u) ∨ turnsLeft u' < turnsLeft u := by
  cases h with
  | idle hidle => exact .inl ⟨hidle, rfl⟩
  | moduleUp _ hm _ =>
    right
    simp only [turnsLeft, hm, modulesLeft, sidecarsLeft_append]
    omega
  | moduleFailed ho hm _ =>
    right
    simp only [turnsLeft, ho, hm, modulesLeft, Option.isNone_none, Option.isNone_some]
    grind
  | @moduleGoesOn m _ _ _ _ hm ha hd =>
    obtain ⟨spec, hspec⟩ := hbrings m.task (by grind)
    have hless := (hspec.advances ha).callsLeft_lt hd
    right
    simp only [turnsLeft, hm, modulesLeft]
    omega
  | sidecarEnded hs _ =>
    right
    simp only [turnsLeft, hs, sidecarsLeft_append, sidecarsLeft, List.length_append,
      List.length_singleton]
    omega
  | @sidecarGoesOn _ _ task _ _ hs ha hd =>
    obtain ⟨spec, hspec⟩ := hbrings task (by grind)
    have hless := (hspec.advances ha).callsLeft_lt hd
    right
    simp only [turnsLeft, hs, sidecarsLeft_append, sidecarsLeft]
    omega
  | notedUp _ _ he =>
    right
    simp only [turnsLeft, he, List.length_cons]
    omega
  | notedFailure ho _ he =>
    right
    simp only [turnsLeft, ho, he, List.length_cons, Option.isNone_some]
    grind
  | finished ho _ _ _ =>
    right
    simp [turnsLeft, ho]
  | givenUp _ hs =>
    right
    simp only [turnsLeft, hs, sidecarsLeft_append, sidecarsLeft]
    omega

/-- How many of some turns somebody takes. -/
def taken (handler : Handler Call.Answer σ) : List Turn → Underway → σ → Nat
  | [], _, _ => 0
  | t :: rest, u, s =>
    let (u', s') := turn handler t u s
    (isOpen t u).toNat + taken handler rest u' s'

@[simp]
theorem taken_cons (t : Turn) (rest : List Turn) (u : Underway) (s : σ) :
    taken handler (t :: rest) u s = (isOpen t u).toNat +
      taken handler rest (turn handler t u s).1 (turn handler t u s).2 := rfl

theorem taken_le {specs : List ContainerSpec} (handler : Handler Call.Answer σ)
    (h : Upkeep specs (fun _ => True) u) (ts : List Turn) (s : σ) :
    turnsLeft (turns handler ts u s).1 + taken handler ts u s ≤ turnsLeft u := by
  induction ts generalizing u s with
  | nil => exact Nat.le_refl _
  | cons t rest ih =>
    have hrest := ih (h.turn (raises_true handler specs) (s := s) t) (turn handler t u s).2
    have hturn := (turned_turn handler t u s).turnsLeft_lt fun task ht =>
      (h.brings task ht).imp fun _ hspec => hspec.2
    rw [turns_cons, taken_cons]
    rcases hturn with ⟨hidle, hsame⟩ | hless
    · rw [hidle, Bool.toNat_false]
      rw [hsame] at hrest ⊢
      omega
    · have hone := Bool.toNat_le (isOpen t u)
      omega

/-- Nobody takes more turns than four for every container of the pass, and one. -/
theorem taken_start_le (handler : Handler Call.Answer σ) (b : Blueprint) (ds : List Descriptor)
    (ts : List Turn) (s : σ) :
    taken handler ts (start b ds) s ≤ 4 * (ds.flatMap b.specsOf).length + 1 := by
  have htaken := taken_le handler (upkeep_start b ds fun _ => True) ts s
  have hstart := turnsLeft_start_le b ds
  omega

end Fleet.Deployment.Underway
