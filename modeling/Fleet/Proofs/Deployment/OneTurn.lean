import Fleet.Deployment.Turns
import Fleet.Proofs.Splitting

/-!
# What a turn can do

A turn is open if somebody can take it; a turn that is not open changes nothing. `Turned` lists what
an open turn can come to, one constructor for each way, and `turned_turn` says that these are all.
As long as a pass has not ended, some turn is open (`exists_isOpen`).

A turn of a module or of a sidecar makes the next call of its task, and the other tasks stay as they
are. Nothing is said here about what these calls are.
-/

namespace Fleet.Deployment.Underway

/-- Whether somebody can take a turn. -/
def isOpen : Turn → Underway → Bool
  | .modules, u => u.outcome?.isNone && !u.modules.isEmpty
  | .sidecar index, u => decide (index < u.sidecars.length)
  | .join, u =>
    u.outcome?.isNone && u.modules.isEmpty && (!u.ended.isEmpty || u.sidecars.isEmpty)
  | .giveUp index, u =>
    match u.outcome? with
    | some (.error _) => decide (index < u.sidecars.length)
    | _ => false

variable {σ : Type}

/-- What a turn makes of a pass and of the state. -/
inductive Turned (handler : Handler Call.Answer σ) (u : Underway) (s : σ) :
    Turn → Underway → σ → Prop
  /-- Nobody can take the turn. -/
  | idle {t : Turn} (h : isOpen t u = false) : Turned handler u s t u s
  /-- The first module is up, and its sidecar may begin. -/
  | moduleUp {m : ModuleTask} {rest : List ModuleTask} {s' : σ} (ho : u.outcome? = none)
      (hm : u.modules = m :: rest) (ha : m.task.advance handler s = (.done (.ok ()), s')) :
      Turned handler u s .modules
        { u with modules := rest, sidecars := u.sidecars ++ m.sidecar?.toList } s'
  /-- The first module has failed, and with it the pass. -/
  | moduleFailed {m : ModuleTask} {rest : List ModuleTask} {e : Failure} {s' : σ}
      (ho : u.outcome? = none) (hm : u.modules = m :: rest)
      (ha : m.task.advance handler s = (.done (.error e), s')) :
      Turned handler u s .modules { u with modules := [], outcome? := some (.error e) } s'
  | moduleGoesOn {m : ModuleTask} {rest : List ModuleTask} {task : Task} {s' : σ}
      (ho : u.outcome? = none) (hm : u.modules = m :: rest)
      (ha : m.task.advance handler s = (task, s')) (hd : ∀ o, task ≠ .done o) :
      Turned handler u s .modules { u with modules := ⟨task, m.sidecar?⟩ :: rest } s'
  | sidecarEnded {first later : List Task} {task : Task} {o : Outcome Unit} {s' : σ}
      (hs : u.sidecars = first ++ task :: later) (ha : task.advance handler s = (.done o, s')) :
      Turned handler u s (.sidecar first.length)
        { u with sidecars := first ++ later, ended := u.ended ++ [o] } s'
  | sidecarGoesOn {first later : List Task} {task task' : Task} {s' : σ}
      (hs : u.sidecars = first ++ task :: later) (ha : task.advance handler s = (task', s'))
      (hd : ∀ o, task' ≠ .done o) :
      Turned handler u s (.sidecar first.length) { u with sidecars := first ++ task' :: later } s'
  /-- The pass takes note of a sidecar that is up. -/
  | notedUp {rest : List (Outcome Unit)} (ho : u.outcome? = none) (hm : u.modules = [])
      (he : u.ended = .ok () :: rest) : Turned handler u s .join { u with ended := rest } s
  /-- The pass takes note of a sidecar that has failed, and fails. -/
  | notedFailure {e : Failure} {rest : List (Outcome Unit)} (ho : u.outcome? = none)
      (hm : u.modules = []) (he : u.ended = .error e :: rest) :
      Turned handler u s .join { u with ended := rest, outcome? := some (.error e) } s
  /-- There is nothing left to take note of. -/
  | finished (ho : u.outcome? = none) (hm : u.modules = []) (he : u.ended = [])
      (hs : u.sidecars = []) : Turned handler u s .join { u with outcome? := some (.ok ()) } s
  | givenUp {first later : List Task} {task : Task} {e : Failure}
      (ho : u.outcome? = some (.error e)) (hs : u.sidecars = first ++ task :: later) :
      Turned handler u s (.giveUp first.length) { u with sidecars := first ++ later } s

variable (handler : Handler Call.Answer σ)

theorem turned_modulesTurn (u : Underway) (s : σ) :
    Turned handler u s .modules (u.modulesTurn handler s).1 (u.modulesTurn handler s).2 := by
  unfold modulesTurn
  split
  · next m rest ho hm =>
    split
    · next s' ha => exact .moduleUp ho hm ha
    · next e s' ha => exact .moduleFailed ho hm ha
    · next task s' hok herror ha =>
      refine .moduleGoesOn ho hm ha fun o hd => ?_
      cases o with
      | ok _ => exact hok hd
      | error e => exact herror e hd
  · next hclosed =>
    refine .idle ?_
    cases ho : u.outcome? with
    | some o => simp [isOpen, ho]
    | none =>
      cases hm : u.modules with
      | nil => simp [isOpen, hm]
      | cons m rest => exact absurd hm (hclosed m rest ho)

theorem turned_sidecarTurn (index : Nat) (u : Underway) (s : σ) :
    Turned handler u s (.sidecar index) (u.sidecarTurn handler index s).1
      (u.sidecarTurn handler index s).2 := by
  unfold sidecarTurn
  split
  · next hnone =>
    refine .idle ?_
    simpa [isOpen] using List.getElem?_eq_none_iff.1 hnone
  · next task ht =>
    obtain ⟨first, later, hs, rfl, herase, hset⟩ := exists_split ht
    split
    · next o s' ha =>
      rw [herase]
      exact .sidecarEnded hs ha
    · next task' s' hd ha =>
      rw [hset]
      exact .sidecarGoesOn hs ha hd

theorem turned_join (u : Underway) (s : σ) : Turned handler u s .join u.join s := by
  unfold join
  split
  · next e rest ho hm he => exact .notedFailure ho hm he
  · next rest ho hm he => exact .notedUp ho hm he
  · next ho hm he hs => exact .finished ho hm he hs
  · next hfailed hup hfinished =>
    refine .idle ?_
    cases ho : u.outcome? with
    | some o => simp [isOpen, ho]
    | none =>
      cases hm : u.modules with
      | cons m rest => simp [isOpen, hm]
      | nil =>
        cases he : u.ended with
        | cons o rest =>
          cases o with
          | ok _ => exact absurd he (hup rest ho hm)
          | error e => exact absurd he (hfailed e rest ho hm)
        | nil =>
          cases hs : u.sidecars with
          | cons task rest => simp [isOpen, he, hs]
          | nil => exact absurd hs (hfinished ho hm he)

theorem turned_giveUp (index : Nat) (u : Underway) (s : σ) :
    Turned handler u s (.giveUp index) (u.giveUp index) s := by
  unfold giveUp
  split
  · next e ho =>
    cases ht : u.sidecars[index]? with
    | some task =>
      obtain ⟨first, later, hs, rfl, herase, _⟩ := exists_split ht
      rw [herase]
      exact .givenUp ho hs
    | none =>
      have hlength : u.sidecars.length ≤ index := List.getElem?_eq_none_iff.1 ht
      rw [List.eraseIdx_of_length_le hlength]
      exact .idle (by simpa [isOpen, ho] using hlength)
  · next hclosed =>
    refine .idle ?_
    cases ho : u.outcome? with
    | none => simp [isOpen, ho]
    | some o =>
      cases o with
      | ok _ => simp [isOpen, ho]
      | error e => exact absurd ho (hclosed e)

/-- A turn that is open comes to one of these, and a turn that is not changes nothing. -/
theorem turned_turn (t : Turn) (u : Underway) (s : σ) :
    Turned handler u s t (turn handler t u s).1 (turn handler t u s).2 := by
  cases t with
  | modules => exact turned_modulesTurn handler u s
  | sidecar index => exact turned_sidecarTurn handler index u s
  | join => exact turned_join handler u s
  | giveUp index => exact turned_giveUp handler index u s

/-- As long as a pass has not ended, somebody can take a turn. -/
theorem exists_isOpen {u : Underway} (ho : u.outcome? = none) : ∃ t, isOpen t u = true := by
  cases hm : u.modules with
  | cons m rest => exact ⟨.modules, by simp [isOpen, ho, hm]⟩
  | nil =>
    cases hs : u.sidecars with
    | nil => exact ⟨.join, by simp [isOpen, ho, hm, hs]⟩
    | cons task rest => exact ⟨.sidecar 0, by simp [isOpen, hs]⟩

end Fleet.Deployment.Underway
