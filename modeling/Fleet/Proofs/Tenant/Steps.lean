import Fleet.Proofs.Course
import Fleet.Proofs.Tenant.Plan
import Fleet.Tenant.Traversal

/-!
# The steps of a traversal

A traversal stays in every partition of the plan: it obtains a token of the master realm, lists the
tenants, and visits those that are described there and carry the partition's description. If nothing
fails, the steps of these stays are taken one after another (`Stay.steps`). If something does, the
steps are cut off behind the first one that fails, and its failure is the outcome (`CutOff`).

`visitTenants_taken` says so of every course of a traversal. A law of events that goes over to what
follows a success therefore holds of a traversal if it holds of its steps (`visitTenants_lawful`).
-/

namespace Fleet.Traversal

open Program

variable {σ : Type} {handler : Handler Call.Answer σ} {c : Config} {act : Visit → Action Unit}
  {authority : Authority} {s s' : σ} {events : List Event}

/-! ## Steps -/

/-- One thing that a traversal does, with what comes of it. -/
inductive Step
  /-- A token of the master realm is asked for. -/
  | master (answer : Outcome Token)
  /-- The tenants are listed. -/
  | listing (granted : Token) (answer : Outcome (List TenantRecord))
  /-- A token of the tenant's own realm is asked for. -/
  | token (tenant : TenantRecord) (answer : Outcome Token)
  | visit (v : Visit) (answer : Outcome Unit)

namespace Step

/-- The step is taken from a state. -/
def Taken (handler : Handler Call.Answer σ) (c : Config) (act : Visit → Action Unit) :
    Step → σ → List Event → σ → Prop
  | .master answer, s, events, s' => Course handler (masterToken c).run s events answer s'
  | .listing granted answer, s, events, s' =>
    Course handler (Action.tenants granted).run s events answer s'
  | .token t answer, s, events, s' =>
    Course handler (Action.accessToken t.name .password).run s events answer s'
  | .visit v answer, s, events, s' => Course handler (act v).run s events answer s'

/-- The step, had it failed. -/
def failing (e : Failure) : Step → Step
  | .master _ => .master (.error e)
  | .listing granted _ => .listing granted (.error e)
  | .token t _ => .token t (.error e)
  | .visit v _ => .visit v (.error e)

/-- The visit that is begun. -/
def visit? : Step → Option Visit
  | .visit v _ => some v
  | _ => none

/-- The tenant that the step is about. -/
def tenant? : Step → Option TenantRecord
  | .token t _ => some t
  | .visit v _ => some v.tenant
  | _ => none

@[simp] theorem visit?_failing (e : Failure) (step : Step) :
    (step.failing e).visit? = step.visit? := by
  cases step <;> rfl

@[simp] theorem tenant?_failing (e : Failure) (step : Step) :
    (step.failing e).tenant? = step.tenant? := by
  cases step <;> rfl

end Step

/-- Steps are taken one after another. -/
def Taken (handler : Handler Call.Answer σ) (c : Config) (act : Visit → Action Unit) :
    List Step → σ → List Event → σ → Prop
  | [], s, events, s' => s' = s ∧ events = []
  | step :: rest, s, events, s' =>
    ∃ t first later, events = first ++ later ∧ step.Taken handler c act s first t ∧
      Taken handler c act rest t later s'

theorem taken_singleton {step : Step} :
    Taken handler c act [step] s events s' ↔ step.Taken handler c act s events s' := by
  constructor
  · rintro ⟨t, first, later, rfl, h, rfl, rfl⟩
    rw [List.append_nil]
    exact h
  · intro h
    exact ⟨s', events, [], (List.append_nil _).symm, h, rfl, rfl⟩

theorem taken_append {steps more : List Step} :
    Taken handler c act (steps ++ more) s events s' ↔
      ∃ t first later, events = first ++ later ∧ Taken handler c act steps s first t ∧
        Taken handler c act more t later s' := by
  induction steps generalizing s events with
  | nil =>
    constructor
    · intro h
      exact ⟨s, [], events, rfl, ⟨rfl, rfl⟩, h⟩
    · rintro ⟨t, first, later, rfl, ⟨rfl, rfl⟩, h⟩
      exact h
  | cons step rest ih =>
    constructor
    · rintro ⟨u, first, second, rfl, hstep, h⟩
      obtain ⟨t, middle, later, rfl, hrest, hmore⟩ := ih.1 h
      exact ⟨t, first ++ middle, later, (List.append_assoc _ _ _).symm,
        ⟨u, first, middle, rfl, hstep, hrest⟩, hmore⟩
    · rintro ⟨t, _, later, rfl, ⟨u, first, middle, rfl, hstep, hrest⟩, hmore⟩
      exact ⟨u, first, middle ++ later, List.append_assoc _ _ _, hstep,
        ih.2 ⟨t, middle, later, rfl, hrest, hmore⟩⟩

theorem Taken.append {steps more : List Step} {t : σ} {later : List Event}
    (h : Taken handler c act steps s events t) (h' : Taken handler c act more t later s') :
    Taken handler c act (steps ++ more) s (events ++ later) s' :=
  taken_append.2 ⟨t, events, later, rfl, h, h'⟩

/-- All steps are taken, or they are cut off behind the first one that fails. -/
def CutOff (whole taken : List Step) : Outcome Unit → Prop
  | .ok () => taken = whole
  | .error e => ∃ before step after, whole = before ++ step :: after ∧
      taken = before ++ [step.failing e]

namespace CutOff

variable {whole taken : List Step} {o : Outcome Unit}

theorem append (h : CutOff whole taken o) (before : List Step) :
    CutOff (before ++ whole) (before ++ taken) o := by
  cases o with
  | ok _ => exact congrArg (before ++ ·) h
  | error e =>
    obtain ⟨first, step, after, rfl, rfl⟩ := h
    exact ⟨before ++ first, step, after, (List.append_assoc _ _ _).symm,
      (List.append_assoc _ _ _).symm⟩

theorem extend {e : Failure} (h : CutOff whole taken (.error e)) (later : List Step) :
    CutOff (whole ++ later) taken (.error e) := by
  obtain ⟨before, step, after, rfl, rfl⟩ := h
  refine ⟨before, step, after ++ later, ?_, rfl⟩
  rw [List.append_assoc, List.cons_append]

/-- Steps behind others are cut off in the first part, or the first part is taken as a whole. -/
theorem of_append {more : List Step} (h : CutOff (whole ++ more) taken o) :
    (∃ e, o = .error e ∧ CutOff whole taken (.error e)) ∨
      ∃ rest, taken = whole ++ rest ∧ CutOff more rest o := by
  cases o with
  | ok _ => exact .inr ⟨more, h, rfl⟩
  | error e =>
    obtain ⟨before, step, after, heq, rfl⟩ := h
    rcases List.append_eq_append_iff.1 heq with ⟨skipped, rfl, rfl⟩ | ⟨rest, rfl, hrest⟩
    · exact .inr ⟨skipped ++ [step.failing e], List.append_assoc _ _ _, skipped, step, after, rfl,
        rfl⟩
    · cases rest with
      | nil =>
        obtain rfl : more = step :: after := hrest.symm
        rw [List.append_nil]
        exact .inr ⟨[step.failing e], rfl, [], step, after, rfl, rfl⟩
      | cons _ rest =>
        cases hrest
        exact .inl ⟨e, rfl, before, step, rest, rfl, rfl⟩

theorem of_singleton {step : Step} (h : CutOff [step] taken o) :
    (o = .ok () ∧ taken = [step]) ∨ ∃ e, o = .error e ∧ taken = [step.failing e] := by
  cases o with
  | ok _ => exact .inl ⟨rfl, h⟩
  | error e =>
    obtain ⟨before, failed, after, heq, rfl⟩ := h
    cases before with
    | nil =>
      cases heq
      exact .inr ⟨e, rfl, rfl⟩
    | cons _ before => cases before <;> cases heq

/-- What is begun in a traversal that is cut off would have been begun without the failure. -/
theorem prefix_filterMap {α : Type} {f : Step → Option α}
    (hf : ∀ e step, f (step.failing e) = f step) (h : CutOff whole taken o) :
    taken.filterMap f <+: whole.filterMap f := by
  cases o with
  | ok _ =>
    obtain rfl : taken = whole := h
    exact List.prefix_rfl
  | error e =>
    obtain ⟨before, step, after, rfl, rfl⟩ := h
    refine ⟨after.filterMap f, ?_⟩
    have hlast : [step.failing e].filterMap f = [step].filterMap f := by
      simp only [List.filterMap_cons, hf]
    rw [List.filterMap_append, hlast, ← List.filterMap_append, ← List.filterMap_append,
      List.append_assoc, List.singleton_append]

end CutOff

/-! ## Stays -/

/-- The step by which the token of a visit is obtained, if it takes one. -/
def tokenSteps (authority : Authority) (t : TenantRecord) (answer : Outcome Token) : List Step :=
  match authority with
  | .master => []
  | .tenant => [.token t answer]

/-- The steps of a visit in which nothing fails. -/
def visitSteps (authority : Authority) (v : Visit) : List Step :=
  tokenSteps authority v.tenant (.ok v.token) ++ [.visit v (.ok ())]

/-- Visits of tenants in their order, in a partition and with the token that the traversal says. -/
structure VisitsDue (authority : Authority) (p : Partition) (master : Token)
    (ts : List TenantRecord) (visits : List Visit) : Prop where
  tenants : visits.map (·.tenant) = ts
  here : ∀ v ∈ visits, v.partition = p
  token : authority = .master → ∀ v ∈ visits, v.token = master

namespace VisitsDue

variable {p : Partition} {master : Token} {ts : List TenantRecord} {visits : List Visit}

theorem nil : VisitsDue authority p master [] [] :=
  ⟨rfl, fun _ hv => absurd hv List.not_mem_nil, fun _ _ hv => absurd hv List.not_mem_nil⟩

theorem cons {t : TenantRecord} {granted : Token}
    (hgranted : authority = .master → granted = master)
    (h : VisitsDue authority p master ts visits) :
    VisitsDue authority p master (t :: ts) (⟨t, p, granted⟩ :: visits) where
  tenants := congrArg (t :: ·) h.tenants
  here := List.forall_mem_cons.2 ⟨rfl, h.here⟩
  token ha := List.forall_mem_cons.2 ⟨hgranted ha, h.token ha⟩

/-- Visits that a traversal does not get to. -/
theorem of_master (authority : Authority) (p : Partition) (master : Token)
    (ts : List TenantRecord) :
    VisitsDue authority p master ts (ts.map fun t => ⟨t, p, master⟩) := by
  induction ts with
  | nil => exact nil
  | cons t rest ih => exact ih.cons fun _ => rfl

end VisitsDue

/-- A stay in a partition: the token of the master realm, the tenants as they are listed, and the
visits. -/
structure Stay where
  partition : Partition
  master : Token
  live : List TenantRecord
  visits : List Visit

/-- The steps of a stay in which nothing fails. -/
def Stay.steps (authority : Authority) (x : Stay) : List Step :=
  .master (.ok x.master) :: .listing x.master (.ok x.live) ::
    x.visits.flatMap (visitSteps authority)

/-- The listed tenants that are described in the partition and carry its description are visited, in
the order of the listing. -/
def Stay.Due (c : Config) (authority : Authority) (x : Stay) : Prop :=
  VisitsDue authority x.partition x.master (x.live.filter fun t =>
    t.name ∈ c.configured x.partition ∧ t.description = x.partition.description) x.visits

/-- A stay in a partition that the traversal does not get to. -/
def Stay.unreached (p : Partition) : Stay := ⟨p, default, [], []⟩

theorem Stay.due_unreached (c : Config) (authority : Authority) (p : Partition) :
    (Stay.unreached p).Due c authority := VisitsDue.nil

/-! ## Traversals take the steps of stays -/

theorem mem_plan {direction : Direction} {p : Partition} :
    p ∈ plan c direction ↔ p ∈ c.partitions := by
  cases direction with
  | forward => exact Iff.rfl
  | reverse => exact List.mem_reverse

theorem taken_visitToken {master : Token} {t : TenantRecord} {o : Outcome Token}
    (h : Course handler (visitToken authority master t).run s events o s') :
    Taken handler c act (tokenSteps authority t o) s events s' ∧
      (authority = .master → o = .ok master) := by
  cases authority with
  | master =>
    obtain ⟨rfl, rfl, rfl⟩ := Action.course_pure.1 h
    exact ⟨⟨rfl, rfl⟩, fun _ => rfl⟩
  | tenant =>
    refine ⟨taken_singleton.2 h, ?_⟩
    intro hmaster
    cases hmaster

/-- A token that is refused cuts the visit off before it is begun. -/
theorem cutOff_tokenSteps {t : TenantRecord} {e : Failure} {granted : Token} {later : List Step}
    (hauthority : authority ≠ .master) :
    CutOff (tokenSteps authority t (.ok granted) ++ later) (tokenSteps authority t (.error e))
      (.error e) := by
  cases authority with
  | master => exact absurd rfl hauthority
  | tenant => exact ⟨[], .token t (.ok granted), later, rfl, rfl⟩

/-- Tenants are visited as is due, up to the first failure. -/
theorem visitAll_taken (c : Config) {p : Partition} {master : Token} {o : Outcome Unit} :
    ∀ {ts : List TenantRecord} {s : σ} {events : List Event} {visits : List Visit},
      Course handler (visitAll p authority master act ts) s events (visits, o) s' →
      ∃ (due : List Visit) (taken : List Step), VisitsDue authority p master ts due ∧
        CutOff (due.flatMap (visitSteps authority)) taken o ∧ Taken handler c act taken s events s'
  | [], s, events, visits, h => by
    obtain ⟨heq, rfl, rfl⟩ := course_pure.1 h
    cases heq
    exact ⟨[], [], .nil, rfl, rfl, rfl⟩
  | t :: rest, s, events, visits, h => by
    unfold visitAll at h
    obtain ⟨granted, s₁, first, later, rfl, htoken, h⟩ := course_bind.1 h
    obtain ⟨hsteps, hmaster⟩ : Taken handler c act (tokenSteps authority t granted) s first s₁ ∧
        (authority = .master → granted = .ok master) := taken_visitToken htoken
    cases granted with
    | error e =>
      -- cut off at the token: the visits of these tenants are due, but none of them is begun
      obtain ⟨heq, rfl, rfl⟩ := course_pure.1 h
      cases heq
      have hauthority : authority ≠ .master := by
        intro ha
        cases hmaster ha
      refine ⟨_, tokenSteps authority t (.error e), .of_master authority p master (t :: rest),
        ?_, ?_⟩
      · exact (cutOff_tokenSteps hauthority).extend _
      · rw [List.append_nil]
        exact hsteps
    | ok token =>
      have hgranted : authority = .master → token = master := by
        intro ha
        exact Except.ok.inj (hmaster ha)
      obtain ⟨acted, s₂, second, last, rfl, hact, h⟩ := course_bind.1 h
      have hvisit : Taken handler c act
          (tokenSteps authority t (.ok token) ++ [.visit ⟨t, p, token⟩ acted]) s
          (first ++ second) s₂ := hsteps.append (taken_singleton.2 hact)
      cases acted with
      | error e =>
        -- cut off at the visit, which has its token
        obtain ⟨heq, rfl, rfl⟩ := course_pure.1 h
        cases heq
        have hcut : CutOff (visitSteps authority ⟨t, p, token⟩)
            (tokenSteps authority t (.ok token) ++ [.visit ⟨t, p, token⟩ (.error e)]) (.error e) :=
          ⟨tokenSteps authority t (.ok token), .visit ⟨t, p, token⟩ (.ok ()), [], rfl, rfl⟩
        refine ⟨_, _, (VisitsDue.of_master authority p master rest).cons hgranted,
          hcut.extend _, ?_⟩
        rw [List.append_nil]
        exact hvisit
      | ok _ =>
        obtain ⟨⟨visits', o'⟩, s₃, third, done, rfl, hrest, h⟩ := course_bind.1 h
        obtain ⟨heq, rfl, rfl⟩ := course_pure.1 h
        cases heq
        obtain ⟨due, taken, hdue, hcut, htaken⟩ := visitAll_taken c hrest
        refine ⟨⟨t, p, token⟩ :: due, _, hdue.cons hgranted, hcut.append _, ?_⟩
        rw [List.append_nil, ← List.append_assoc]
        exact hvisit.append htaken

theorem filter_selects (c : Config) (p : Partition) (live : List TenantRecord) :
    live.filter (selects c p) = live.filter fun t =>
      t.name ∈ c.configured p ∧ t.description = p.description := by
  apply List.filter_congr
  intro t _
  rw [selects, Bool.eq_iff_iff, decide_eq_true_iff, Bool.and_eq_true, beq_iff_eq,
    List.contains_iff_mem, and_comm]

/-- A partition is dealt with in one stay, up to the first failure. -/
theorem visitPartition_taken {p : Partition} {visits : List Visit} {o : Outcome Unit}
    (h : Course handler (visitPartition c authority act p) s events (visits, o) s') :
    ∃ (x : Stay) (taken : List Step), x.partition = p ∧ x.Due c authority ∧
      CutOff (x.steps authority) taken o ∧ Taken handler c act taken s events s' := by
  unfold visitPartition at h
  obtain ⟨granted, s₁, first, later, rfl, hmaster, h⟩ := course_bind.1 h
  have htoken : Taken handler c act [.master granted] s first s₁ := taken_singleton.2 hmaster
  cases granted with
  | error e =>
    obtain ⟨heq, rfl, rfl⟩ := course_pure.1 h
    cases heq
    refine ⟨.unreached p, _, rfl, Stay.due_unreached c authority p, ⟨[], _, _, rfl, rfl⟩, ?_⟩
    rw [List.append_nil]
    exact htoken
  | ok master =>
    obtain ⟨listed, s₂, second, last, rfl, hlisting, h⟩ := course_bind.1 h
    have hopening : Taken handler c act [.master (.ok master), .listing master listed] s
        (first ++ second) s₂ := htoken.append (taken_singleton.2 hlisting)
    cases listed with
    | error e =>
      obtain ⟨heq, rfl, rfl⟩ := course_pure.1 h
      cases heq
      refine ⟨⟨p, master, [], []⟩, _, rfl, VisitsDue.nil,
        ⟨[.master (.ok master)], _, _, rfl, rfl⟩, ?_⟩
      rw [List.append_nil]
      exact hopening
    | ok live =>
      obtain ⟨due, taken, hdue, hcut, htaken⟩ := visitAll_taken c h
      rw [filter_selects] at hdue
      refine ⟨⟨p, master, live, due⟩, _, rfl, hdue,
        hcut.append [.master (.ok master), .listing master (.ok live)], ?_⟩
      rw [← List.append_assoc]
      exact hopening.append htaken

/-- Partitions are dealt with one after another, up to the first failure. -/
theorem journey_taken :
    ∀ {ps : List Partition} {s : σ} {events : List Event} {j : Journey},
      Course handler (journey c authority act ps) s events j s' →
      ∃ (stays : List Stay) (taken : List Step), stays.map (·.partition) = ps ∧
        (∀ x ∈ stays, x.Due c authority) ∧
        CutOff (stays.flatMap (Stay.steps authority)) taken j.outcome ∧
        Taken handler c act taken s events s'
  | [], s, events, j, h => by
    obtain ⟨rfl, rfl, rfl⟩ := course_pure.1 h
    exact ⟨[], [], rfl, fun _ hx => absurd hx List.not_mem_nil, rfl, rfl, rfl⟩
  | p :: rest, s, events, j, h => by
    unfold journey at h
    obtain ⟨⟨visits, o⟩, s₁, first, later, rfl, hpartition, h⟩ := course_bind.1 h
    obtain ⟨x, taken, hx, hdue, hcut, htaken⟩ := visitPartition_taken hpartition
    cases o with
    | error e =>
      obtain ⟨rfl, rfl, rfl⟩ := course_pure.1 h
      refine ⟨x :: rest.map Stay.unreached, taken, ?_, ?_, hcut.extend _, ?_⟩
      · have hrest : (rest.map Stay.unreached).map (·.partition) = rest := by
          rw [List.map_map]
          exact List.map_id rest
        rw [List.map_cons, hx, hrest]
      · apply List.forall_mem_cons.2 ⟨hdue, ?_⟩
        intro y hy
        obtain ⟨q, _, rfl⟩ := List.mem_map.1 hy
        exact Stay.due_unreached c authority q
      · rw [List.append_nil]
        exact htaken
    | ok _ =>
      obtain ⟨j', s₂, second, done, rfl, hrest, h⟩ := course_bind.1 h
      obtain ⟨rfl, rfl, rfl⟩ := course_pure.1 h
      obtain rfl : taken = x.steps authority := hcut
      obtain ⟨stays, taken', hstays, hdues, hcut', htaken'⟩ := journey_taken hrest
      refine ⟨x :: stays, _, ?_, List.forall_mem_cons.2 ⟨hdue, hdues⟩,
        hcut'.append (x.steps authority), ?_⟩
      · rw [List.map_cons, hx, hstays]
      · rw [List.append_nil]
        exact htaken.append htaken'

/-- A traversal takes the steps of its stays, up to the first failure. -/
theorem visitTenants_taken {direction : Direction} {o : Outcome Unit}
    (h : Course handler (visitTenants c direction authority act).run s events o s') :
    ∃ (stays : List Stay) (taken : List Step), stays.map (·.partition) = plan c direction ∧
      (∀ x ∈ stays, x.Due c authority) ∧
      CutOff (stays.flatMap (Stay.steps authority)) taken o ∧
      Taken handler c act taken s events s' := by
  obtain ⟨j, s₁, first, last, rfl, hjourney, hdone⟩ := course_bind.1 h
  obtain ⟨rfl, rfl, rfl⟩ := course_pure.1 hdone
  rw [List.append_nil]
  exact journey_taken hjourney

/-! ## Laws of traversals -/

section Laws

variable {P : List Event → Outcome Unit → Prop}

/-- A law of events and outcomes holds of steps, wherever they are cut off. -/
def Lawful (handler : Handler Call.Answer σ) (c : Config) (act : Visit → Action Unit)
    (P : List Event → Outcome Unit → Prop) (steps : List Step) : Prop :=
  ∀ taken s events o s', CutOff steps taken o → Taken handler c act taken s events s' → P events o

theorem lawful_nil (hnil : P [] (.ok ())) : Lawful handler c act P [] := by
  intro taken s events o s' hcut htaken
  cases o with
  | ok _ =>
    obtain rfl : taken = [] := hcut
    obtain ⟨rfl, rfl⟩ := htaken
    exact hnil
  | error e =>
    obtain ⟨before, step, after, heq, _⟩ := hcut
    cases before <;> cases heq

variable (happend : ∀ {first later o}, P first (.ok ()) → P later o → P (first ++ later) o)

include happend

theorem Lawful.append {steps more : List Step} (h : Lawful handler c act P steps)
    (h' : Lawful handler c act P more) : Lawful handler c act P (steps ++ more) := by
  intro taken s events o s' hcut htaken
  rcases hcut.of_append with ⟨e, rfl, hpart⟩ | ⟨rest, rfl, hpart⟩
  · exact h _ _ _ _ _ hpart htaken
  · obtain ⟨t, first, later, rfl, hfirst, hlater⟩ := taken_append.1 htaken
    exact happend (h steps _ _ (.ok ()) _ rfl hfirst) (h' _ _ _ _ _ hpart hlater)

theorem lawful_flatMap (hnil : P [] (.ok ())) {α : Type} {f : α → List Step} {l : List α}
    (h : ∀ x ∈ l, Lawful handler c act P (f x)) : Lawful handler c act P (l.flatMap f) := by
  induction l with
  | nil => exact lawful_nil hnil
  | cons x rest ih =>
    obtain ⟨hx, hrest⟩ := List.forall_mem_cons.1 h
    exact hx.append happend (ih hrest)

/-- A law that goes over to what follows a success holds of a traversal, if it holds of opening a
stay and of every visit. -/
theorem visitTenants_lawful {direction : Direction} {o : Outcome Unit} (hnil : P [] (.ok ()))
    (hopening : ∀ step, step.tenant? = none → Lawful handler c act P [step])
    (hvisit : ∀ v, Lawful handler c act P (visitSteps authority v))
    (h : Course handler (visitTenants c direction authority act).run s events o s') :
    P events o := by
  obtain ⟨stays, taken, _, _, hcut, htaken⟩ := visitTenants_taken h
  refine lawful_flatMap happend hnil ?_ _ _ _ _ _ hcut htaken
  intro x _
  have hvisits : Lawful handler c act P (x.visits.flatMap (visitSteps authority)) :=
    lawful_flatMap happend hnil fun v _ => hvisit v
  have hmaster := hopening (.master (.ok x.master)) rfl
  have hlisting := hopening (.listing x.master (.ok x.live)) rfl
  exact hmaster.append happend (hlisting.append happend hvisits)

end Laws

end Fleet.Traversal
