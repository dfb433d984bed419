import Fleet.Proofs.ImageCache.OneImage

/-!
# Images are pulled once

However callers take turns, an image is being pulled by one of them at most, and it is pulled until
that succeeds and not again (`turns_pulledOnce`). If its first pulls fail, each of them fails for
the caller that made it, and the next caller pulls; the callers are served in the order in which
they arrived. The caller that succeeds has it pulled for all others.

`Served` follows one image from turn to turn: nobody pulls it, and everybody that has arrived has
failed; or somebody pulls it, and those before have failed; or it is pulled. The fast path of a
caller that finds the image pulled is no case of its own, since it ends like asking for it.
-/

namespace Fleet.ImageCache

/-- The outcome for the caller in a place of the line, if so many pulls fail first. -/
def outcomeAt (fails : Nat) (failure : Nat → Failure) (place : Nat) : Outcome Unit :=
  if place < fails then .error (failure place) else .ok ()

/-- The answers to callers in the order of their arrival. -/
def answersTo (fails : Nat) (failure : Nat → Failure) (callers : List Nat) :
    List (Nat × Outcome Unit) :=
  callers.zipIdx.map fun e => (e.1, outcomeAt fails failure e.2)

variable {fails : Nat} {failure : Nat → Failure} {callers rest : List Nat} {caller : Nat}

theorem answersTo_append_singleton :
    answersTo fails failure (callers ++ [caller]) =
      answersTo fails failure callers ++ [(caller, outcomeAt fails failure callers.length)] := by
  simp [answersTo, List.zipIdx_append]

/-- Behind a caller that succeeds everybody does. -/
theorem answersTo_append_ok (h : fails ≤ callers.length) :
    answersTo fails failure (callers ++ rest) =
      answersTo fails failure callers ++ rest.map fun caller => (caller, .ok ()) := by
  induction rest generalizing callers with
  | nil => simp
  | cons caller rest ih =>
    have hlonger : fails ≤ (callers ++ [caller]).length := by simp; omega
    rw [← List.singleton_append, ← List.append_assoc, ih hlonger, answersTo_append_singleton,
      outcomeAt, if_neg (Nat.not_lt.2 h), List.append_assoc]
    rfl

@[simp]
theorem started_append (first second : List Effect) :
    started (first ++ second) = started first ++ started second := by
  induction first with
  | nil => rfl
  | cons effect rest ih => cases effect <;> simp [started, ih]

@[simp]
theorem answered_append (first second : List Effect) :
    answered (first ++ second) = answered first ++ answered second := by
  induction first with
  | nil => rfl
  | cons effect rest ih => cases effect <;> simp [answered, ih]

theorem started_map_answers (callers : List Nat) (outcome : Outcome Unit) :
    started (callers.map fun caller => .answers caller outcome) = [] := by
  induction callers with
  | nil => rfl
  | cons caller rest ih => exact ih

theorem answered_map_answers (callers : List Nat) (outcome : Outcome Unit) :
    answered (callers.map fun caller => .answers caller outcome) =
      callers.map fun caller => (caller, outcome) := by
  induction callers with
  | nil => rfl
  | cons caller rest ih => rw [List.map_cons, List.map_cons, answered, ih]

/-- How far an image has come whose first pulls fail. -/
inductive Served (fails : Nat) (failure : Nat → Failure) : About → Prop
  /-- Nobody pulls the image, and all pulls have failed. -/
  | free {looked failed : List Nat} {effects : List Effect} (hfails : failed.length ≤ fails)
      (hstarted : (started effects).length = failed.length)
      (hanswered : answered effects = answersTo fails failure failed) :
      Served fails failure ⟨none, looked, failed, effects, failed.length⟩
  /-- The caller pulls the image that stands behind those whose pulls have failed. -/
  | pulling {looked failed waiting : List Nat} {puller : Nat} {effects : List Effect}
      (hfails : failed.length ≤ fails)
      (hstarted : (started effects).length = failed.length + 1)
      (hanswered : answered effects = answersTo fails failure failed) :
      Served fails failure
        ⟨some (.pulling puller waiting), looked, failed ++ puller :: waiting, effects,
          failed.length⟩
  /-- The image is pulled. -/
  | pulled {looked arrived : List Nat} {effects : List Effect} (hfails : fails < arrived.length)
      (hstarted : (started effects).length = fails + 1)
      (hanswered : answered effects = answersTo fails failure arrived) :
      Served fails failure ⟨some .pulled, looked, arrived, effects, fails + 1⟩

namespace Served

variable {a : About} {c : ImageCache} {image : String}

/-- That a caller looks changes nothing for the others. -/
theorem looks (h : Served fails failure a) (looked : List Nat) :
    Served fails failure { a with looked } := by
  cases h with
  | free hfails hstarted hanswered => exact .free hfails hstarted hanswered
  | pulling hfails hstarted hanswered => exact .pulling hfails hstarted hanswered
  | pulled hfails hstarted hanswered => exact .pulled hfails hstarted hanswered

/-- A caller that arrives stands behind the others. -/
theorem arrive (h : Served fails failure a) (hc : c.images.find? image = a.state?) (caller : Nat) :
    Served fails failure { a with
      state? := (c.arrive caller image).1.images.find? image
      arrived := a.arrived ++ [caller]
      effects := a.effects ++ (c.arrive caller image).2 } := by
  cases h with
  | free hfails hstarted hanswered =>
    have harrive : c.arrive caller image = (c.set image (.pulling caller []), [.starts image]) := by
      rw [ImageCache.arrive, hc]
    rw [harrive, find?_set]
    refine .pulling hfails ?_ ?_
    · simp [started, hstarted]
    · simp [answered, hanswered]
  | @pulling _ _ waiting puller _ hfails hstarted hanswered =>
    have harrive : c.arrive caller image =
        (c.set image (.pulling puller (waiting ++ [caller])), []) := by
      rw [ImageCache.arrive, hc]
    rw [harrive, find?_set, List.append_nil, List.append_assoc, List.cons_append]
    exact .pulling hfails hstarted hanswered
  | pulled hfails hstarted hanswered =>
    have harrive : c.arrive caller image = (c, [.answers caller (.ok ())]) := by
      rw [ImageCache.arrive, hc]
    rw [harrive, hc]
    refine .pulled ?_ ?_ ?_
    · simp; omega
    · simp [started, hstarted]
    · simp [answered, hanswered, answersTo_append_ok (Nat.le_of_lt hfails)]

/-- The end of a pull answers the caller that made it, and if it has succeeded, everybody. -/
theorem settle (h : Served fails failure a) (hc : c.images.find? image = a.state?)
    (hpulling : c.isPulling image = true) :
    Served fails failure { a with
      state? := (c.settle image (outcomeAt fails failure a.ended)).1.images.find? image
      effects := a.effects ++ (c.settle image (outcomeAt fails failure a.ended)).2
      ended := a.ended + 1 } := by
  cases h with
  | free _ _ _ => simp [isPulling, hc] at hpulling
  | pulled _ _ _ => simp [isPulling, hc] at hpulling
  | @pulling looked failed waiting puller effects hfails hstarted hanswered =>
    rcases Nat.lt_or_ge failed.length fails with hless | henough
    · have houtcome : outcomeAt fails failure failed.length = .error (failure failed.length) :=
        if_pos hless
      have hlength : failed.length + 1 = (failed ++ [puller]).length := by simp
      have hmore : (failed ++ [puller]).length ≤ fails := hlength ▸ hless
      have hanswered' : answered (effects ++ [.answers puller (.error (failure failed.length))]) =
          answersTo fails failure (failed ++ [puller]) := by
        rw [answersTo_append_singleton, answered_append, hanswered, houtcome]
        rfl
      cases waiting with
      | nil =>
        have hsettle : c.settle image (.error (failure failed.length)) =
            (c.forget image, [.answers puller (.error (failure failed.length))]) := by
          simp only [ImageCache.settle, hc]
        rw [houtcome, hsettle, find?_forget, hlength]
        refine .free hmore ?_ hanswered'
        simp [started, hstarted]
      | cons next waiting =>
        have hsettle : c.settle image (.error (failure failed.length)) =
            (c.set image (.pulling next waiting),
              [.answers puller (.error (failure failed.length)), .starts image]) := by
          simp only [ImageCache.settle, hc]
        rw [houtcome, hsettle, find?_set, hlength, List.append_cons]
        refine .pulling hmore ?_ ?_
        · simp [started, hstarted]
        · simpa [answered] using hanswered'
    · have hlast : failed.length = fails := Nat.le_antisymm hfails henough
      have houtcome : outcomeAt fails failure failed.length = .ok () :=
        if_neg (Nat.not_lt.2 henough)
      have hsettle : c.settle image (.ok ()) = (c.set image .pulled,
          (puller :: waiting).map fun caller => .answers caller (.ok ())) := by
        simp only [ImageCache.settle, hc]
      rw [houtcome, hsettle, find?_set, hlast]
      refine .pulled ?_ ?_ ?_
      · simp [hlast]
      · rw [started_append, started_map_answers, List.append_nil, hstarted, hlast]
      · rw [answered_append, answered_map_answers, hanswered, answersTo_append_ok henough]

/-- One pull is under way at most. -/
theorem started_le (h : Served fails failure a) : (started a.effects).length ≤ a.ended + 1 := by
  cases h with
  | free _ hstarted _ => exact hstarted ▸ Nat.le_succ _
  | pulling _ hstarted _ => exact Nat.le_of_eq hstarted
  | pulled _ hstarted _ => exact hstarted ▸ Nat.le_succ _

theorem getElem?_ended (h : Served fails failure a) {puller : Nat} {waiting : List Nat}
    (hstate : a.state? = some (.pulling puller waiting)) : a.arrived[a.ended]? = some puller := by
  cases h with
  | free _ _ _ => cases hstate
  | pulling _ _ _ =>
    cases hstate
    simp
  | pulled _ _ _ => cases hstate

/-- When nobody pulls the image, everybody that has arrived has had an answer. -/
theorem idle (h : Served fails failure a)
    (hidle : ∀ puller waiting, a.state? ≠ some (.pulling puller waiting)) :
    (started a.effects).length = min a.arrived.length (fails + 1) ∧
      answered a.effects = answersTo fails failure a.arrived ∧
      (a.state? = some .pulled ↔ fails < a.arrived.length) := by
  cases h with
  | free hfails hstarted hanswered =>
    refine ⟨?_, hanswered, by simp, fun hless => ?_⟩
    · rw [hstarted, Nat.min_eq_left (Nat.le_succ_of_le hfails)]
    · exact absurd hless (Nat.not_lt.2 hfails)
  | pulling _ _ _ => exact absurd rfl (hidle _ _)
  | pulled hfails hstarted hanswered =>
    exact ⟨hstarted.trans (Nat.min_eq_right hfails).symm, hanswered, fun _ => hfails, fun _ => rfl⟩

end Served

/-! ## All turns -/

/-- The callers that come for an image. -/
def comingFor (image : String) : List Turn → List Nat
  | [] => []
  | .looks i caller :: rest =>
    if i = image then caller :: comingFor image rest else comingFor image rest
  | .asks _ _ :: rest => comingFor image rest
  | .settles _ :: rest => comingFor image rest

theorem comingFor_cons (image : String) (t : Turn) (rest : List Turn) :
    comingFor image (t :: rest) = comingFor image [t] ++ comingFor image rest := by
  cases t with
  | looks i caller => by_cases hi : i = image <;> simp [comingFor, hi]
  | asks _ _ => rfl
  | settles _ => rfl

theorem comingFor_of_ne {image : String} {t : Turn} (h : t.image ≠ image) :
    comingFor image [t] = [] := by
  cases t with
  | looks i caller => exact if_neg h
  | asks _ _ => rfl
  | settles _ => rfl

namespace Callers

variable {fails : String → Nat} {failure : String → Nat → Failure} {s : Callers (String → Nat)}
  {image : String}

theorem served_turn (h : Served (fails image) (failure image) (s.about image)) (t : Turn) :
    Served (fails image) (failure image) ((turn (flaky fails failure) t s).about image) := by
  by_cases ht : t.image = image
  · cases t with
    | looks i caller =>
      obtain rfl : i = image := ht
      rw [about_looks]
      split
      · exact h.arrive rfl caller
      · exact h.looks _
    | asks i caller =>
      obtain rfl : i = image := ht
      rw [about_asks]
      split
      · exact (h.arrive rfl caller).looks _
      · exact h
    | settles i =>
      obtain rfl : i = image := ht
      rw [about_settles]
      split
      · next hpulling => exact h.settle rfl hpulling
      · exact h
  · rw [about_turn_of_ne ht]
    exact h

theorem served_turns (h : Served (fails image) (failure image) (s.about image)) (ts : List Turn) :
    Served (fails image) (failure image) ((turns (flaky fails failure) ts s).about image) := by
  induction ts generalizing s with
  | nil => exact h
  | cons t rest ih => exact ih (served_turn h t)

/-- The callers that have come for an image: they have arrived, or they have looked in vain. -/
def come (s : Callers (String → Nat)) (image : String) : List Nat :=
  (s.about image).arrived ++ (s.about image).looked

theorem come_turn (t : Turn) :
    ((turn (flaky fails failure) t s).come image).Perm (s.come image ++ comingFor image [t]) := by
  rw [come, come]
  by_cases ht : t.image = image
  · cases t with
    | looks i caller =>
      obtain rfl : i = image := ht
      rw [about_looks, comingFor, if_pos rfl]
      split
      · show ((s.about i).arrived ++ [caller] ++ (s.about i).looked).Perm _
        rw [List.append_assoc, List.append_assoc]
        exact List.perm_append_comm.append_left _
      · exact .of_eq (List.append_assoc ..).symm
    | asks i caller =>
      obtain rfl : i = image := ht
      rw [about_asks, comingFor, comingFor, List.append_nil]
      split
      · next hmem =>
        show ((s.about i).arrived ++ [caller] ++ (s.about i).looked.erase caller).Perm _
        rw [List.append_assoc]
        exact (List.perm_cons_erase hmem).symm.append_left _
      · exact .refl _
    | settles i =>
      obtain rfl : i = image := ht
      rw [about_settles, comingFor, comingFor, List.append_nil]
      split
      · exact .refl _
      · exact .refl _
  · rw [about_turn_of_ne ht, comingFor_of_ne ht, List.append_nil]

theorem come_turns (ts : List Turn) :
    ((turns (flaky fails failure) ts s).come image).Perm (s.come image ++ comingFor image ts) := by
  induction ts generalizing s with
  | nil => simp [comingFor]
  | cons t rest ih =>
    rw [turns_cons, comingFor_cons, ← List.append_assoc]
    exact ih.trans ((come_turn t).append_right _)

/-! ## Nobody waits for ever -/

/-- Whether somebody can take a turn. -/
def isOpen : Turn → Callers (String → Nat) → Bool
  | .looks _ _, _ => true
  | .asks image caller, s => s.looked.contains (image, caller)
  | .settles image, s => s.cache.isPulling image

/-- How many of some turns are about an image, and somebody takes them. -/
def taken (fails : String → Nat) (failure : String → Nat → Failure) (image : String) :
    List Turn → Callers (String → Nat) → Nat
  | [], _ => 0
  | t :: rest, s => (decide (t.image = image) && isOpen t s).toNat +
      taken fails failure image rest (turn (flaky fails failure) t s)

/-- The callers that stand in line for an image. -/
def inLine : Option ImageState → Nat
  | some (.pulling _ waiting) => waiting.length + 1
  | _ => 0

theorem inLine_arrive (c : ImageCache) (image : String) (caller : Nat) :
    inLine ((c.arrive caller image).1.images.find? image) ≤
      inLine (c.images.find? image) + 1 := by
  unfold arrive
  split <;> simp [inLine, *]

/-- The end of a pull answers a caller at least. -/
theorem inLine_settle {c : ImageCache} (h : c.isPulling image = true) (outcome : Outcome Unit) :
    inLine ((c.settle image outcome).1.images.find? image) < inLine (c.images.find? image) := by
  unfold isPulling at h
  split at h
  · next puller waiting hstate =>
    cases outcome with
    | ok _ => simp [settle, hstate, inLine]
    | error e => cases waiting <;> simp [settle, hstate, inLine]
  · cases h

/-- The turns that are left to the callers that have come for an image: two to a caller that
has looked, and one to a caller in line. -/
def turnsLeft (a : About) : Nat := 2 * a.looked.length + inLine a.state?

theorem turnsLeft_turn (fails : String → Nat) (failure : String → Nat → Failure) (image : String)
    (s : Callers (String → Nat)) (t : Turn) :
    (decide (t.image = image) && isOpen t s).toNat +
        turnsLeft ((turn (flaky fails failure) t s).about image) ≤
      turnsLeft (s.about image) + 3 * (comingFor image [t]).length := by
  by_cases ht : t.image = image
  · rw [decide_eq_true ht, Bool.true_and]
    cases t with
    | looks i caller =>
      obtain rfl : i = image := ht
      have hline : inLine (s.joined i caller).state? ≤ inLine (s.about i).state? + 1 :=
        inLine_arrive s.cache i caller
      have hsame : (s.joined i caller).looked = (s.about i).looked := rfl
      rw [about_looks, comingFor, if_pos rfl]
      split <;> simp only [turnsLeft, isOpen, comingFor, hsame, Bool.toNat_true, List.length_append,
        List.length_singleton] <;> omega
    | asks i caller =>
      obtain rfl : i = image := ht
      have hline : inLine (s.joined i caller).state? ≤ inLine (s.about i).state? + 1 :=
        inLine_arrive s.cache i caller
      have hopen : caller ∈ (s.about i).looked ↔ (i, caller) ∈ s.looked := mem_concerning
      rw [about_asks]
      split
      · next hmem =>
        have hpos := List.length_pos_of_mem hmem
        have htaken : s.looked.contains (i, caller) = true := List.contains_iff_mem.2 (hopen.1 hmem)
        simp only [turnsLeft, isOpen, htaken, List.length_erase_of_mem hmem, Bool.toNat_true]
        omega
      · next hmem => simp [isOpen, hopen.not.1 hmem]
    | settles i =>
      obtain rfl : i = image := ht
      rw [about_settles]
      split
      · next hpulling =>
        have hline : inLine (s.settled i (flaky fails failure i s.source).1).state? <
            inLine (s.about i).state? := inLine_settle hpulling _
        have hsame : (s.settled i (flaky fails failure i s.source).1).looked =
            (s.about i).looked := rfl
        simp only [turnsLeft, isOpen, hpulling, hsame, Bool.toNat_true]
        omega
      · next hidle => simp [isOpen, hidle]
  · rw [about_turn_of_ne ht, decide_eq_false ht, Bool.false_and, Bool.toNat_false]
    omega

theorem taken_le (fails : String → Nat) (failure : String → Nat → Failure) (image : String)
    (ts : List Turn) (s : Callers (String → Nat)) :
    taken fails failure image ts s + turnsLeft ((turns (flaky fails failure) ts s).about image) ≤
      turnsLeft (s.about image) + 3 * (comingFor image ts).length := by
  induction ts generalizing s with
  | nil => simp [taken, comingFor]
  | cons t rest ih =>
    have hrest := ih (turn (flaky fails failure) t s)
    have hturn := turnsLeft_turn fails failure image s t
    rw [turns_cons, taken, comingFor_cons, List.length_append]
    omega

/-- Whether everybody that has come for an image has had an answer. -/
def Quiet (s : Callers (String → Nat)) (image : String) : Prop :=
  (s.about image).looked = [] ∧ s.cache.isPulling image = false

/-- Until then, somebody that has come can take a turn. -/
theorem exists_isOpen (h : ¬ s.Quiet image) :
    ∃ t, t.image = image ∧ comingFor image [t] = [] ∧ isOpen t s = true := by
  by_cases hpulling : s.cache.isPulling image = true
  · exact ⟨.settles image, rfl, rfl, hpulling⟩
  · cases hlooked : (s.about image).looked with
    | nil => exact absurd ⟨hlooked, by simpa using hpulling⟩ h
    | cons caller rest =>
      refine ⟨.asks image caller, rfl, rfl, List.contains_iff_mem.2 (mem_concerning.1 ?_)⟩
      show caller ∈ (s.about image).looked
      rw [hlooked]
      exact List.mem_cons_self

/-! ## An image is pulled once -/

/-- What holds of an image whose first pulls fail, when these callers have come for it. -/
structure PulledOnce (fails : Nat) (failure : Nat → Failure) (coming : List Nat) (image : String)
    (s : Callers (String → Nat)) : Prop where
  /-- One pull is under way at most. -/
  alone : (started (s.about image).effects).length ≤ (s.about image).ended + 1
  /-- Who pulls does so behind those whose pulls have failed. -/
  inTurn : ∀ puller waiting, s.cache.images.find? image = some (.pulling puller waiting) →
    (s.about image).arrived[(s.about image).ended]? = some puller
  come : (s.come image).Perm coming
  /-- When everybody has had an answer, the image has been pulled so many times. -/
  pulls : s.Quiet image →
    (started (s.about image).effects).length = min coming.length (fails + 1)
  /-- The first callers had the failures of their own pulls, and all others succeeded. -/
  answers : s.Quiet image →
    (s.about image).arrived.Perm coming ∧
      answered (s.about image).effects = answersTo fails failure (s.about image).arrived
  pulled : s.Quiet image → (s.cache.isPulled image = true ↔ fails < coming.length)

/-- Whatever the order of turns, an image is pulled once, whoever comes for other images. Everybody
that has come for it gets an answer, after three turns a caller at most. -/
theorem turns_pulledOnce (fails : String → Nat) (failure : String → Nat → Failure)
    (ts : List Turn) (image : String) :
    let run := fun ts => turns (flaky fails failure) ts (start .empty fun _ => 0)
    PulledOnce (fails image) (failure image) (comingFor image ts) image (run ts) ∧
      (run ts).about image = (run (ts.filter fun t => t.image = image)).about image ∧
      (¬ (run ts).Quiet image →
        ∃ t, t.image = image ∧ comingFor image [t] = [] ∧ isOpen t (run ts) = true) ∧
      taken fails failure image ts (start .empty fun _ => 0) ≤ 3 * (comingFor image ts).length := by
  intro run
  have hserved : Served (fails image) (failure image) ((run ts).about image) :=
    served_turns (s := start .empty fun _ => 0) (.free (Nat.zero_le _) rfl rfl) ts
  have hcome : ((run ts).come image).Perm (comingFor image ts) := come_turns ts
  have hidle : (run ts).Quiet image → _ := fun hquiet =>
    hserved.idle fun puller waiting hstate => by
      have hpulling : (run ts).cache.images.find? image = some (.pulling puller waiting) := hstate
      simp [Quiet, isPulling, hpulling] at hquiet
  have harrived : (run ts).Quiet image →
      ((run ts).about image).arrived.Perm (comingFor image ts) := fun hquiet => by
    rwa [Callers.come, hquiet.1, List.append_nil] at hcome
  refine ⟨⟨hserved.started_le, fun _ _ => hserved.getElem?_ended, hcome, fun hquiet => ?_,
    fun hquiet => ⟨harrived hquiet, (hidle hquiet).2.1⟩, fun hquiet => ?_⟩,
    about_turns_filter ts rfl, exists_isOpen, ?_⟩
  · rw [(hidle hquiet).1, (harrived hquiet).length_eq]
  · rw [← (harrived hquiet).length_eq]
    exact (by simp [isPulled, about] : _ ↔ _).trans (hidle hquiet).2.2
  · have hle := taken_le fails failure image ts (start .empty fun _ => 0)
    have hstart : turnsLeft ((start .empty fun _ => 0).about image) = 0 := rfl
    omega

/-- The second caller asks first, and its pull fails; the first caller pulls next, and succeeds. -/
example : (answered ((turns (flaky (fun _ => 1) fun _ _ => .internal "refused")
    [.looks "a" 0, .looks "a" 1, .asks "a" 1, .asks "a" 0, .settles "a", .settles "a"]
    (start .empty fun _ => 0)).about "a").effects).map (fun e => (e.1, e.2.toBool)) =
      [(1, false), (0, true)] := by
  decide +kernel

end Callers

end Fleet.ImageCache
