import Fleet.Proofs.ImageCache.PulledOnce

/-!
# Callers that come together, and a caller alone

When callers come together and all of them arrive before the first pull ends, they have taken turns
in one of the orders there are (`exists_turns_ensureAll`), so what holds of every order of turns
holds of them. A caller that comes alone is the case of one (`ensureAll_singleton`).
-/

namespace Fleet.ImageCache

variable {c : ImageCache} {image other : String} {caller : Nat} {outcome : Outcome Unit}

theorem isPulling_settle_of_ne (h : other ≠ image) :
    (c.settle image outcome).1.isPulling other = c.isPulling other := by
  rw [isPulling, isPulling, find?_settle_of_ne h]

theorem isPulling_arrive (h : c.isPulling other = true) :
    (c.arrive caller image).1.isPulling other = true := by
  by_cases hi : other = image
  · subst hi
    unfold isPulling at h
    split at h
    · next puller waiting hstate => simp [isPulling, arrive, hstate]
    · cases h
  · rwa [isPulling, find?_arrive_of_ne hi]

/-- A caller that arrives starts a pull if nobody has asked for the image. -/
theorem started_arrive (c : ImageCache) (image : String) (caller : Nat) :
    started (c.arrive caller image).2 = [] ∨
      started (c.arrive caller image).2 = [image] ∧ c.images.find? image = none ∧
        (c.arrive caller image).1.isPulling image = true := by
  cases hstate : c.images.find? image with
  | none => exact .inr (by simp [arrive, hstate, started, isPulling])
  | some state => cases state <;> exact .inl (by simp [arrive, hstate, started])

/-- The end of a pull starts another one if it has failed and somebody stands in line. -/
theorem started_settle (c : ImageCache) (image : String) (outcome : Outcome Unit) :
    started (c.settle image outcome).2 = [] ∨
      started (c.settle image outcome).2 = [image] ∧
        (c.settle image outcome).1.isPulling image = true := by
  unfold settle
  split
  · exact .inl (started_map_answers _ _)
  · exact .inl rfl
  · exact .inr ⟨rfl, by simp [isPulling]⟩
  · exact .inl rfl

/-- Pulls are under way, and no two of them of one image. -/
structure UnderWay (c : ImageCache) (images : List String) : Prop where
  nodup : images.Nodup
  pulling : ∀ image ∈ images, c.isPulling image = true

theorem UnderWay.settle {rest : List String} (h : c.UnderWay (image :: rest))
    (outcome : Outcome Unit) : (c.settle image outcome).1.UnderWay
      (rest ++ started (c.settle image outcome).2) := by
  obtain ⟨hfresh, hrest⟩ := List.nodup_cons.1 h.nodup
  have hothers : ∀ other ∈ rest, (c.settle image outcome).1.isPulling other = true := by
    intro other hother
    rw [isPulling_settle_of_ne (ne_of_mem_of_not_mem hother hfresh)]
    exact h.pulling other (List.mem_cons_of_mem _ hother)
  rcases started_settle c image outcome with hnone | ⟨hagain, hpulling⟩
  · rw [hnone, List.append_nil]
    exact ⟨hrest, hothers⟩
  · rw [hagain]
    refine ⟨?_, List.forall_mem_append.2 ⟨hothers, List.forall_mem_singleton.2 hpulling⟩⟩
    exact List.nodup_append.2 ⟨hrest, List.nodup_singleton image, by grind⟩

theorem find?_arrive_ne_none (c : ImageCache) (image : String) (caller : Nat) :
    (c.arrive caller image).1.images.find? image ≠ none := by
  cases hstate : c.images.find? image with
  | none => simp [arrive, hstate]
  | some state => cases state <;> simp [arrive, hstate]

theorem isPulling_arriveAll (h : c.isPulling other = true) (caller : Nat) (images : List String) :
    (c.arriveAll caller images).1.isPulling other = true := by
  induction images generalizing c caller with
  | nil => exact h
  | cons image rest ih => exact ih (isPulling_arrive h) (caller + 1)

/-- The pulls that callers start who come together are under way, of images that nobody has asked
for before. -/
theorem underWay_arriveAll (c : ImageCache) (caller : Nat) (images : List String) :
    (c.arriveAll caller images).1.UnderWay (started (c.arriveAll caller images).2) ∧
      ∀ image ∈ started (c.arriveAll caller images).2, c.images.find? image = none := by
  induction images generalizing c caller with
  | nil => exact ⟨⟨List.nodup_nil, fun _ h => absurd h List.not_mem_nil⟩, fun _ h => nomatch h⟩
  | cons image rest ih =>
    obtain ⟨hunder, hfresh⟩ := ih (c.arrive caller image).1 (caller + 1)
    have hne : ∀ other ∈ started ((c.arrive caller image).1.arriveAll (caller + 1) rest).2,
        other ≠ image := by
      rintro other hother rfl
      exact find?_arrive_ne_none c other caller (hfresh other hother)
    have hlater : ∀ other ∈ started ((c.arrive caller image).1.arriveAll (caller + 1) rest).2,
        c.images.find? other = none := fun other hother =>
      (find?_arrive_of_ne (hne other hother)).symm.trans (hfresh other hother)
    rw [arriveAll, started_append]
    rcases started_arrive c image caller with hnone | ⟨hstarts, hnone, hpulling⟩
    · rw [hnone, List.nil_append]
      exact ⟨hunder, hlater⟩
    · rw [hstarts]
      refine ⟨⟨List.nodup_cons.2 ⟨fun hmem => hne image hmem rfl, hunder.nodup⟩, ?_⟩,
        List.forall_mem_cons.2 ⟨hnone, hlater⟩⟩
      exact List.forall_mem_cons.2 ⟨isPulling_arriveAll hpulling _ _, hunder.pulling⟩

namespace Callers

variable {σ : Type}

@[simp]
theorem cache_after (s : Callers σ) (image : String) (step : ImageCache × List Effect) :
    (s.after image step).cache = step.1 := rfl

@[simp]
theorem effects_after (s : Callers σ) (image : String) (step : ImageCache × List Effect) :
    (s.after image step).effects.map (·.2) = s.effects.map (·.2) ++ step.2 := by
  simp [after, Function.comp_def]

/-- Callers come one after another, and nothing else happens. -/
def together (caller : Nat) : List String → List Turn
  | [] => []
  | image :: rest => .looks image caller :: .asks image caller :: together (caller + 1) rest

theorem turns_together (pull : String → σ → Outcome Unit × σ) {s : Callers σ}
    (hlooked : s.looked = []) (caller : Nat) (images : List String) :
    let after := turns pull (together caller images) s
    after.cache = (s.cache.arriveAll caller images).1 ∧ after.source = s.source ∧
      after.arrived = s.arrived ++ images.zipIdx caller ∧
      after.effects.map (·.2) = s.effects.map (·.2) ++ (s.cache.arriveAll caller images).2 := by
  induction images generalizing s caller with
  | nil => simp [together, arriveAll]
  | cons image rest ih =>
    have hfree : (image, caller) ∉ s.looked := hlooked ▸ List.not_mem_nil
    have hstep := turns_looks_asks pull hfree
    obtain ⟨hcache, hsource, harrived, heffects⟩ := ih (s := turns pull
      [.looks image caller, .asks image caller] s) (by rw [hstep]; exact hlooked) (caller + 1)
    rw [hstep] at hcache hsource harrived heffects
    intro after
    have hafter : after = turns pull (together (caller + 1) rest)
        (turns pull [.looks image caller, .asks image caller] s) := rfl
    rw [hafter, hstep]
    refine ⟨hcache, hsource, harrived.trans ?_, heffects.trans ?_⟩
    · simp
    · simp [arriveAll]

/-- Settling pulls in the order in which they have started is an order of turns. -/
theorem exists_turns_settleInTurn (pull : String → σ → Outcome Unit × σ) (callers : Nat)
    {underWay : List String} {s : Callers σ} (h : s.cache.UnderWay underWay) :
    ∃ ts, let after := turns pull ts s
      let settled := settleInTurn pull callers underWay s.cache s.source
      after.cache = settled.2.1 ∧ after.source = settled.2.2 ∧ after.arrived = s.arrived ∧
        answered (after.effects.map (·.2)) = answered (s.effects.map (·.2)) ++ settled.1 := by
  induction callers generalizing underWay s with
  | zero => exact ⟨[], rfl, rfl, rfl, (List.append_nil _).symm⟩
  | succ callers ih =>
    cases underWay with
    | nil => exact ⟨[], rfl, rfl, rfl, (List.append_nil _).symm⟩
    | cons image rest =>
      have hpulling := h.pulling image List.mem_cons_self
      have hstep : turn pull (.settles image) s =
          { s.after image (s.cache.settle image (pull image s.source).1) with
            source := (pull image s.source).2 } := if_pos hpulling
      have hunder : (turn pull (.settles image) s).cache.UnderWay
          (rest ++ started (s.cache.settle image (pull image s.source).1).2) := hstep ▸ h.settle _
      obtain ⟨ts, hcache, hsource, harrived, hanswered⟩ := ih hunder
      refine ⟨.settles image :: ts, ?_⟩
      rw [hstep] at hcache hsource harrived hanswered
      simp only [turns_cons, hstep]
      refine ⟨hcache, hsource, harrived, hanswered.trans ?_⟩
      simp [settleInTurn]

/-- Callers that come together take turns in one of the orders there are. -/
theorem exists_turns_ensureAll (pull : String → σ → Outcome Unit × σ) (images : List String)
    (c : ImageCache) (source : σ) :
    ∃ ts, let after := turns pull ts (start c source)
      let all := ensureAll pull images c source
      after.cache = all.2.1 ∧ after.source = all.2.2 ∧ after.arrived = images.zipIdx ∧
        (Table.ofList (answered (after.effects.map (·.2)))).values = all.1 := by
  let arrived := turns pull (together 0 images) (start c source)
  obtain ⟨hcache, hsource, harrived, heffects⟩ : arrived.cache = (c.arriveAll 0 images).1 ∧
      arrived.source = source ∧ arrived.arrived = images.zipIdx ∧
      arrived.effects.map (·.2) = (c.arriveAll 0 images).2 :=
    turns_together pull (s := start c source) rfl 0 images
  have hunder : arrived.cache.UnderWay (started (c.arriveAll 0 images).2) :=
    hcache ▸ (underWay_arriveAll c 0 images).1
  obtain ⟨ts, hcache', hsource', harrived', hanswered⟩ :=
    exists_turns_settleInTurn pull images.length hunder
  rw [hcache, hsource] at hcache' hsource' hanswered
  refine ⟨together 0 images ++ ts, ?_⟩
  rw [turns_append]
  refine ⟨hcache', hsource', harrived'.trans harrived, ?_⟩
  rw [hanswered, heffects]
  rfl

/-- A caller that comes alone, while nobody pulls its image, is the case of one. -/
theorem ensureAll_singleton (pull : String → σ → Outcome Unit × σ) (image : String)
    (c : ImageCache) (source : σ) (h : c.isPulling image = false) :
    ensureAll pull [image] c source =
      ([(ensure pull image c source).1], (ensure pull image c source).2) := by
  cases hstate : c.images.find? image with
  | none =>
    have hforget : (c.set image (.pulling 0 [])).forget image = c := by
      refine congrArg ImageCache.mk (Table.ext_find? fun other => ?_)
      by_cases hother : other = image
      · rw [hother, hstate]
        exact find?_forget _ image
      · rw [Table.find?_erase, if_neg hother, set, Table.find?_insert, if_neg hother]
    have hset : (c.set image (.pulling 0 [])).set image .pulled = c.set image .pulled := by
      refine congrArg ImageCache.mk (Table.ext_find? fun other => ?_)
      by_cases hother : other = image <;> simp [set, Table.find?_insert, hother]
    rcases hpull : pull image source with ⟨e | _, source'⟩
    · simp [ensureAll, ensure, arriveAll, arrive, settleInTurn, settle, isPulled, started, answered,
        hstate, hpull, hforget]
      rfl
    · simp [ensureAll, ensure, arriveAll, arrive, settleInTurn, settle, isPulled, started, answered,
        hstate, hpull, hset]
      rfl
  | some state =>
    cases state with
    | pulling puller waiting => simp [isPulling, hstate] at h
    | pulled =>
      simp [ensureAll, ensure, arriveAll, arrive, settleInTurn, isPulled, started, answered, hstate]
      rfl

end Callers

end Fleet.ImageCache
