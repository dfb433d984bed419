import Fleet.ImageCache.Turns
import Fleet.Proofs.Table

/-!
# Images do not touch each other

An image may fail to be pulled any number of times before it is pulled (`flaky`). What a cache and
its callers know about an image (`About`) is changed by turns about this image only
(`about_turn_of_ne`), and how these change it depends on nothing else (`about_turn_congr`). So an
image goes its way as if there were no others: of all the turns that are taken, those about the
image make of it what all of them make of it (`about_turns_filter`).
-/

namespace Fleet.ImageCache

/-- Pulls of an image fail so many times, and then succeed. The pulls of each image that have ended
are counted. -/
def flaky (fails : String → Nat) (failure : String → Nat → Failure) (image : String)
    (ended : String → Nat) : Outcome Unit × (String → Nat) :=
  (if ended image < fails image then .error (failure image (ended image)) else .ok (),
    fun i => if i = image then ended image + 1 else ended i)

@[simp]
theorem flaky_ended (fails : String → Nat) (failure : String → Nat → Failure) (image other : String)
    (ended : String → Nat) : (flaky fails failure image ended).2 other =
      if other = image then ended image + 1 else ended other := rfl

variable {c c' : ImageCache} {image other : String} {caller : Nat} {outcome : Outcome Unit}

@[simp]
theorem find?_set (c : ImageCache) (image : String) (state : ImageState) :
    (c.set image state).images.find? image = some state := by
  rw [set, Table.find?_insert, if_pos rfl]

@[simp]
theorem find?_forget (c : ImageCache) (image : String) :
    (c.forget image).images.find? image = none := by
  rw [forget, Table.find?_erase, if_pos rfl]

theorem find?_arrive_of_ne (h : other ≠ image) :
    (c.arrive caller image).1.images.find? other = c.images.find? other := by
  unfold arrive
  split <;> simp [set, Table.find?_insert, h]

theorem find?_settle_of_ne (h : other ≠ image) :
    (c.settle image outcome).1.images.find? other = c.images.find? other := by
  unfold settle
  split <;> simp [set, forget, Table.find?_insert, Table.find?_erase, h]

/-- What a caller brings about that arrives depends on the state of its image only. -/
theorem arrive_congr (caller : Nat) (h : c.images.find? image = c'.images.find? image) :
    (c.arrive caller image).1.images.find? image = (c'.arrive caller image).1.images.find? image ∧
      (c.arrive caller image).2 = (c'.arrive caller image).2 := by
  simp only [arrive, h]
  split <;> simp_all

/-- What the end of a pull brings about depends on the state of its image only. -/
theorem settle_congr (outcome : Outcome Unit)
    (h : c.images.find? image = c'.images.find? image) :
    (c.settle image outcome).1.images.find? image =
        (c'.settle image outcome).1.images.find? image ∧
      (c.settle image outcome).2 = (c'.settle image outcome).2 := by
  simp only [settle, h]
  split <;> simp_all

/-! ## What concerns an image -/

section Concerning

variable {α : Type}

/-- What is listed for an image. -/
def concerning (image : String) (l : List (String × α)) : List α :=
  (l.filter fun e => e.1 = image).map (·.2)

@[simp]
theorem concerning_nil (image : String) : concerning image ([] : List (String × α)) = [] := rfl

@[simp]
theorem concerning_append (image : String) (first second : List (String × α)) :
    concerning image (first ++ second) = concerning image first ++ concerning image second := by
  simp [concerning]

theorem concerning_cons (image : String) (e : String × α) (rest : List (String × α)) :
    concerning image (e :: rest) =
      if e.1 = image then e.2 :: concerning image rest else concerning image rest := by
  by_cases h : e.1 = image <;> simp [concerning, h]

@[simp]
theorem concerning_map_mk (image other : String) (l : List α) :
    concerning other (l.map (Prod.mk image)) = if image = other then l else [] := by
  by_cases h : image = other <;> simp [concerning, h, List.filter_map, Function.comp_def]

@[simp]
theorem concerning_singleton (image other : String) (x : α) :
    concerning other [(image, x)] = if image = other then [x] else [] :=
  concerning_map_mk image other [x]

theorem mem_concerning {x : α} {l : List (String × α)} :
    x ∈ concerning image l ↔ (image, x) ∈ l := by
  simp only [concerning, List.mem_map, List.mem_filter, decide_eq_true_eq]
  constructor
  · rintro ⟨⟨_, _⟩, ⟨hmem, rfl⟩, rfl⟩
    exact hmem
  · exact fun hmem => ⟨(image, x), ⟨hmem, rfl⟩, rfl⟩

theorem concerning_erase [DecidableEq α] {x : α} {l : List (String × α)} :
    concerning other (l.erase (image, x)) =
      if image = other then (concerning other l).erase x else concerning other l := by
  induction l with
  | nil => simp
  | cons e rest ih =>
    obtain ⟨j, y⟩ := e
    rw [List.erase_cons, concerning_cons]
    by_cases he : (j, y) = (image, x)
    · cases he
      by_cases hi : image = other <;> simp [hi]
    · have hbeq : ((j, y) == (image, x)) = false := by simpa using he
      rw [hbeq, if_neg Bool.false_ne_true, concerning_cons, ih]
      by_cases hi : image = other <;> by_cases hj : j = other <;> simp_all

end Concerning

/-- What is known about an image. -/
structure About where
  state? : Option ImageState
  /-- The callers that have found the image not pulled, and have not asked for it yet. -/
  looked : List Nat
  /-- The callers that have asked for the image or have found it pulled. -/
  arrived : List Nat
  effects : List Effect
  /-- How many pulls of the image have ended. -/
  ended : Nat

namespace Callers

variable {fails : String → Nat} {failure : String → Nat → Failure} {s s' : Callers (String → Nat)}
  {t : Turn}

/-- What is known about an image. -/
def about (s : Callers (String → Nat)) (image : String) : About where
  state? := s.cache.images.find? image
  looked := concerning image s.looked
  arrived := concerning image s.arrived
  effects := concerning image s.effects
  ended := s.source image

/-- A turn about another image changes nothing about an image. -/
theorem about_turn_of_ne (h : t.image ≠ image) :
    (turn (flaky fails failure) t s).about image = s.about image := by
  cases t with
  | looks i caller =>
    have hi : i ≠ image := h
    simp only [turn]
    split <;> simp [about, after, hi]
  | asks i caller =>
    have hi : i ≠ image := h
    simp only [turn]
    split <;> simp [about, after, hi, concerning_erase, find?_arrive_of_ne hi.symm]
  | settles i =>
    have hi : i ≠ image := h
    simp only [turn]
    split <;> simp [about, after, hi, hi.symm, find?_settle_of_ne hi.symm]

/-- What is known about an image behind the arrival of a caller. -/
def joined (s : Callers (String → Nat)) (image : String) (caller : Nat) : About :=
  { s.about image with
    state? := (s.cache.arrive caller image).1.images.find? image
    arrived := (s.about image).arrived ++ [caller]
    effects := (s.about image).effects ++ (s.cache.arrive caller image).2 }

/-- What is known about an image behind the end of its pull. -/
def settled (s : Callers (String → Nat)) (image : String) (outcome : Outcome Unit) : About :=
  { s.about image with
    state? := (s.cache.settle image outcome).1.images.find? image
    effects := (s.about image).effects ++ (s.cache.settle image outcome).2
    ended := (s.about image).ended + 1 }

/-- A caller that finds its image pulled has arrived. -/
theorem about_looks (image : String) (caller : Nat) :
    (turn (flaky fails failure) (.looks image caller) s).about image =
      if s.cache.isPulled image then s.joined image caller
      else { s.about image with looked := (s.about image).looked ++ [caller] } := by
  by_cases hpulled : s.cache.isPulled image = true
  · have hstate : s.cache.images.find? image = some .pulled := of_decide_eq_true hpulled
    simp [turn, hpulled, joined, about, after, arrive, hstate]
  · simp [turn, hpulled, about]

theorem about_asks (image : String) (caller : Nat) :
    (turn (flaky fails failure) (.asks image caller) s).about image =
      if caller ∈ (s.about image).looked then
        { s.joined image caller with looked := (s.about image).looked.erase caller }
      else s.about image := by
  have hmem : caller ∈ (s.about image).looked ↔ (image, caller) ∈ s.looked := mem_concerning
  simp only [turn, hmem]
  split <;> simp [about, joined, after, concerning_erase]

theorem about_settles (image : String) :
    (turn (flaky fails failure) (.settles image) s).about image =
      if s.cache.isPulling image then s.settled image (flaky fails failure image s.source).1
      else s.about image := by
  simp only [turn]
  split <;> simp [about, settled, after]

theorem joined_congr (h : s.about image = s'.about image) :
    s.joined image caller = s'.joined image caller := by
  obtain ⟨hnext, hnew⟩ := arrive_congr caller (congrArg About.state? h)
  rw [joined, joined, h, hnext, hnew]

theorem settled_congr (h : s.about image = s'.about image) :
    s.settled image outcome = s'.settled image outcome := by
  obtain ⟨hnext, hnew⟩ := settle_congr outcome (congrArg About.state? h)
  rw [settled, settled, h, hnext, hnew]

/-- What a turn changes about its image depends on nothing else. -/
theorem about_turn_congr (ht : t.image = image) (h : s.about image = s'.about image) :
    (turn (flaky fails failure) t s).about image =
      (turn (flaky fails failure) t s').about image := by
  have hstate : s.cache.images.find? image = s'.cache.images.find? image :=
    congrArg About.state? h
  have hended : s.source image = s'.source image := congrArg About.ended h
  cases t with
  | looks i caller =>
    obtain rfl : i = image := ht
    rw [about_looks, about_looks, isPulled, isPulled, hstate, joined_congr h, h]
  | asks i caller =>
    obtain rfl : i = image := ht
    rw [about_asks, about_asks, joined_congr h, h]
  | settles i =>
    obtain rfl : i = image := ht
    have houtcome : (flaky fails failure i s.source).1 = (flaky fails failure i s'.source).1 := by
      rw [flaky, flaky, hended]
    rw [about_settles, about_settles, isPulling, isPulling, hstate, houtcome, settled_congr h, h]

/-- Turns about other images can be left out. -/
theorem about_turns_filter (ts : List Turn) (h : s.about image = s'.about image) :
    (turns (flaky fails failure) ts s).about image =
      (turns (flaky fails failure) (ts.filter fun t => t.image = image) s').about image := by
  induction ts generalizing s s' with
  | nil => exact h
  | cons t rest ih =>
    by_cases ht : t.image = image
    · rw [List.filter_cons_of_pos (by simpa using ht)]
      exact ih (about_turn_congr ht h)
    · rw [List.filter_cons_of_neg (by simpa using ht)]
      exact ih ((about_turn_of_ne ht).trans h)

end Callers

end Fleet.ImageCache
