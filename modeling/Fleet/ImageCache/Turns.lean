import Fleet.ImageCache

/-!
# Callers that take turns

Callers come at any time and for any images, and none waits for another unless the cache makes it
wait. A caller first looks whether its image has been pulled. If so, it has its answer without the
cache's having a hand in it; otherwise it asks for the image at a later turn, when the image may
have been pulled after all. At other turns the pull of an image ends that is under way.

What an order of turns brings about is a matter of `turns`; a law for every order is a law for all
lists of turns. A caller that looks and at once asks does what a caller does that arrives
(`turns_looks_asks`), whether or not the image has been pulled.
-/

namespace Fleet.ImageCache

/-- Whether an image is being pulled. -/
def isPulling (c : ImageCache) (image : String) : Bool :=
  match c.images.find? image with
  | some (.pulling _ _) => true
  | _ => false

/-- A cache with its callers; a caller is known by its image and a number. -/
structure Callers (σ : Type) where
  cache : ImageCache
  /-- The state of what images are pulled from. -/
  source : σ
  /-- The callers that have found their image not pulled, and have not asked for it yet. -/
  looked : List (String × Nat) := []
  /-- The callers that have asked for their image or have found it pulled, in the order of that. -/
  arrived : List (String × Nat) := []
  /-- What has come about, and for which image. -/
  effects : List (String × Effect) := []

/-- Whose turn it is. -/
inductive Turn
  /-- A caller comes, and looks whether its image has been pulled. -/
  | looks (image : String) (caller : Nat)
  /-- A caller that has found its image not pulled asks for it. -/
  | asks (image : String) (caller : Nat)
  /-- The pull of an image ends. -/
  | settles (image : String)
  deriving DecidableEq, Repr

/-- The image that a turn is about. -/
def Turn.image : Turn → String
  | .looks image _ => image
  | .asks image _ => image
  | .settles image => image

namespace Callers

variable {σ : Type}

/-- A cache to which nobody has come. -/
def start (cache : ImageCache) (source : σ) : Callers σ := { cache, source }

/-- A step of the cache is taken for an image. -/
def after (s : Callers σ) (image : String) (step : ImageCache × List Effect) : Callers σ :=
  { s with cache := step.1, effects := s.effects ++ step.2.map (Prod.mk image) }

/-- A turn is taken. A turn that nobody can take changes nothing. -/
def turn (pull : String → σ → Outcome Unit × σ) : Turn → Callers σ → Callers σ
  | .looks image caller, s =>
    if s.cache.isPulled image then
      { s.after image (s.cache, [.answers caller (.ok ())]) with
        arrived := s.arrived ++ [(image, caller)] }
    else { s with looked := s.looked ++ [(image, caller)] }
  | .asks image caller, s =>
    if (image, caller) ∈ s.looked then
      { s.after image (s.cache.arrive caller image) with
        looked := s.looked.erase (image, caller)
        arrived := s.arrived ++ [(image, caller)] }
    else s
  | .settles image, s =>
    if s.cache.isPulling image then
      let (outcome, source) := pull image s.source
      { s.after image (s.cache.settle image outcome) with source }
    else s

/-- Turns are taken, one after another. -/
def turns (pull : String → σ → Outcome Unit × σ) (ts : List Turn) (s : Callers σ) : Callers σ :=
  ts.foldl (fun s t => turn pull t s) s

variable {pull : String → σ → Outcome Unit × σ}

@[simp]
theorem turns_nil (s : Callers σ) : turns pull [] s = s := rfl

@[simp]
theorem turns_cons (t : Turn) (rest : List Turn) (s : Callers σ) :
    turns pull (t :: rest) s = turns pull rest (turn pull t s) := rfl

theorem turns_append (first second : List Turn) (s : Callers σ) :
    turns pull (first ++ second) s = turns pull second (turns pull first s) :=
  List.foldl_append

/-- A caller that looks and then asks arrives. -/
theorem turns_looks_asks (pull : String → σ → Outcome Unit × σ) {s : Callers σ} {image : String}
    {caller : Nat} (h : (image, caller) ∉ s.looked) :
    turns pull [.looks image caller, .asks image caller] s =
      { s.after image (s.cache.arrive caller image) with
        arrived := s.arrived ++ [(image, caller)] } := by
  rw [turns_cons, turns_cons, turns_nil]
  by_cases hpulled : s.cache.isPulled image = true
  · have hfind : s.cache.images.find? image = some .pulled := of_decide_eq_true hpulled
    have harrive : s.cache.arrive caller image = (s.cache, [.answers caller (.ok ())]) := by
      rw [arrive, hfind]
    simp only [turn, if_pos hpulled, harrive]
    exact if_neg h
  · simp only [turn, if_neg hpulled]
    have hmem : (image, caller) ∈ s.looked ++ [(image, caller)] :=
      List.mem_append_right _ (List.mem_singleton_self _)
    rw [if_pos hmem, List.erase_append_right _ h, List.erase_cons_head, List.append_nil]
    rfl

end Callers

end Fleet.ImageCache
