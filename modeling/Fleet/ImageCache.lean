import Fleet.Failure
import Fleet.Table

/-!
# Pulling each image once

An image is pulled at most once while it succeeds. Of the callers that ask for an image, one pulls
it and the others wait in line. A successful pull answers them all, and every later caller. A failed
pull answers only the caller that made it; the next in line pulls in turn, and if nobody is left in
line the image is as if nobody had asked for it.

A cache is a machine of two events: a caller arrives, and the pull of an image settles. Different
images do not touch each other. `ensure` is a single caller, and `ensureAll` lets all callers arrive
before the first pull settles and then settles pulls in the order in which they started.
-/

namespace Fleet

/-- An image that has been asked for. -/
inductive ImageState
  /-- One caller pulls, the others wait in line. -/
  | pulling (puller : Nat) (waiting : List Nat)
  | pulled
  deriving DecidableEq, Repr

/-- The images of a run. An image that is not in the table is not pulled, and nobody pulls it. -/
structure ImageCache where
  images : Table String ImageState
  deriving Repr

namespace ImageCache

/-- What an event brings about. -/
inductive Effect
  /-- A pull of the image starts. -/
  | starts (image : String)
  /-- A caller is answered. -/
  | answers (caller : Nat) (outcome : Outcome Unit)

/-- What happens to a cache. -/
inductive Event
  /-- A caller asks for an image. -/
  | arrives (caller : Nat) (image : String)
  /-- The pull of an image that is under way ends. -/
  | settles (image : String) (outcome : Outcome Unit)

/-- Nothing is pulled. -/
def empty : ImageCache := ⟨.empty⟩

instance : Inhabited ImageCache := ⟨empty⟩

/-- Whether an image has been pulled. -/
def isPulled (c : ImageCache) (image : String) : Bool := c.images.find? image = some .pulled

/-- The cache with an image in a state. -/
def set (c : ImageCache) (image : String) (state : ImageState) : ImageCache :=
  ⟨c.images.insert image state⟩

/-- The cache in which nobody has asked for an image. -/
def forget (c : ImageCache) (image : String) : ImageCache := ⟨c.images.erase image⟩

/-- A caller asks for an image. -/
def arrive (c : ImageCache) (caller : Nat) (image : String) : ImageCache × List Effect :=
  match c.images.find? image with
  | none => (c.set image (.pulling caller []), [.starts image])
  | some (.pulling puller waiting) => (c.set image (.pulling puller (waiting ++ [caller])), [])
  | some .pulled => (c, [.answers caller (.ok ())])

/-- The pull of an image ends. -/
def settle (c : ImageCache) (image : String) (outcome : Outcome Unit) : ImageCache × List Effect :=
  match c.images.find? image, outcome with
  | some (.pulling puller waiting), .ok () =>
    (c.set image .pulled, (puller :: waiting).map fun caller => .answers caller (.ok ()))
  | some (.pulling puller []), .error e => (c.forget image, [.answers puller (.error e)])
  | some (.pulling puller (next :: waiting)), .error e =>
    (c.set image (.pulling next waiting), [.answers puller (.error e), .starts image])
  | _, _ => (c, [])

/-- An event happens. -/
def step (c : ImageCache) : Event → ImageCache × List Effect
  | .arrives caller image => c.arrive caller image
  | .settles image outcome => c.settle image outcome

/-- Events happen, one after another. -/
def steps (c : ImageCache) : List Event → ImageCache × List Effect
  | [] => (c, [])
  | e :: rest =>
    let (c, first) := c.step e
    let (c, later) := c.steps rest
    (c, first ++ later)

/-! ## Callers -/

variable {σ : Type}

/-- A single caller. `pull` is what a pull does. -/
def ensure (pull : String → σ → Outcome Unit × σ) (image : String) (c : ImageCache) (s : σ) :
    Outcome Unit × ImageCache × σ :=
  if c.isPulled image then (.ok (), c, s)
  else match pull image s with
    | (.ok (), s) => (.ok (), c.set image .pulled, s)
    | (.error e, s) => (.error e, c, s)

/-- The pulls that start. -/
def started : List Effect → List String
  | [] => []
  | .starts image :: rest => image :: started rest
  | .answers _ _ :: rest => started rest

/-- The answers that are given. -/
def answered : List Effect → List (Nat × Outcome Unit)
  | [] => []
  | .starts _ :: rest => answered rest
  | .answers caller outcome :: rest => (caller, outcome) :: answered rest

/-- Settles the pulls that are under way, the first one first; a pull that starts meanwhile goes to
the end. Every settled pull answers a caller, so `callers` bounds the number of pulls. -/
def settleInTurn (pull : String → σ → Outcome Unit × σ) :
    (callers : Nat) → (underWay : List String) → ImageCache → σ →
    List (Nat × Outcome Unit) × ImageCache × σ
  | 0, _, c, s => ([], c, s)
  | _, [], c, s => ([], c, s)
  | callers + 1, image :: underWay, c, s =>
    let (outcome, s) := pull image s
    let (c, effects) := c.settle image outcome
    let (later, c, s) := settleInTurn pull callers (underWay ++ started effects) c s
    (answered effects ++ later, c, s)

/-- Lets callers arrive, numbered from `caller` on. -/
def arriveAll (c : ImageCache) (caller : Nat) : List String → ImageCache × List Effect
  | [] => (c, [])
  | image :: rest =>
    let (c, first) := c.arrive caller image
    let (c, later) := c.arriveAll (caller + 1) rest
    (c, first ++ later)

/-- Callers that arrive together, one for each of the images; the answers are in their order. -/
def ensureAll (pull : String → σ → Outcome Unit × σ) (images : List String) (c : ImageCache)
    (s : σ) : List (Outcome Unit) × ImageCache × σ :=
  let (c, effects) := c.arriveAll 0 images
  let (settled, c, s) := settleInTurn pull images.length (started effects) c s
  let answers := Table.ofList (answered effects ++ settled)
  (answers.values, c, s)

end ImageCache

end Fleet
