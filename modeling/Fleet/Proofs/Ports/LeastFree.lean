import Fleet.Proofs.Ports.Drawing

/-!
# The least free port

An allocator looks at each port of its range once and never goes back, and yet it answers as if it
searched the whole range each time (`search`): a draw yields the least port of the range that was
not granted before. That nothing is missed is `Swept`; with the ports that were granted this makes a
view of an allocator (`Shows`) in which the next port to look at does not appear. So what a failed
request does to the next port is not seen in any later answer.

The next port is counted in sixteen bits. It is counted up only while it is less than the end of the
range, so counting never starts over: a draw that refuses to count beyond the last port
(`allocate?`) is the same (`allocate?_eq`).

`searches_range` puts this together for every range and every run of requests.
-/

namespace Fleet.PortAllocator

/-! ## Counting -/

/-- Before the end of a range there is a next port. -/
theorem next_lt_size {a : PortAllocator} (h : a.next < a.stop) :
    a.next.toNat + 1 < UInt16.size := by
  have hlt : a.next.toNat < a.stop.toNat := UInt16.lt_iff_toNat_lt.1 h
  have hstop : a.stop.toNat < UInt16.size := a.stop.toNat_lt
  omega

/-- A draw that has no answer where it would have to count beyond the last port. -/
def allocate? (a : PortAllocator) : Option (Outcome Port × PortAllocator) :=
  if a.next < a.stop then
    if a.next.toNat + 1 < UInt16.size then
      if a.taken.contains a.next then allocate? { a with next := a.next + 1 }
      else some (.ok a.next, { a with next := a.next + 1, taken := a.taken.add a.next })
    else none
  else some (.error (.portsExhausted a.first a.stop), a)
termination_by a.stop.toNat - a.next.toNat
decreasing_by
  next hlt hcounted _ =>
    have hnext : (a.next + 1).toNat = a.next.toNat + 1 := by
      rw [UInt16.toNat_add]
      exact Nat.mod_eq_of_lt hcounted
    have hstop : a.next.toNat < a.stop.toNat := UInt16.lt_iff_toNat_lt.1 hlt
    simp only [hnext]
    omega

/-- No draw counts beyond the last port. -/
theorem allocate?_eq (a : PortAllocator) : a.allocate? = some a.allocate := by
  fun_induction allocate a with
  | case1 a hlt htaken ih =>
    rw [allocate?, if_pos hlt, if_pos (next_lt_size hlt), if_pos htaken, ih]
  | case2 a hlt hfree => rw [allocate?, if_pos hlt, if_pos (next_lt_size hlt), if_neg hfree]
  | case3 a hend => rw [allocate?, if_neg hend]

/-! ## Search -/

/-- The least port of a range that is not among some. -/
def leastFree? (first stop : Port) (ports : List Port) : Option Port :=
  (Port.span first stop).find? fun p => !ports.contains p

/-- The answer to a request where some ports have been granted, by a search through the range. -/
def found (first stop : Port) (ports : List Port) : Request → Outcome Port
  | .any =>
    match leastFree? first stop ports with
    | some p => .ok p
    | none => .error (.portsExhausted first stop)
  | .port p => if p ∈ ports then .error (.portTaken p) else .ok p

theorem found_any_eq_ok_iff {first stop p : Port} {ports : List Port} :
    found first stop ports .any = .ok p ↔ leastFree? first stop ports = some p := by
  rw [found]
  cases leastFree? first stop ports <;> simp

theorem found_any_eq_error_iff {first stop : Port} {ports : List Port} {e : Failure} :
    found first stop ports .any = .error e ↔
      e = .portsExhausted first stop ∧ leastFree? first stop ports = none := by
  rw [found]
  cases leastFree? first stop ports <;> simp [eq_comm]

/-- The answers to requests, one after another, where some ports have been granted. -/
def search (first stop : Port) (ports : List Port) : List Request → List (Outcome Port)
  | [] => []
  | q :: rest =>
    let answer := found first stop ports q
    answer :: search first stop (ports ++ granted [answer]) rest

/-- The allocator holds the ports that were granted, and nothing free has been passed over. -/
structure Shows (ports : List Port) (a : PortAllocator) : Prop where
  swept : a.Swept
  mem_taken : ∀ p, p ∈ a.taken ↔ p ∈ ports

variable {a b : PortAllocator} {p : Port} {ports : List Port}

theorem leastFree?_eq_none_iff {first stop : Port} :
    leastFree? first stop ports = none ↔ ∀ p, first ≤ p → p < stop → p ∈ ports := by
  simp only [leastFree?, List.find?_eq_none, Port.mem_span, and_imp]
  simp

/-- A port before the one that is found was passed over, because it is among the ports. -/
theorem mem_of_lt_leastFree? {first stop q : Port} (h : leastFree? first stop ports = some p)
    (hfirst : first ≤ q) (hlt : q < p) : q ∈ ports := by
  obtain ⟨_, before, behind, hspan, hpassed⟩ := List.find?_eq_some_iff_append.1 h
  have hp : p ∈ Port.span first stop := hspan ▸ List.mem_append_right _ List.mem_cons_self
  have hq : q ∈ before ++ p :: behind :=
    hspan ▸ Port.mem_span.2 ⟨hfirst, UInt16.lt_trans hlt (Port.mem_span.1 hp).2⟩
  have hascending : (before ++ p :: behind).Pairwise (· < ·) := hspan ▸ Port.pairwise_span
  have hbehind : ∀ x ∈ behind, p < x :=
    (List.pairwise_cons.1 (List.pairwise_append.1 hascending).2.1).1
  have hbefore : q ∈ before := by
    refine (List.mem_append.1 hq).resolve_right fun hmem => ?_
    rcases List.mem_cons.1 hmem with rfl | hmem
    · exact UInt16.lt_irrefl _ hlt
    · exact UInt16.lt_irrefl _ (UInt16.lt_trans hlt (hbehind q hmem))
  simpa using hpassed q hbefore

/-- The search finds the least port of the range that is not among the ports. -/
theorem leastFree?_eq_some_iff {first stop : Port} :
    leastFree? first stop ports = some p ↔
      first ≤ p ∧ p < stop ∧ p ∉ ports ∧ ∀ q, first ≤ q → q < p → q ∈ ports := by
  constructor
  · intro h
    obtain ⟨hfirst, hstop⟩ := Port.mem_span.1 (List.mem_of_find?_eq_some h)
    have hfree : p ∉ ports := by simpa using List.find?_some h
    exact ⟨hfirst, hstop, hfree, fun q => mem_of_lt_leastFree? h⟩
  · rintro ⟨hfirst, hstop, hfree, hleast⟩
    cases hfound : leastFree? first stop ports with
    | none => exact absurd (leastFree?_eq_none_iff.1 hfound p hfirst hstop) hfree
    | some q =>
      obtain ⟨hq, _⟩ := Port.mem_span.1 (List.mem_of_find?_eq_some hfound)
      have hqfree : q ∉ ports := by simpa using List.find?_some hfound
      have hle : p ≤ q := UInt16.not_lt.1 fun hlt => hqfree (hleast q hq hlt)
      have hge : q ≤ p := UInt16.not_lt.1 fun hlt => hfree (mem_of_lt_leastFree? hfound hfirst hlt)
      rw [UInt16.le_antisymm hle hge]

namespace Shows

theorem free_eq (h : Shows ports a) :
    a.free = (Port.span a.first a.stop).filter fun p => !ports.contains p := by
  refine List.filter_congr fun p _ => ?_
  have hmem : a.isTaken p = ports.contains p := by
    rw [Bool.eq_iff_iff, isTaken, PortSet.contains_iff, h.mem_taken, List.contains_iff_mem]
  rw [hmem]

/-- What is found by the search is the first of the ports that are left. -/
theorem head?_left (h : Shows ports a) : a.left.head? = leastFree? a.first a.stop ports := by
  rw [h.swept.left_eq, h.free_eq, List.head?_filter]
  rfl

/-- A draw yields what is found by the search. -/
theorem allocate_eq (h : Shows ports a) : a.allocate.1 = found a.first a.stop ports .any := by
  have hhead := h.head?_left
  cases hdraw : a.allocate with
  | mk o b =>
    cases o with
    | ok p =>
      rw [(allocate_draws hdraw).left] at hhead
      rw [found, ← hhead]
      rfl
    | error e =>
      obtain ⟨hleft, rfl, _⟩ := allocate_error hdraw
      have hb := allocate_takes_nil hdraw
      rw [hleft] at hhead
      rw [found, ← hhead, hb.first, hb.stop]
      rfl

theorem reserve_eq (h : Shows ports a) (p : Port) :
    (a.reserve p).1 = if p ∈ ports then .error (.portTaken p) else .ok () := by
  rcases reserve_cases a p with ⟨hnew, hp⟩ | ⟨htaken, hp⟩
  · rw [hp, if_neg (mt (h.mem_taken p).2 hnew)]
  · rw [hp, if_pos ((h.mem_taken p).1 htaken)]

theorem answer_eq (h : Shows ports a) (q : Request) :
    (a.answer q).1 = found a.first a.stop ports q := by
  cases q with
  | any => exact h.allocate_eq
  | port p =>
    rw [answer_port, h.reserve_eq p, found]
    split <;> rfl

/-- An answer adds the port that it grants. -/
theorem answer (h : Shows ports a) (q : Request) :
    Shows (ports ++ granted [(a.answer q).1]) (a.answer q).2 where
  swept := by
    cases q with
    | any => exact h.swept.allocate
    | port p =>
      rw [answer_port]
      exact h.swept.reserve p
  mem_taken p := by
    rw [(answer_takes q a).mem_taken, h.mem_taken, List.mem_append, or_comm]

/-- A run of requests is answered as by the search. -/
theorem serve_eq (requests : List Request) (h : Shows ports a) :
    (a.serve requests).1 = search a.first a.stop ports requests ∧
      Shows (ports ++ granted (a.serve requests).1) (a.serve requests).2 := by
  induction requests generalizing a ports with
  | nil => exact ⟨rfl, by rwa [serve, granted, List.append_nil]⟩
  | cons q rest ih =>
    have htakes := answer_takes q a
    obtain ⟨hanswers, hshows⟩ := ih (h.answer q)
    rw [htakes.first, htakes.stop] at hanswers
    refine ⟨?_, ?_⟩
    · rw [search, ← h.answer_eq q, ← hanswers]
      rfl
    · show Shows (ports ++ granted ((a.answer q).1 :: ((a.answer q).2.serve rest).1)) _
      rwa [granted_cons, ← List.append_assoc]

theorem between (first stop : Port) : Shows [] (between first stop) where
  swept := swept_between first stop
  mem_taken _ := Iff.rfl

/-- What is issued is what was granted. -/
theorem issued_perm (h : Shows ports a) (hdistinct : ports.Nodup) : a.issued.Perm ports := by
  have hissued : a.issued.Nodup := a.pairwise_issued.imp fun hlt => UInt16.ne_of_lt hlt
  rw [List.perm_ext_iff_of_nodup hissued hdistinct]
  exact fun p => mem_issued.trans (h.mem_taken p)

/-- Allocators of one range that hold the same ports give the same answers, wherever they look next.
-/
theorem alike (ha : Shows ports a) (hb : Shows ports b) (hfirst : b.first = a.first)
    (hstop : b.stop = a.stop) (more : List Request) :
    (b.serve more).1 = (a.serve more).1 ∧ (b.serve more).2.issued = (a.serve more).2.issued := by
  obtain ⟨hanswers, hshows⟩ := serve_eq more ha
  obtain ⟨hanswers', hshows'⟩ := serve_eq more hb
  have hsame : (b.serve more).1 = (a.serve more).1 := by rw [hanswers, hanswers', hfirst, hstop]
  refine ⟨hsame, (pairwise_issued _).eq_of_mem_iff (pairwise_issued _) fun p => ?_⟩
  rw [mem_issued, mem_issued, hshows.mem_taken, hshows'.mem_taken, hsame]

end Shows

/-! ## Any range, any requests -/

/-- An allocator of a range that has answered requests. -/
def after (first stop : Port) (requests : List Request) : PortAllocator :=
  ((between first stop).serve requests).2

/-- The ports that it has granted. -/
def grantedIn (first stop : Port) (requests : List Request) : List Port :=
  granted ((between first stop).serve requests).1

theorem shows_after (first stop : Port) (requests : List Request) :
    Shows (grantedIn first stop requests) (after first stop requests) :=
  (Shows.serve_eq requests (.between first stop)).2

/-- An allocator of a range that has answered requests goes on as if it searched the whole range for
every draw. -/
structure SearchesRange (first stop : Port) (requests : List Request) : Prop where
  /-- The requests were answered as by a search through the range. -/
  answers : ((between first stop).serve requests).1 = search first stop [] requests
  /-- A draw yields the least port of the range that was not granted. -/
  draws : ∀ p, (after first stop requests).allocate.1 = .ok p ↔
    first ≤ p ∧ p < stop ∧ p ∉ grantedIn first stop requests ∧
      ∀ q, first ≤ q → q < p → q ∈ grantedIn first stop requests
  /-- It fails exactly when every port of the range was granted, and the failure names the range. -/
  exhausted : ∀ e, (after first stop requests).allocate.1 = .error e ↔
    e = .portsExhausted first stop ∧
      ∀ p, first ≤ p → p < stop → p ∈ grantedIn first stop requests
  /-- A reservation fails exactly when its port was granted. -/
  reserves : ∀ p, ((after first stop requests).reserve p).1 =
    if p ∈ grantedIn first stop requests then .error (.portTaken p) else .ok ()
  /-- The ports issued are those that were granted, in ascending order and each of them once. -/
  ascending : (after first stop requests).issued.Pairwise (· < ·)
  issued : (after first stop requests).issued.Perm (grantedIn first stop requests)
  /-- A request that fails is not seen in any later answer, nor in what is issued later. -/
  failed : ∀ q e, ((after first stop requests).answer q).1 = .error e → ∀ more,
    (((after first stop requests).answer q).2.serve more).1 =
        ((after first stop requests).serve more).1 ∧
      (((after first stop requests).answer q).2.serve more).2.issued =
        ((after first stop requests).serve more).2.issued
  /-- A draw never counts beyond the last port. -/
  counts : (after first stop requests).allocate? = some (after first stop requests).allocate

/-- Over every range and after any requests, an allocator searches its range. -/
theorem searches_range (first stop : Port) (requests : List Request) :
    SearchesRange first stop requests := by
  have hshows := shows_after first stop requests
  have htakes := serve_takes requests (between first stop)
  have hfirst : (after first stop requests).first = first := htakes.first
  have hstop : (after first stop requests).stop = stop := htakes.stop
  have hdraw := hshows.allocate_eq
  rw [hfirst, hstop] at hdraw
  refine
    { answers := (Shows.serve_eq requests (.between first stop)).1
      draws := fun p => ?draws
      exhausted := fun e => ?exhausted
      reserves := hshows.reserve_eq
      ascending := pairwise_issued _
      issued := hshows.issued_perm htakes.nodup
      failed := fun q e hfails more => ?failed
      counts := allocate?_eq _ }
  case draws => rw [hdraw, found_any_eq_ok_iff, leastFree?_eq_some_iff]
  case exhausted => rw [hdraw, found_any_eq_error_iff, leastFree?_eq_none_iff]
  case failed =>
    have hsame := hshows.answer q
    rw [hfails, granted, granted, List.append_nil] at hsame
    have hanswer := answer_takes q (after first stop requests)
    exact hshows.alike hsame hanswer.first hanswer.stop more

/-- Also the last port that can be in a range is drawn, and only once. -/
example : search 65533 65535 [] [.port 65533, .any, .any] =
    [.ok 65533, .ok 65534, .error (.portsExhausted 65533 65535)] := by decide

end Fleet.PortAllocator
