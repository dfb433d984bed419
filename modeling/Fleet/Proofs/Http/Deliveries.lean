import Fleet.Proofs.Http.Retries

/-!
# Requests that get through

Under any handler, a request that succeeds has been sent until its first final answer, which
reports success: the calls on the way are a `Delivery`. An errand that `Sends` requests gets them
through one after another and does nothing else; what it sends follows the structure of errands
(`Sends.bind`).
-/

namespace Fleet.Http.Client

/-- The calls by which a message gets through: exchanges that lie a pause apart, of which only the
last one is answered for good, and with success. -/
inductive Delivery (c : Client) (m : Message) : Calls → Prop
  | last {reply : Reply} (h : reply.isSuccess = true) :
      Delivery c m [⟨.exchange m c.patience, .ok reply⟩]
  | again {answer : Except TransportFault Reply} {rest : Calls} (h : ¬Final answer)
      (hrest : Delivery c m rest) :
      Delivery c m
        (⟨.exchange m c.patience, answer⟩ :: ⟨.sleep c.budget.delayMillis, ()⟩ :: rest)

/-- The calls by which requests get through one after another. -/
inductive Deliveries (c : Client) : List Request → Calls → Prop
  | nil : Deliveries c [] []
  | cons {r : Request} {m : Message} {rs : List Request} {calls later : Calls}
      (hm : r.message? = some m) (h : Delivery c m calls) (hrest : Deliveries c rs later) :
      Deliveries c (r :: rs) (calls ++ later)

theorem Deliveries.append {c : Client} {rs rs' : List Request} {calls later : Calls}
    (h : Deliveries c rs calls) (hlater : Deliveries c rs' later) :
    Deliveries c (rs ++ rs') (calls ++ later) := by
  induction h with
  | nil => exact hlater
  | cons hm h _ ih =>
    rw [List.cons_append, List.append_assoc]
    exact .cons hm h ih

/-- An errand gets requests through under a handler, does nothing else, and ends with an outcome. -/
structure Sends {σ α : Type} (c : Client) (handler : Handler MachineCall.Answer σ) (t : σ)
    (a : Errand α) (rs : List Request) (o : Outcome α) (t' : σ) : Prop where
  calls : Deliveries c rs (Program.trace handler a.run t)
  ends : Program.run handler a.run t = (o, t')

variable {σ α β : Type} {c : Client} {handler : Handler MachineCall.Answer σ} {t t₁ t' : σ}

theorem sends_pure {value : α} : c.Sends handler t (pure value) [] (.ok value) t := ⟨.nil, rfl⟩

theorem sends_throw {e : Failure} : c.Sends handler t (throw e : Errand α) [] (.error e) t :=
  ⟨.nil, rfl⟩

/-- An errand goes on with the value that its first part ends with. -/
theorem Sends.bind {a : Errand α} {f : α → Errand β} {rs rs' : List Request} {value : α}
    {o : Outcome β} (h : c.Sends handler t a rs (.ok value) t₁)
    (hrest : c.Sends handler t₁ (f value) rs' o t') :
    c.Sends handler t (a >>= f) (rs ++ rs') o t' := by
  constructor
  · have htrace : Program.trace handler (a >>= f).run t =
        Program.trace handler a.run t ++ Program.trace handler (f value).run t₁ := by
      show Program.trace handler (Program.bind a.run (ExceptT.bindCont f)) t = _
      rw [Program.trace_bind, h.ends]
      rfl
    rw [htrace]
    exact h.calls.append hrest.calls
  · rw [Program.run_bind_of_ok h.ends]
    exact hrest.ends

/-- An errand that ends well behind another one. -/
theorem Sends.bind_pure {a : Errand α} {f : α → Errand β} {rs : List Request} {value : α}
    {value' : β} (h : c.Sends handler t a rs (.ok value) t') (hf : f value = pure value') :
    c.Sends handler t (a >>= f) rs (.ok value') t' := by
  have hlast : c.Sends handler t' (f value) [] (.ok value') t' := hf ▸ sends_pure
  simpa using h.bind hlast

theorem delivery_attempt {m : Message} {more : Nat} {reply : Reply}
    (h : (c.attempt m more).run handler t = (.ok reply, t')) (hsuccess : reply.isSuccess = true) :
    Delivery c m ((c.attempt m more).trace handler t) := by
  induction more generalizing t with
  | zero =>
    have hanswer : (handler (.exchange m c.patience) t).1 = .ok reply := congrArg Prod.fst h
    show Delivery c m [⟨_, (handler (.exchange m c.patience) t).1⟩]
    rw [hanswer]
    exact .last hsuccess
  | succ more ih =>
    rw [run_attempt_succ] at h
    rw [trace_attempt_succ]
    split at h
    · next htransient =>
      rw [if_pos htransient]
      refine .again (fun hfinal => ?_) (ih h)
      rw [isTransient_eq_false_iff.2 hfinal] at htransient
      cases htransient
    · next hkept =>
      have hanswer : (handler (.exchange m c.patience) t).1 = .ok reply := congrArg Prod.fst h
      rw [if_neg hkept, hanswer]
      exact .last hsuccess

/-- A request succeeds by a reply that reports success. -/
theorem eq_ok_of_ofSuccess {service : String} {answer : Except TransportFault Reply}
    {reply : Reply} (h : ofSuccess service answer = .ok reply) :
    answer = .ok reply ∧ reply.isSuccess = true := by
  cases answer with
  | error fault => cases h
  | ok kept =>
    rw [ofSuccess] at h
    split at h
    · next hsuccess =>
      cases h
      exact ⟨rfl, by simpa [Reply.isSuccess] using hsuccess⟩
    · cases h

/-- A request that succeeds gets through. -/
theorem sends_send {service : String} {r : Request} {reply : Reply}
    (h : Program.run handler (c.send service r).run t = (.ok reply, t')) :
    c.Sends handler t (c.send service r) [r] (.ok reply) t' := by
  refine ⟨?_, h⟩
  cases hm : r.message? with
  | none =>
    rw [run_send_of_no_message c service hm] at h
    cases h
  | some m =>
    have hattempt : Program.run handler (c.attempt m (c.budget.attempts - 1)) t = _ := rfl
    rw [run_send_of_message c service hm] at h ⊢
    rw [Program.run_bind_of hattempt] at h
    obtain ⟨hanswer, hsuccess⟩ := eq_ok_of_ofSuccess (congrArg Prod.fst h)
    have hdelivery := delivery_attempt (Prod.ext hanswer rfl) hsuccess
    show Deliveries c [r] (Program.trace handler (Program.bind _ _) t)
    rw [Program.trace_bind]
    exact .cons hm hdelivery .nil

end Fleet.Http.Client
