import Fleet.Proofs.Failures
import Fleet.Proofs.Rehearsal.Containers

/-!
# Laws of noted identity calls

Calls fail about chosen realms only, and no call changes the choice (`failing_handler`). So a
rehearsal in which none is chosen grants every call, in whatever order calls are made.
-/

namespace Fleet

namespace IdentityLog

variable {l : IdentityLog} {realm : String}

/-- A call about a realm that is not chosen is answered. -/
theorem note_ok {α : Type} (h : realm ∉ l.failing) (text : String) (answer : α) :
    (l.note realm text answer).1 = .ok answer := by
  have hanswers : ¬ l.failing.contains realm = true :=
    fun hfails => h (List.contains_iff_mem.1 hfails)
  rw [note, if_neg hanswers]

/-- A token is granted for a realm about which calls do not fail. -/
theorem accessToken_ok (h : realm ∉ l.failing) (grant : Grant) :
    (handler (.accessToken realm grant) l).1 = .ok ⟨s!"{realm}-{grantText grant}-token"⟩ :=
  note_ok h _ _

/-- Where no realm is chosen, no call fails. -/
theorem not_fails (h : l.failing = []) (call : IdentityCall) (e : Failure) :
    ¬ call.Fails (handler call l).1 e := by
  have hnote : ∀ {α : Type} (realm text : String) (answer : α),
      (l.note realm text answer).1 ≠ .error e := by
    intro α realm text answer
    have hrealm : realm ∉ l.failing := h ▸ List.not_mem_nil
    rw [note_ok hrealm]
    exact nofun
  cases call <;> exact hnote _ _ _

/-- About which tenants calls fail is not changed by calls. -/
theorem failing_handler (call : IdentityCall) (l : IdentityLog) :
    (handler call l).2.failing = l.failing := by
  have hnote : ∀ {α : Type} (tenant text : String) (answer : α),
      (l.note tenant text answer).2.failing = l.failing := by
    intro α tenant text answer
    unfold note
    split <;> rfl
  cases call <;> exact hnote _ _ _

end IdentityLog

/-- No step of a rehearsal changes about which realms calls fail. -/
theorem Rehearsal.failing_handler (listing : List ListingEntry) (token : Token) (call : Call)
    (s : RunState Rehearsal) :
    ((Rehearsal.collaborators listing token).handler call s).2.services.identity.failing =
      s.services.identity.failing := by
  cases call with
  | identity i => exact IdentityLog.failing_handler i s.services.identity
  | ensureImage image auth =>
    obtain ⟨pulls, hservices⟩ := Rehearsal.services_ensureImage listing token auth image s
    show ((Rehearsal.collaborators listing token).ensureImage auth image
      s).2.services.identity.failing = _
    rw [hservices]
  | _ => rfl

end Fleet
