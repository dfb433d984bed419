import Fleet.Proofs.Text.Pieces
import Fleet.Proofs.Text.Utf8
import Fleet.Site

/-!
# Root tokens in docker's logs

A container writes to two outputs, and docker shows the one behind the other. So the root token is
the one announced last in the error output, or else the one announced last in the output, but this
supposes that the output ends its last line: nothing is put between the two. What is left of the
output behind its last line feed is read as the beginning of the first line of the error output
(`rootTokenInLog_finds`), and this may make a wrong token of a right one (`token_run_together`).
-/

namespace Fleet.RootToken

open Text (CutAt Trimmed Ended lines)

/-- A line announces a token: behind the first marker nothing else stands, blanks apart. -/
structure Announces (line token : String) : Prop where
  nonempty : token ≠ ""
  behind : ∃ front back, CutAt marker.toList line.toList front back ∧ Trimmed back token.toList

/-- A token is announced in a log, and nothing is announced behind it. -/
def AnnouncedLast (log token : String) : Prop :=
  ∃ before line after, lines log = before ++ line :: after ∧ Announces line token ∧
    ∀ later ∈ after, ∀ token', ¬ Announces later token'

/-- No line of a log announces anything. -/
def Silent (log : String) : Prop := ∀ line ∈ lines log, ∀ token, ¬ Announces line token

/-- What is answered for a container when its logs are an earlier and a later one: the last
announcement of the later log counts, and that of the earlier log only without one. -/
structure Finds (container earlier later : String) (answer : Outcome Token) : Prop where
  inLater : ∀ token, AnnouncedLast later token → answer = .ok ⟨token⟩
  inEarlier : Silent later → ∀ token, AnnouncedLast earlier token → answer = .ok ⟨token⟩
  inNeither : answer = .error (.runtime (.noRootToken container)) ↔ Silent earlier ∧ Silent later

variable {line log token container earlier later : String}

/-! ## Reading a log -/

theorem ofLine?_eq_some_iff : ofLine? line = some token ↔ Announces line token := by
  unfold ofLine?
  split
  · next hcut =>
    constructor
    · nofun
    · rintro ⟨_, front, back, hfirst, _⟩
      have hsome : Text.cut? marker line = some (String.ofList front, String.ofList back) :=
        Text.cut?_eq_some_iff.2 (by simpa using hfirst)
      rw [hcut] at hsome
      cases hsome
  · next front back hcut =>
    have hfirst := Text.cut?_eq_some_iff.1 hcut
    have htrim : Text.trim back = token ↔ Trimmed back.toList token.toList := by
      rw [← Text.trimChars_eq_iff, Text.trim, ← String.toList_inj, String.toList_ofList]
    show (if (Text.trim back).isEmpty then none else some (Text.trim back)) = some token ↔ _
    constructor
    · intro h
      split at h
      · cases h
      · next hne =>
        obtain rfl := Option.some.inj h
        exact ⟨mt String.isEmpty_iff.2 hne, _, _, hfirst, htrim.1 rfl⟩
    · rintro ⟨hne, front', back', hfirst', htrimmed⟩
      obtain ⟨_, rfl⟩ := hfirst.unique hfirst'
      rw [htrim.2 htrimmed]
      exact if_neg (mt String.isEmpty_iff.1 hne)

theorem ofLine?_eq_none_iff : ofLine? line = none ↔ ∀ token, ¬ Announces line token := by
  simp only [← ofLine?_eq_some_iff, Option.eq_none_iff_forall_ne_some, ne_eq]

theorem ofLog?_eq_some_iff : ofLog? log = some token ↔ AnnouncedLast log token := by
  rw [ofLog?, List.findSome?_eq_some_iff]
  simp only [AnnouncedLast, ofLine?_eq_some_iff, ofLine?_eq_none_iff, List.reverse_eq_append_iff,
    List.reverse_cons, List.append_assoc, List.singleton_append]
  constructor
  · rintro ⟨after, line, before, hlines, hline, hafter⟩
    exact ⟨_, line, _, hlines, hline, fun later hlater => hafter later (List.mem_reverse.1 hlater)⟩
  · rintro ⟨before, line, after, hlines, hline, hafter⟩
    refine ⟨after.reverse, line, before.reverse, ?_, hline, fun later hlater =>
      hafter later (List.mem_reverse.1 hlater)⟩
    rw [List.reverse_reverse, List.reverse_reverse, hlines]

theorem ofLog?_eq_none_iff : ofLog? log = none ↔ Silent log := by
  rw [ofLog?, List.findSome?_eq_none_iff]
  simp only [List.mem_reverse, ofLine?_eq_none_iff, Silent]

/-- If the earlier log ends its last line, the later one is looked through before it. -/
theorem ofLog?_append (h : Ended earlier) :
    ofLog? (earlier ++ later) = (ofLog? later).or (ofLog? earlier) := by
  rw [ofLog?, Text.lines_append_of_ended h, List.reverse_append, List.findSome?_append, ofLog?,
    ofLog?]

/-! ## Reading docker's log -/

/-- What is answered for what is found in a log. -/
def answerOf (container : String) : Option String → Outcome Token
  | some token => .ok ⟨token⟩
  | none => .error (.runtime (.noRootToken container))

theorem finds_answerOf :
    Finds container earlier later (answerOf container ((ofLog? later).or (ofLog? earlier))) where
  inLater token h := by rw [ofLog?_eq_some_iff.2 h]; rfl
  inEarlier hsilent token h := by
    rw [ofLog?_eq_none_iff.2 hsilent, ofLog?_eq_some_iff.2 h]
    rfl
  inNeither := by
    rw [← ofLog?_eq_none_iff, ← ofLog?_eq_none_iff, and_comm, ← Option.or_eq_none_iff]
    cases (ofLog? later).or (ofLog? earlier) <;> simp [answerOf]

variable {σ : Type}

theorem run_read {runtime : Handler RuntimeCall.Answer σ} {s s' : σ}
    (h : runtime (.logs container) s = (.ok log, s')) :
    Collaborators.rootTokenInLog runtime container s = (answerOf container (ofLog? log), s') := by
  have hlog : Program.run runtime (Program.perform (RuntimeCall.logs container)) s =
      (.ok log, s') := by
    rw [Program.perform, Program.run, h]
    rfl
  refine (Program.run_bind_of_ok hlog).trans ?_
  cases hfound : ofLog? log <;> rfl

theorem run_logs {handler : Handler MachineCall.Answer σ} {c : Docker.Client}
    {output errors : List UInt8} {s s' : σ}
    (h : Program.run handler
      (Docker.Client.execute ⟨c.program, Docker.logsArguments container, none⟩ none) s =
        (.exited 0 output errors, s')) :
    Program.run handler (c.serve (.logs container)) s =
      (.ok (Text.repair output ++ Text.repair errors), s') := by
  refine (Program.run_bind_of_ok (a := .exited 0 output errors) (t := s') ?_).trans rfl
  exact Program.run_bind_of h

/-- The root token is announced last in the error output, or else last in the output, when the
output ends its last line or there is no error output. In general the line that the output does not
end is read with the error output, as the beginning of its first line. -/
theorem rootTokenInLog_finds (handler : Handler MachineCall.Answer σ) (c : Docker.Client)
    (container output errors : String) (s s' : σ)
    (h : Program.run handler
      (Docker.Client.execute ⟨c.program, Docker.logsArguments container, none⟩ none) s =
        (.exited 0 (Text.bytes output) (Text.bytes errors), s')) :
    ∃ answer, Collaborators.rootTokenInLog (fun call => Program.run handler (c.serve call))
        container s = (answer, s') ∧
      (Ended output ∨ errors = "" → Finds container output errors answer) ∧
      ∃ ended rest, output = ended ++ rest ∧ Ended ended ∧ '\n' ∉ rest.toList ∧
        Finds container ended (rest ++ errors) answer := by
  have hlogs := run_logs h
  rw [Text.repair_bytes, Text.repair_bytes] at hlogs
  refine ⟨_, run_read hlogs, ?_, ?_⟩
  · rintro (hended | rfl)
    · rw [ofLog?_append hended]
      exact finds_answerOf
    · have hnone : ofLog? "" = none := ofLog?_eq_none_iff.2 fun line hline => by cases hline
      have hfinds := @finds_answerOf container output ""
      rw [hnone, Option.none_or] at hfinds
      rwa [String.append_empty]
  · obtain ⟨ended, rest, rfl, hended, hrest⟩ := Text.exists_ended_append output
    refine ⟨ended, rest, rfl, hended, hrest, ?_⟩
    rw [String.append_assoc, ofLog?_append hended]
    exact finds_answerOf

/-- A site whose machine has docker write a log. -/
def logging (output errors : String) : Site :=
  { machine := { commands := [.exit 0 (Text.bytes output) (Text.bytes errors)] } }

/-- A token is announced twice in the output. The error output announces another one, which counts,
or none, and then the second one of the output counts. -/
theorem rootTokenInLog_finds_renewed :
    let output := "Root Token: s.one" ++ "\n" ++ "Root Token:  s.two " ++ "\n"
    let errors := "vault is sealed" ++ "\n" ++ "Root Token: s.three"
    ((Site.live {}).rootToken (logging output errors)).1 = .ok ⟨"s.three"⟩ ∧
      ((Site.live {}).rootToken (logging output "vault is sealed")).1 = .ok ⟨"s.two"⟩ := by
  intro output errors
  let machine : Handler MachineCall.Answer Site := fun call => Site.onMachine (Program.perform call)
  have hruntime : Site.docker {} = fun call =>
      Program.run machine ((Docker.Client.ofConfig {}).serve call) :=
    funext fun call => Site.onMachine_eq_run _
  have hfinds : ∀ output errors, Ended output → Finds "vault" output errors
      ((Site.live {}).rootToken (logging output errors)).1 := by
    intro output errors hended
    obtain ⟨answer, hread, hfinds, _⟩ := rootTokenInLog_finds machine (Docker.Client.ofConfig {})
      "vault" output errors (logging output errors) _ (by rfl)
    show Finds _ _ _
      (Collaborators.rootTokenInLog (Site.docker {}) "vault" (logging output errors)).1
    rw [hruntime, hread]
    exact hfinds (.inl hended)
  have hended : Ended output := by
    rw [← String.append_empty (s := output)]
    exact Text.ended_append.2 Text.ended_empty
  have hthree : AnnouncedLast errors "s.three" := ofLog?_eq_some_iff.1 (by decide +kernel)
  have htwo : AnnouncedLast output "s.two" := ofLog?_eq_some_iff.1 (by decide +kernel)
  have hsilent : Silent "vault is sealed" := ofLog?_eq_none_iff.1 (by decide +kernel)
  exact ⟨(hfinds _ errors hended).inLater _ hthree,
    (hfinds _ _ hended).inEarlier hsilent _ htwo⟩

/-- A token that the output announces without ending the line, and the error output, which announces
nothing, are taken for one token. -/
theorem token_run_together :
    let errors := "done" ++ "\n"
    AnnouncedLast "Root Token: s.one" "s.one" ∧ Silent errors ∧
    ((Site.live {}).rootToken (logging "Root Token: s.one" errors)).1 = .ok ⟨"s.onedone"⟩ := by
  refine ⟨ofLog?_eq_some_iff.1 (by decide +kernel), ofLog?_eq_none_iff.1 (by decide +kernel), ?_⟩
  decide +kernel

end Fleet.RootToken
