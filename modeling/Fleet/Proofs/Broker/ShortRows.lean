import Fleet.Proofs.Broker.GroupRow
import Fleet.Quiescence
import Fleet.Rehearsal

/-!
# Rows that are cut short

An output may break off anywhere, so the row of a group may lack columns. `HasRow` says which columns
the row has, also where the output ends with it. `parse_ok_iff` says exactly which outputs show a
state: the last word of the row is a number of members, and the word before it is the state, be it
a column or, in a row of two words, the name of the group itself. So a row that lacks its state is
taken for one with a state if a number follows on the name, and a row that lacks its number never is.
A look that gets no state does not end a wait (`states_shown`).
-/

namespace Fleet.GroupTable

open Text (trim words)

/-- The first line of an output that begins with the name of a group goes on with some columns. The
output may end with that line. -/
inductive HasRow (group : String) (columns : List String) : String → Prop
  | last {row : String} (hrow : '\n' ∉ row.toList) (h : Columns (group :: columns) row) :
    HasRow group columns row
  | ended {row rest : String} (hrow : '\n' ∉ row.toList) (h : Columns (group :: columns) row) :
    HasRow group columns (row ++ "\n" ++ rest)
  | behind {line rest : String} (hline : '\n' ∉ line.toList)
    (hother : ∀ others, ¬ Columns (group :: others) line) (h : HasRow group columns rest) :
    HasRow group columns (line ++ "\n" ++ rest)

variable {group output : String} {columns : List String}

/-! ## The row -/

theorem words_trim (line : String) : words (trim line) = words line := by
  rw [words, trim, String.toList_ofList, Text.wordChars_trimChars, words]

/-- The last line of an output is the row of a group, or there is none. -/
theorem row?_last {row : String} (hrow : '\n' ∉ row.toList) :
    row? group row = if (words row).head? = some group then some (trim row) else none := by
  rw [row?, Text.lines_of_no_feed hrow]
  by_cases hempty : row = ""
  · subst hempty
    rfl
  · rw [if_neg hempty, List.map_singleton, List.find?_singleton, words_trim]
    simp only [beq_iff_eq]

/-- The row that is looked for is the one that an output has. -/
theorem hasRow_iff :
    HasRow group columns output ↔ ∃ row, row? group output = some row ∧
      words row = group :: columns := by
  have hhead : ∀ {line : String}, words line = group :: columns →
      (words line).head? = some group := fun h => by rw [h]; rfl
  constructor
  · intro h
    induction h with
    | @last row hrow h =>
      have hwords := words_eq_iff.2 h
      exact ⟨trim row, by rw [row?_last hrow, if_pos (hhead hwords)], (words_trim row).trans hwords⟩
    | @ended row rest hrow h =>
      have hwords := words_eq_iff.2 h
      obtain ⟨found, hfound, hrow'⟩ := row?_line hrow group rest
      exact ⟨found, by rw [hrow', if_pos (hhead hwords)], hfound.trans hwords⟩
    | @behind line rest hline hother _ ih =>
      obtain ⟨_, _, hnext⟩ := row?_line hline group rest
      rw [hnext, if_neg (not_columns_iff.1 hother)]
      exact ih
  · intro h
    induction output using Text.lines_induction with
    | last line hline =>
      obtain ⟨row, hrow, hwords⟩ := h
      rw [row?_last hline] at hrow
      split at hrow
      · obtain rfl := Option.some.inj hrow
        exact .last hline (words_eq_iff.1 ((words_trim line).symm.trans hwords))
      · cases hrow
    | ended line rest hline ih =>
      obtain ⟨row, hrow, hwords⟩ := h
      obtain ⟨found, hfound, hnext⟩ := row?_line hline group rest
      rw [hnext] at hrow
      split at hrow
      · obtain rfl := Option.some.inj hrow
        exact .ended hline (words_eq_iff.1 (hfound.symm.trans hwords))
      · next hother => exact .behind hline (not_columns_iff.2 hother) (ih ⟨row, hrow, hwords⟩)

/-! ## What is read of a row -/

/-- A row is read from its end: its last word is the number of members, and the word before it is
the state. -/
theorem ofRow_ok_iff {row : String} {state : GroupState} :
    ofRow row = .ok state ↔ ∃ front word count, words row = front ++ [word, count] ∧
      Counts count state.members ∧
      (state.rebalancing = true ↔ "Rebalance".toList <:+: word.toList) := by
  constructor
  · intro h
    unfold ofRow at h
    split at h
    · cases h
    · next count before hreverse =>
      split at h
      · cases h
      · next n hcount =>
        split at h
        · cases h
        · next word front =>
          cases h
          refine ⟨front.reverse, word, count, ?_, members?_eq_some_iff.1 hcount,
            Text.contains_iff⟩
          rw [← List.reverse_reverse (words row), hreverse]
          simp
  · rintro ⟨front, word, count, hwords, hcount, hrebalancing⟩
    rw [ofRow_of_counts hcount hwords]
    have hmark : Text.contains word rebalanceMark = state.rebalancing :=
      Bool.eq_iff_iff.2 (Text.contains_iff.trans hrebalancing.symm)
    rw [hmark]

/-- An output shows a state of a group: in its row there stands a number of members, and directly
before that the word of the state. -/
def ShowsState (group output : String) (state : GroupState) : Prop :=
  ¬ "does not exist".toList <:+: output.toList ∧ ∃ columns front word count,
    HasRow group columns output ∧ group :: columns = front ++ [word, count] ∧
    Counts count state.members ∧ (state.rebalancing = true ↔ "Rebalance".toList <:+: word.toList)

theorem parse_ok_iff {state : GroupState} :
    parse group output = .ok state ↔ ShowsState group output state := by
  have habsence : Text.contains output absence = true ↔
      "does not exist".toList <:+: output.toList := Text.contains_iff
  unfold parse
  by_cases habsent : Text.contains output absence = true
  · rw [if_pos habsent]
    exact iff_of_false (fun h => by cases h) fun h => h.1 (habsence.1 habsent)
  · rw [if_neg habsent]
    rw [habsence] at habsent
    constructor
    · intro h
      split at h
      · cases h
      · next row hrow =>
        obtain ⟨front, word, count, hwords, hcount, hrebalancing⟩ := ofRow_ok_iff.1 h
        have hhead : (words row).head? = some group := by
          have hfound := List.find?_some hrow
          simpa using hfound
        obtain ⟨columns, hcolumns⟩ := List.head?_eq_some_iff.1 hhead
        exact ⟨habsent, columns, front, word, count, hasRow_iff.2 ⟨row, hrow, hcolumns⟩,
          hcolumns ▸ hwords, hcount, hrebalancing⟩
    · rintro ⟨_, columns, front, word, count, hhas, hcolumns, hcount, hrebalancing⟩
      obtain ⟨row, hrow, hwords⟩ := hasRow_iff.1 hhas
      rw [hrow]
      exact ofRow_ok_iff.2 ⟨front, word, count, hwords.trans hcolumns, hcount, hrebalancing⟩

/-- An output has one row of a group. -/
theorem HasRow.unique {others : List String} (h : HasRow group columns output)
    (h' : HasRow group others output) : columns = others := by
  obtain ⟨row, hrow, hwords⟩ := hasRow_iff.1 h
  obtain ⟨row', hrow', hwords'⟩ := hasRow_iff.1 h'
  obtain rfl := Option.some.inj (hrow.symm.trans hrow')
  exact (List.cons.inj (hwords.symm.trans hwords')).2

/-- What is shown in a row of fewer than three words: nothing, unless the row is the name of the
group and a number. Then the name is taken for the state. -/
theorem shown_in_short_row (hrow : HasRow group columns output) (hshort : columns.length < 2)
    {state : GroupState} : ShowsState group output state ↔
      ¬ "does not exist".toList <:+: output.toList ∧ ∃ count, columns = [count] ∧
        Counts count state.members ∧
        (state.rebalancing = true ↔ "Rebalance".toList <:+: group.toList) := by
  refine and_congr_right fun _ => ?_
  constructor
  · rintro ⟨others, front, word, count, hothers, hcolumns, hcount, hrebalancing⟩
    obtain rfl := hrow.unique hothers
    have hlength := congrArg List.length hcolumns
    simp only [List.length_cons, List.length_append, List.length_nil] at hlength
    have hfront : front = [] := List.eq_nil_of_length_eq_zero (by omega)
    subst hfront
    obtain ⟨rfl, rfl⟩ := List.cons.inj hcolumns
    exact ⟨count, rfl, hcount, hrebalancing⟩
  · rintro ⟨count, rfl, hcount, hrebalancing⟩
    exact ⟨[count], [], group, count, hrow, rfl, hcount, hrebalancing⟩

/-! ## Waits -/

variable {σ : Type} {c : Collaborators σ} {b : Config.Broker} {q : Quiescence} {s : RunState σ}
  {t : σ}

/-- A look at the table of the broker's command line. -/
theorem run_describeGroup (hgroup : c.group = Collaborators.groupInTable c.runtime b)
    (houtput : c.runtime (.exec b.container (command b group)) s.services = (.ok output, t)) :
    Program.run c.handler (Action.describeGroup group).outcome.run s =
      (.ok (parse group output), ⟨s.images, t⟩) := by
  have hanswer : Collaborators.groupInTable c.runtime b group s.services =
      (parse group output, t) := by
    have hexec : Program.run c.runtime (ExceptT.mk (Program.perform
        (RuntimeCall.exec b.container (command b group)))).run s.services = (.ok output, t) := houtput
    exact Program.run_bind_of_ok hexec
  rw [Action.run_outcome]
  show (Except.ok (c.group group s.services).1, RunState.mk s.images (c.group group s.services).2) = _
  rw [hgroup, hanswer]

/-- What a wait does behind a look: it is over if the output shows an idle group. Otherwise it goes
on as long as there is time and the clock can show it. -/
theorem run_look (hgroup : c.group = Collaborators.groupInTable c.runtime b)
    (houtput : c.runtime (.exec b.container (command b q.group)) s.services = (.ok output, t))
    (started deadline left polls : Nat) :
    let run := Program.run c.handler (q.look started deadline (left + 1) polls).run s
    let now := c.clock t
    let next := now + q.intervalMillis
    (ShowsState q.group output ⟨0, false⟩ → run = (.ok (polls + 1), ⟨s.images, t⟩)) ∧
    (¬ ShowsState q.group output ⟨0, false⟩ → run =
      if deadline ≤ now then (.error (.notQuiescent q.group (now - started)), ⟨s.images, t⟩)
      else if next < Duration.horizon then Program.run c.handler
        (do Action.sleep (min next deadline - now); q.look started deadline left (polls + 1) :
          Action Nat).run ⟨s.images, t⟩
      else (.error .clockExceeded, ⟨s.images, t⟩)) := by
  intro run now next
  have hlook : run = _ := Program.run_bind_of_ok (run_describeGroup hgroup houtput)
  have hidle : Quiescence.isIdle (parse q.group output) = true ↔
      ShowsState q.group output ⟨0, false⟩ := Quiescence.isIdle_iff.trans parse_ok_iff
  constructor
  · intro hshown
    rw [hlook, if_pos (hidle.2 hshown)]
    rfl
  · intro hnone
    have hnow : Program.run c.handler Action.now.run ⟨s.images, t⟩ = (.ok now, ⟨s.images, t⟩) := rfl
    rw [hlook, if_neg (mt hidle.1 hnone), Program.run_bind_of_ok hnow]
    by_cases hup : deadline ≤ now
    · rw [if_pos hup, if_pos hup]
      rfl
    rw [if_neg hup, if_neg hup, Action.later]
    by_cases hclock : next < Duration.horizon
    · rw [if_pos hclock, if_pos hclock]
      rfl
    · rw [if_neg hclock, if_neg hclock]
      rfl

/-- Exactly the outputs in whose row a number follows on another word show a state. Of a row of
fewer than three words that is so if it is the name of the group and a number. And only an output
that shows an idle group ends a wait well. -/
theorem states_shown (group output : String) :
    (∀ state, parse group output = .ok state ↔ ShowsState group output state) ∧
    (∀ columns, HasRow group columns output → columns.length < 2 →
      ∀ state, parse group output = .ok state ↔
        ¬ "does not exist".toList <:+: output.toList ∧ ∃ count, columns = [count] ∧
          Counts count state.members ∧
          (state.rebalancing = true ↔ "Rebalance".toList <:+: group.toList)) ∧
    ∀ {σ : Type} (c : Collaborators σ) (b : Config.Broker) (q : Quiescence) (s : RunState σ) (t : σ)
      (started deadline left polls : Nat), c.group = Collaborators.groupInTable c.runtime b →
      q.group = group →
      c.runtime (.exec b.container (command b group)) s.services = (.ok output, t) →
      let run := Program.run c.handler (q.look started deadline (left + 1) polls).run s
      let now := c.clock t
      let next := now + q.intervalMillis
      (ShowsState group output ⟨0, false⟩ → run = (.ok (polls + 1), ⟨s.images, t⟩)) ∧
      (¬ ShowsState group output ⟨0, false⟩ → run =
        if deadline ≤ now then (.error (.notQuiescent group (now - started)), ⟨s.images, t⟩)
        else if next < Duration.horizon then Program.run c.handler
          (do Action.sleep (min next deadline - now); q.look started deadline left (polls + 1) :
            Action Nat).run ⟨s.images, t⟩
        else (.error .clockExceeded, ⟨s.images, t⟩)) := by
  refine ⟨fun state => parse_ok_iff, fun columns hrow hshort state => ?_, ?_⟩
  · rw [parse_ok_iff]
    exact shown_in_short_row hrow hshort
  · rintro σ c b q s t started deadline left polls hgroup rfl houtput
    exact run_look hgroup houtput started deadline left polls

/-- Where the broker's command line is, in a rehearsal. -/
def kafka : Config.Broker := {}

/-- A rehearsal in which the broker's command line writes an output. -/
def showing (output : String) : RunState Rehearsal :=
  .fresh { containers := ContainerStore.pushOutput {} kafka.container (.ok output) }

/-- The services of a rehearsal, where the consumer group is described by the command line. -/
def tableServices : Collaborators Rehearsal :=
  { Rehearsal.collaborators [] ⟨""⟩ with group := Collaborators.groupInTable Rehearsal.runtime kafka }

/-- The number is cut off: there is no state, and the wait goes on with a pause. -/
theorem states_shown_without_count :
    let output := "GROUP  STATE  #MEMBERS" ++ "\n" ++ "roles  Empty"
    let call := RuntimeCall.exec kafka.container (command kafka "roles")
    let left := (Rehearsal.runtime call (showing output).services).2
    HasRow "roles" ["Empty"] output ∧ ["Empty"].length < 2 ∧
    Rehearsal.runtime call (showing output).services = (.ok output, left) ∧
    (∀ state, parse "roles" output ≠ .ok state) ∧
    Program.run tableServices.handler (Quiescence.look ⟨"roles", 0, 10, 25⟩ 0 25 2 0).run
        (showing output) =
      Program.run tableServices.handler
        (do Action.sleep 10; Quiescence.look ⟨"roles", 0, 10, 25⟩ 0 25 1 1 : Action Nat).run
        ⟨.empty, left⟩ := by
  intro output call left
  have hrow : HasRow "roles" ["Empty"] output := by
    have hother : ∀ others, ¬ Columns ("roles" :: others) "GROUP  STATE  #MEMBERS" := by
      rw [not_columns_iff]
      decide +kernel
    have hlast : Columns ("roles" :: ["Empty"]) "roles  Empty" := words_eq_iff.1 (by decide +kernel)
    exact .behind (by decide +kernel) hother (.last (by decide +kernel) hlast)
  have houtput : Rehearsal.runtime call (showing output).services = (.ok output, left) := rfl
  obtain ⟨_, hshort, hwaits⟩ := states_shown "roles" output
  have hnone : ∀ state, parse "roles" output ≠ .ok state := by
    intro state hstate
    obtain ⟨_, count, hcount, hcounts, _⟩ := (hshort _ hrow (by decide) state).1 hstate
    obtain rfl : "Empty" = count := (List.cons.inj hcount).1
    have hnumber : members? "Empty" = none := by decide +kernel
    rw [members?_eq_some_iff.2 hcounts] at hnumber
    cases hnumber
  refine ⟨hrow, by decide, houtput, hnone, ?_⟩
  have hwait := hwaits tableServices kafka ⟨"roles", 0, 10, 25⟩ (showing output) left 0 25 1 0 rfl
    rfl houtput
  exact hwait.2 fun hidle => hnone _ (parse_ok_iff.2 hidle)

/-- The state is cut off: the name of the group is taken for it, and so the wait is over. -/
theorem name_taken_for_state :
    HasRow "g" ["0"] "g 0" ∧ parse "g" "g 0" = .ok ⟨0, false⟩ ∧
    (Program.run tableServices.handler (Quiescence.await ⟨"g", 0, 10, 25⟩).run
      (showing "g 0")).1 = .ok 1 := by
  refine ⟨.last (by decide +kernel) (words_eq_iff.1 (by decide +kernel)), by decide +kernel, ?_⟩
  decide +kernel

end Fleet.GroupTable
