import Fleet.Broker.GroupTable
import Fleet.Proofs.Text.Pieces

/-!
# Reading the row of a group

The row of a group is the first line whose first word is its name. `Shows` says of an output which
columns that line has, without saying how it is found: columns may be any words, with any blanks
around and between them, and the lines before and behind it may be anything else. If state and
number of members are the last two columns, they are read (`parse_row`), however many columns stand
before them.
-/

namespace Fleet.GroupTable

open Text (Spaced dropReturn trim wordChars words)

/-- A line is made of some columns, with blanks around and between them. -/
def Columns (columns : List String) (line : String) : Prop :=
  Spaced (columns.map String.toList) line.toList

/-- Lines, with what stands behind them. -/
def under (before : List String) (rest : String) : String :=
  before.foldr (fun line rest => line ++ "\n" ++ rest) rest

/-- The first line of an output that begins with the name of a group goes on with some columns. -/
def Shows (group : String) (columns : List String) (output : String) : Prop :=
  ∃ (before : List String) (row ending after : String),
    output = under before (row ++ ending ++ after) ∧
    (∀ line ∈ before, '\n' ∉ line.toList ∧ ∀ others, ¬ Columns (group :: others) line) ∧
    '\n' ∉ row.toList ∧ Columns (group :: columns) row ∧ (ending = "\n" ∨ ending = "\r\n")

/-! ## Numbers of members -/

/-- A word is a number of members: decimal digits, perhaps behind a plus sign. -/
def Counts (word : String) (n : Nat) : Prop :=
  n < UInt32.size ∧ ∃ digits : List Char, digits ≠ [] ∧ (∀ c ∈ digits, c.isDigit = true) ∧
    Nat.ofDigitChars 10 digits 0 = n ∧ (word.toList = digits ∨ word.toList = '+' :: digits)

theorem foldl_digits (digits : List Char) :
    digits.foldl (fun n c => n * 10 + (c.toNat - 48)) 0 = Nat.ofDigitChars 10 digits 0 := by
  rw [Nat.ofDigitChars_eq_foldl]
  exact congrArg (fun f => List.foldl f 0 digits) (by funext m c; rw [Nat.mul_comm]; rfl)

/-- Numbers are read where they are written, and nowhere else. -/
theorem members?_eq_some_iff {word : String} {n : Nat} :
    members? word = some n ↔ Counts word n := by
  constructor
  · intro h
    unfold members? at h
    extract_lets digits value at h
    have hword : word.toList = digits ∨ word.toList = '+' :: digits := by
      simp only [digits]
      split
      · next rest hplus => exact .inr hplus
      · exact .inl rfl
    split at h
    · cases h
    · next hdigits =>
      obtain ⟨hne, hall⟩ : digits ≠ [] ∧ ∀ c ∈ digits, c.isDigit = true := by simpa using hdigits
      split at h
      · next hn =>
        obtain rfl := Option.some.inj h
        exact ⟨hn, digits, hne, hall, (foldl_digits digits).symm, hword⟩
      · cases h
  · rintro ⟨hn, digits, hne, hall, hvalue, hword⟩
    rw [← foldl_digits] at hvalue
    have hall' : digits.all Char.isDigit = true := List.all_eq_true.2 hall
    have hempty : digits.isEmpty = false := by simpa using hne
    unfold members?
    rcases hword with hword | hword
    · rw [hword]
      cases digits with
      | nil => exact absurd rfl hne
      | cons c digits =>
        -- a digit is no plus sign
        have hplus : c ≠ '+' := by
          rintro rfl
          exact absurd (hall '+' List.mem_cons_self) (by decide)
        simp [hplus, hall', hvalue, hn]
    · rw [hword]
      simp [hempty, hall', hvalue, hn]

/-- A number is read back from its digits. -/
theorem members?_toString {n : Nat} (hn : n < UInt32.size) : members? (toString n) = some n := by
  refine members?_eq_some_iff.2 ⟨hn, Nat.toDigits 10 n, Nat.toDigits_ne_nil, ?_,
    Nat.ofDigitChars_ten_toDigits, .inl ?_⟩
  · exact fun c hc => Nat.isDigit_of_mem_toDigits (by decide) (by decide) hc
  · rw [Nat.toString_eq_repr, Nat.toList_repr]

/-! ## Columns and words -/

theorem words_eq_iff {columns : List String} {line : String} :
    words line = columns ↔ Columns columns line := by
  rw [Columns, ← Text.wordChars_eq_iff, words]
  constructor
  · rintro rfl
    simp
  · intro h
    simp [h]

/-- The words of a line are what is left of it when it is read. -/
theorem words_read (line : List Char) :
    words (trim (String.ofList (dropReturn line))) = words (String.ofList line) := by
  simp only [words, trim, String.toList_ofList, Text.wordChars_trimChars, Text.wordChars_dropReturn]

/-- A line is the row of a group, or the row is looked for behind it. -/
theorem row?_line {line : String} (hline : '\n' ∉ line.toList) (group rest : String) :
    ∃ row, words row = words line ∧ row? group (line ++ "\n" ++ rest) =
      if (words line).head? = some group then some row else row? group rest := by
  refine ⟨trim (String.ofList (dropReturn line.toList)), ?_, ?_⟩
  · rw [words_read, String.ofList_toList]
  · have hwords : words (trim (String.ofList (dropReturn line.toList))) = words line := by
      rw [words_read, String.ofList_toList]
    rw [row?, Text.lines_append hline, List.map_cons, List.find?_cons, hwords]
    by_cases hhead : (words line).head? = some group
    · rw [if_pos hhead, hhead, beq_self_eq_true]
    · rw [if_neg hhead, beq_false_of_ne hhead, row?]

/-- Whether a line begins with the name of a group. -/
theorem not_columns_iff {group line : String} :
    (∀ others, ¬ Columns (group :: others) line) ↔ (words line).head? ≠ some group := by
  rw [Ne, List.head?_eq_some_iff, not_exists]
  exact forall_congr' fun others => not_congr words_eq_iff.symm

/-- The row of a group is found behind any other lines, and it has the columns that are shown. -/
theorem Shows.row? {group output : String} {columns : List String}
    (h : Shows group columns output) :
    ∃ row, row? group output = some row ∧ words row = group :: columns := by
  obtain ⟨before, line, ending, after, rfl, hbefore, hline, hcolumns, hending⟩ := h
  induction before with
  | nil =>
    -- a carriage return before the line feed is a blank at the end of the line
    obtain ⟨line', hline', hcolumns', htext⟩ : ∃ line', '\n' ∉ line'.toList ∧
        Columns (group :: columns) line' ∧ line ++ ending ++ after = line' ++ "\n" ++ after := by
      rcases hending with rfl | rfl
      · exact ⟨line, hline, hcolumns, rfl⟩
      · refine ⟨line ++ "\r", by simpa using hline, ?_, ?_⟩
        · have hreturn : Text.Blanks ['\r'] := List.forall_mem_singleton.2 rfl
          show Spaced _ (line ++ "\r").toList
          rw [String.toList_append]
          exact Spaced.append_blanks hcolumns hreturn
        · have hending : "\r\n" = "\r" ++ "\n" := rfl
          rw [hending, ← String.append_assoc]
    have hwords := words_eq_iff.2 hcolumns'
    obtain ⟨row, hrow, hfound⟩ := row?_line hline' group after
    refine ⟨row, ?_, hrow.trans hwords⟩
    show GroupTable.row? group (line ++ ending ++ after) = some row
    rw [htext, hfound, if_pos (by rw [hwords]; rfl)]
  | cons other before ih =>
    obtain ⟨⟨hother, hnot⟩, hbefore⟩ := List.forall_mem_cons.1 hbefore
    obtain ⟨_, _, hfound⟩ := row?_line hother group (under before (line ++ ending ++ after))
    obtain ⟨row, hrow, hwords⟩ := ih hbefore
    refine ⟨row, ?_, hwords⟩
    show GroupTable.row? group (other ++ "\n" ++ under before (line ++ ending ++ after)) = some row
    rw [hfound, if_neg (not_columns_iff.1 hnot), hrow]

/-- A row is read from its end: the last column is the number of members, the one before it the
state. -/
theorem ofRow_of_counts {row state count : String} {first : List String} {n : Nat}
    (hcount : Counts count n) (h : words row = first ++ [state, count]) :
    ofRow row = .ok ⟨n, Text.contains state rebalanceMark⟩ := by
  have hreverse : (words row).reverse = count :: state :: first.reverse := by
    rw [h, List.reverse_append]
    rfl
  simp only [ofRow, hreverse, members?_eq_some_iff.2 hcount]

theorem ofRow_eq {row state : String} {first : List String} {n : Nat} (hn : n < UInt32.size)
    (h : words row = first ++ [state, toString n]) :
    ofRow row = .ok ⟨n, Text.contains state rebalanceMark⟩ :=
  ofRow_of_counts (members?_eq_some_iff.1 (members?_toString hn)) h

/-- What is shown of a group is read back, unless the output says that the group does not exist:
whatever columns stand between the group's name and its state, however the columns are spaced, and
whatever other lines there are. -/
theorem parse_row {group state output : String} {middle : List String} {n : Nat}
    (hn : n < UInt32.size) (hexists : ¬ "does not exist".toList <:+: output.toList)
    (hshows : Shows group (middle ++ [state, toString n]) output) :
    ∃ rebalancing : Bool, parse group output = .ok ⟨n, rebalancing⟩ ∧
      (rebalancing = true ↔ "Rebalance".toList <:+: state.toList) := by
  obtain ⟨row, hrow, hwords⟩ := hshows.row?
  have hcolumns : words row = (group :: middle) ++ [state, toString n] := hwords
  have habsent : ¬ Text.contains output absence = true := fun h => hexists (Text.contains_iff.1 h)
  refine ⟨Text.contains state rebalanceMark, ?_, Text.contains_iff⟩
  rw [parse, if_neg habsent, hrow]
  exact ofRow_eq hn hcolumns

/-- What the broker's command line shows of a group while its last member is leaving. -/
def leaving : String :=
  "\nGROUP  COORDINATOR (ID)  STATE  #MEMBERS\r\nroles-2 kafka:9092 (1) Stable 4\n" ++
    "\troles  kafka:9092 (1)\u00a0range  PreparingRebalance 1 \r\nroles kafka:9092 (2) Empty 0"

/-- The group is being rebalanced, and has a member still. The columns of the coordinator are read
past, and so is the line of a group whose name begins alike. -/
theorem parse_row_leaving :
    let columns := ["kafka:9092", "(1)", "range"] ++ ["PreparingRebalance", toString 1]
    ¬ "does not exist".toList <:+: leaving.toList ∧ Shows "roles" columns leaving ∧
    ∃ rebalancing : Bool, GroupTable.parse "roles" leaving = .ok ⟨1, rebalancing⟩ ∧
      (rebalancing = true ↔ "Rebalance".toList <:+: "PreparingRebalance".toList) := by
  intro columns
  have hexists : ¬ "does not exist".toList <:+: leaving.toList := by decide +kernel
  have hshows : Shows "roles" columns leaving := by
    refine ⟨["", "GROUP  COORDINATOR (ID)  STATE  #MEMBERS\r", "roles-2 kafka:9092 (1) Stable 4"],
      "\troles  kafka:9092 (1)\u00a0range  PreparingRebalance 1 ", "\r\n",
      "roles kafka:9092 (2) Empty 0", by decide +kernel, ?_, by decide +kernel, ?_, .inr rfl⟩
    · simp only [not_columns_iff]
      decide +kernel
    · exact words_eq_iff.1 (by decide +kernel)
  exact ⟨hexists, hshows, parse_row (by decide) hexists hshows⟩

end Fleet.GroupTable
