import Fleet.Proofs.Text.Words

/-!
# Laws of pieces

A text can be cut at the first place of a mark, split at all places of a character, trimmed, and read
line by line. `CutAt` and `Trimmed` say what the first and the third of these come to without saying
how it is found (`cutChars_eq_some_iff`, `trimChars_eq_iff`). Joined texts have the pieces of each of them
(`splitAt_intercalate`). A text is a line without a line feed, or it begins with such a line and its
line feed, and `lines_induction` is the induction along its lines. Behind a text that ends its last
line, lines are read as if they stood alone (`lines_append_of_ended`).
-/

namespace Fleet.Text

/-! ## Cuts -/

/-- What stands before the first place of a mark, and what stands behind it. -/
structure CutAt (mark cs front back : List Char) : Prop where
  eq : cs = front ++ (mark ++ back)
  first : ∀ front' back', cs = front' ++ (mark ++ back') → front.length ≤ front'.length

variable {mark cs front back : List Char}

theorem cutAt_of_cutChars :
    ∀ {cs front back : List Char}, cutChars mark cs = some (front, back) → CutAt mark cs front back
  | [], front, back, h => by
    unfold cutChars at h
    split at h
    · next hmark =>
      obtain ⟨rfl, rfl⟩ := Prod.mk.inj (Option.some.inj h)
      rw [List.isEmpty_iff.1 hmark]
      exact ⟨rfl, fun _ _ _ => Nat.zero_le _⟩
    · cases h
  | c :: cs, front, back, h => by
    unfold cutChars at h
    split at h
    · next hprefix =>
      obtain ⟨rfl, rfl⟩ := Prod.mk.inj (Option.some.inj h)
      obtain ⟨back, hback⟩ := List.isPrefixOf_iff_prefix.1 hprefix
      refine ⟨?_, fun _ _ _ => Nat.zero_le _⟩
      rw [← hback, List.drop_left]
      rfl
    · next hprefix =>
      obtain ⟨⟨front', back'⟩, hcut, heq⟩ := Option.map_eq_some_iff.1 h
      obtain ⟨rfl, rfl⟩ := Prod.mk.inj heq
      obtain ⟨rfl, hfirst⟩ := cutAt_of_cutChars hcut
      refine ⟨rfl, fun other back hother => ?_⟩
      cases other with
      | nil => exact absurd (List.isPrefixOf_iff_prefix.2 ⟨back, hother.symm⟩) hprefix
      | cons d other =>
        obtain ⟨rfl, hrest⟩ := List.cons.inj hother
        exact Nat.succ_le_succ (hfirst other back hrest)

/-- There is one first place. -/
theorem CutAt.unique {front' back' : List Char} (h : CutAt mark cs front back)
    (h' : CutAt mark cs front' back') : front = front' ∧ back = back' := by
  have hlength : front.length = front'.length :=
    Nat.le_antisymm (h.first _ _ h'.eq) (h'.first _ _ h.eq)
  obtain ⟨hfront, hrest⟩ := List.append_inj (h.eq.symm.trans h'.eq) hlength
  exact ⟨hfront, List.append_cancel_left hrest⟩

theorem cutChars_eq_some_iff : cutChars mark cs = some (front, back) ↔ CutAt mark cs front back := by
  refine ⟨cutAt_of_cutChars, fun h => ?_⟩
  have hsome : (cutChars mark cs).isSome = true :=
    isSome_cutChars_iff.2 ⟨front, back, by rw [List.append_assoc]; exact h.eq.symm⟩
  obtain ⟨⟨front', back'⟩, hcut⟩ := Option.isSome_iff_exists.1 hsome
  obtain ⟨rfl, rfl⟩ := (cutAt_of_cutChars hcut).unique h
  exact hcut

/-- A text is cut at a mark where that stands first. -/
theorem cut?_eq_some_iff {mark s front back : String} :
    cut? mark s = some (front, back) ↔ CutAt mark.toList s.toList front.toList back.toList := by
  rw [cut?, Option.map_eq_some_iff, ← cutChars_eq_some_iff]
  constructor
  · rintro ⟨⟨front', back'⟩, hcut, heq⟩
    obtain ⟨rfl, rfl⟩ := Prod.mk.inj heq
    rw [hcut, String.toList_ofList, String.toList_ofList]
  · intro hcut
    refine ⟨_, hcut, ?_⟩
    show (String.ofList front.toList, String.ofList back.toList) = _
    rw [String.ofList_toList, String.ofList_toList]

/-- The first place of a character has none of it before it. -/
theorem cutAt_singleton {c : Char} :
    CutAt [c] cs front back ↔ cs = front ++ c :: back ∧ c ∉ front := by
  constructor
  · rintro ⟨rfl, hfirst⟩
    refine ⟨rfl, fun hmem => ?_⟩
    obtain ⟨before, after, rfl⟩ := List.append_of_mem hmem
    have hle := hfirst before (after ++ c :: back) (by simp)
    rw [List.length_append, List.length_cons] at hle
    omega
  · rintro ⟨rfl, hfront⟩
    refine ⟨rfl, fun front' back' heq => ?_⟩
    by_contra hlt
    have hwhole : front' ++ [c] <+: front ++ c :: back :=
      ⟨back', by rw [List.append_assoc]; exact heq.symm⟩
    have hlength : (front' ++ [c]).length ≤ front.length := by
      rw [List.length_append, List.length_singleton]
      omega
    have hbegins := List.prefix_of_prefix_length_le hwhole (List.prefix_append _ _) hlength
    exact hfront (hbegins.subset (List.mem_append_right _ (List.mem_singleton_self c)))

/-! ## Splitting and joining -/

theorem pieces_eq_splitOnP {p : Char → Bool} (word cs : List Char) :
    pieces p word cs = List.splitOnPPrepend p cs word := by
  induction cs generalizing word with
  | nil => rfl
  | cons c cs ih => rw [pieces, List.splitOnPPrepend_cons_eq_if, ih, ih]; rfl

theorem splitAt_eq (c : Char) (s : String) :
    splitAt c s = (s.toList.splitOn c).map String.ofList :=
  congrArg _ (pieces_eq_splitOnP [] s.toList)

theorem splitAt_of_not_mem {c : Char} {s : String} (h : c ∉ s.toList) : splitAt c s = [s] := by
  rw [splitAt_eq, List.splitOn_eq_singleton h, List.map_singleton, String.ofList_toList]

/-- A separator parts the pieces before it from those behind it. -/
theorem splitAt_append (c : Char) (first rest : String) :
    splitAt c (first ++ String.ofList [c] ++ rest) = splitAt c first ++ splitAt c rest := by
  have htext : (first ++ String.ofList [c] ++ rest).toList = first.toList ++ c :: rest.toList := by
    simp
  rw [splitAt_eq, htext, List.splitOn_append_cons_self, List.map_append, splitAt_eq, splitAt_eq]

/-- Joined texts have the pieces of each of them. -/
theorem splitAt_intercalate (c : Char) {texts : List String} (hne : texts ≠ []) :
    splitAt c ((String.ofList [c]).intercalate texts) = texts.flatMap (splitAt c) := by
  induction texts with
  | nil => exact absurd rfl hne
  | cons first rest ih =>
    by_cases hrest : rest = []
    · subst hrest
      rw [String.intercalate_singleton, List.flatMap_singleton]
    · rw [String.intercalate_cons_of_ne_nil hrest, splitAt_append, ih hrest, List.flatMap_cons]

/-! ## Trimming -/

/-- A text is another one with blanks around it, and that has none at its ends. -/
def Trimmed (cs word : List Char) : Prop :=
  ∃ gap gap', Blanks gap ∧ Blanks gap' ∧ cs = gap ++ (word ++ gap') ∧
    (∀ c ∈ word.head?, isBlank c = false) ∧ ∀ c ∈ word.getLast?, isBlank c = false

theorem dropWhile_blanks_append {gap : List Char} (hgap : Blanks gap) (cs : List Char) :
    (gap ++ cs).dropWhile isBlank = cs.dropWhile isBlank :=
  List.dropWhile_append_of_pos hgap

theorem dropWhile_of_head {word : List Char} (h : ∀ c ∈ word.head?, isBlank c = false) :
    word.dropWhile isBlank = word := by
  cases word with
  | nil => rfl
  | cons c word => rw [List.dropWhile_cons_of_neg (by rw [h c rfl]; decide)]

theorem head?_dropWhile_blank (cs : List Char) :
    ∀ c ∈ (cs.dropWhile isBlank).head?, isBlank c = false := by
  intro c hc
  have hhead := List.head?_dropWhile_not isBlank cs
  rw [Option.mem_def.1 hc] at hhead
  simpa using hhead

theorem dropEnd_append_of_blanks {gap : List Char} (hgap : Blanks gap) (word : List Char) :
    dropEnd isBlank (word ++ gap) = dropEnd isBlank word := by
  rw [dropEnd, List.reverse_append,
    dropWhile_blanks_append fun c hc => hgap c (List.mem_reverse.1 hc), dropEnd]

/-- Trimming takes the blanks at both ends, and nothing else. -/
theorem trimChars_eq_iff {word : List Char} : trimChars cs = word ↔ Trimmed cs word := by
  constructor
  · rintro rfl
    obtain ⟨gap', hgap', hend⟩ := dropEnd_append_blanks (cs.dropWhile isBlank)
    have hdropped : cs.dropWhile isBlank = trimChars cs ++ gap' := hend.symm
    refine ⟨cs.takeWhile isBlank, gap', fun c hc => List.mem_takeWhile_imp hc, hgap', ?_, ?_, ?_⟩
    · rw [← hdropped, List.takeWhile_append_dropWhile]
    · intro c hc
      refine head?_dropWhile_blank cs c ?_
      rw [hdropped, List.head?_append, Option.mem_def.1 hc]
      rfl
    · intro c hc
      rw [trimChars, dropEnd, List.getLast?_reverse] at hc
      exact head?_dropWhile_blank _ c hc
  · rintro ⟨gap, gap', hgap, hgap', rfl, hhead, hlast⟩
    have hend : dropEnd isBlank word = word := by
      rw [dropEnd, dropWhile_of_head (by rwa [List.head?_reverse]), List.reverse_reverse]
    rw [trimChars, dropWhile_blanks_append hgap]
    by_cases hword : word = []
    · subst hword
      have hnone : gap'.dropWhile isBlank = [] := List.dropWhile_eq_nil_iff.2 hgap'
      rw [List.nil_append, hnone]
      rfl
    · have hstart : (word ++ gap').dropWhile isBlank = word ++ gap' := by
        refine dropWhile_of_head fun c hc => hhead c ?_
        rwa [List.head?_append_of_ne_nil _ hword] at hc
      rw [hstart, dropEnd_append_of_blanks hgap', hend]

/-! ## Lines -/

/-- A line that is ended is read, and then what stands behind it. -/
theorem lines_append {line : String} (hline : '\n' ∉ line.toList) (rest : String) :
    lines (line ++ "\n" ++ rest) = String.ofList (dropReturn line.toList) :: lines rest := by
  have htext : (line ++ "\n" ++ rest).toList = line.toList ++ '\n' :: rest.toList := by simp
  rw [lines, htext, lineChars_append hline]
  rfl

/-- A last line needs no line feed. -/
theorem lines_of_no_feed {line : String} (hline : '\n' ∉ line.toList) :
    lines line = if line = "" then [] else [line] := by
  have hchars : lineChars [] line.toList = if line = "" then [] else [line.toList] := by
    have happend := lineChars_append_of_no_feed [] [] hline
    rw [List.append_nil, List.append_nil] at happend
    rw [happend, lineChars]
    simp only [List.isEmpty_reverse, List.isEmpty_iff, String.toList_eq_nil_iff,
      List.reverse_reverse]
  rw [lines, hchars]
  split
  · rfl
  · rw [List.map_singleton, String.ofList_toList]

/-- What holds of a text without a line feed, and of a line, its line feed and a text of which it
holds, holds of every text. -/
theorem lines_induction {motive : String → Prop}
    (last : ∀ line : String, '\n' ∉ line.toList → motive line)
    (ended : ∀ line rest : String, '\n' ∉ line.toList → motive rest →
      motive (line ++ "\n" ++ rest)) (s : String) : motive s := by
  have hall : ∀ (n : Nat) (cs : List Char), cs.length ≤ n → motive (String.ofList cs) := by
    intro n
    induction n with
    | zero =>
      intro cs hcs
      rw [List.eq_nil_of_length_eq_zero (Nat.le_zero.1 hcs)]
      exact last _ (by simp)
    | succ n ih =>
      intro cs hcs
      by_cases hfeed : '\n' ∈ cs
      · obtain ⟨line, rest, rfl, hline⟩ := List.eq_append_cons_of_mem hfeed
        have htext : String.ofList (line ++ '\n' :: rest) =
            String.ofList line ++ "\n" ++ String.ofList rest := by
          apply String.toList_injective
          simp
        rw [htext]
        refine ended _ _ (by rwa [String.toList_ofList]) (ih rest ?_)
        rw [List.length_append, List.length_cons] at hcs
        omega
      · exact last _ (by rwa [String.toList_ofList])
  have h := hall s.toList.length s.toList (Nat.le_refl _)
  rwa [String.ofList_toList] at h

/-- The last line of a text is ended by a line feed, if the text has a line. -/
def Ended (s : String) : Prop := ∀ c ∈ s.toList.getLast?, c = '\n'

theorem ended_empty : Ended "" := nofun

theorem ended_append {line rest : String} : Ended (line ++ "\n" ++ rest) ↔ Ended rest := by
  have htext : (line ++ "\n" ++ rest).toList.getLast? = some (rest.toList.getLast?.getD '\n') := by
    simp [List.getLast?_cons]
  rw [Ended, Ended, htext]
  cases rest.toList.getLast? <;> simp

/-- Behind a text whose lines are ended, lines are read as if they stood alone. -/
theorem lines_append_of_ended {first : String} (h : Ended first) (second : String) :
    lines (first ++ second) = lines first ++ lines second := by
  induction first using lines_induction with
  | last line hline =>
    have hempty : line = "" := by
      rw [← String.toList_eq_nil_iff, ← List.getLast?_eq_none_iff, Option.eq_none_iff_forall_not_mem]
      intro c hc
      exact hline (h c hc ▸ List.mem_of_getLast? hc)
    subst hempty
    rw [String.empty_append]
    rfl
  | ended line rest hline ih =>
    rw [String.append_assoc, lines_append hline, lines_append hline, ih (ended_append.1 h),
      List.cons_append]

/-- A text is what its line feeds end, and what stands behind the last of them. -/
theorem exists_ended_append (s : String) :
    ∃ ended rest, s = ended ++ rest ∧ Ended ended ∧ '\n' ∉ rest.toList := by
  induction s using lines_induction with
  | last line hline => exact ⟨"", line, String.empty_append.symm, ended_empty, hline⟩
  | ended line rest hline ih =>
    obtain ⟨ended, rest, rfl, hended, hrest⟩ := ih
    exact ⟨line ++ "\n" ++ ended, rest, String.append_assoc.symm, ended_append.2 hended, hrest⟩

end Fleet.Text
