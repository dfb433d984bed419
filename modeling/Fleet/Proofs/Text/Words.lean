import Fleet.Text.Blank
import Mathlib.Data.List.Infix
import Mathlib.Data.List.TakeWhile

/-!
# Laws of words and lines

`Spaced` says of a text that it is made of some words, with blanks around and between them. The
words of a text are what it is made of (`wordChars_eq_iff`), so blanks at the ends of a line, and a
carriage return among them, make no difference to its words. A line is read up to its line feed
(`lineChars_append`), and a text contains another one where that stands in it (`contains_iff`).
-/

namespace Fleet.Text

/-! ## Places in a text -/

theorem isSome_cutChars_iff {mark : List Char} :
    ∀ {cs : List Char}, (cutChars mark cs).isSome = true ↔ mark <:+: cs
  | [] => by
    unfold cutChars
    rw [List.infix_nil]
    cases mark <;> simp
  | c :: cs => by
    have ih : (cutChars mark cs).isSome = true ↔ mark <:+: cs := isSome_cutChars_iff
    unfold cutChars
    split
    · next h => exact iff_of_true rfl (List.isPrefixOf_iff_prefix.1 h).isInfix
    · next h =>
      have hprefix : ¬ mark <+: c :: cs := fun hp => h (List.isPrefixOf_iff_prefix.2 hp)
      rw [Option.isSome_map, ih, List.infix_cons_iff]
      exact (or_iff_right hprefix).symm

/-- A text contains another one if that stands somewhere in it. -/
theorem contains_iff {s part : String} : contains s part = true ↔ part.toList <:+: s.toList :=
  isSome_cutChars_iff

/-- A text contains what it begins with. -/
theorem contains_append (start rest : String) : contains (start ++ rest) start = true := by
  rw [contains_iff, String.toList_append]
  exact (List.prefix_append _ _).isInfix

/-! ## Words -/

/-- A text of blanks. -/
def Blanks (cs : List Char) : Prop := ∀ c ∈ cs, isBlank c = true

/-- A text that is not empty and has no blank. -/
def IsWord (cs : List Char) : Prop := cs ≠ [] ∧ ∀ c ∈ cs, isBlank c = false

/-- A text that ends, or goes on with a blank. -/
def EndsWord (cs : List Char) : Prop := ∀ c ∈ cs.head?, isBlank c = true

/-- A text is made of some words, with blanks around and between them. -/
inductive Spaced : List (List Char) → List Char → Prop
  | none {gap : List Char} (hgap : Blanks gap) : Spaced [] gap
  | cons {gap word rest : List Char} {words : List (List Char)} (hgap : Blanks gap)
      (hword : IsWord word) (hend : EndsWord rest) (hrest : Spaced words rest) :
      Spaced (word :: words) (gap ++ (word ++ rest))

theorem blanks_nil : Blanks [] := fun _ h => absurd h List.not_mem_nil

theorem Blanks.append {gap more : List Char} (h : Blanks gap) (hmore : Blanks more) :
    Blanks (gap ++ more) := List.forall_mem_append.2 ⟨h, hmore⟩

theorem Blanks.endsWord {gap : List Char} (h : Blanks gap) : EndsWord gap :=
  fun c hc => h c (List.mem_of_mem_head? hc)

namespace Spaced

variable {words : List (List Char)} {cs gap : List Char}

/-- Blanks may stand before the words. -/
theorem blanks_append (h : Spaced words cs) (hgap : Blanks gap) : Spaced words (gap ++ cs) := by
  cases h with
  | none hrest => exact .none (hgap.append hrest)
  | cons hfirst hword hend hrest =>
    rw [← List.append_assoc]
    exact .cons (hgap.append hfirst) hword hend hrest

/-- Blanks may stand behind the words. -/
theorem append_blanks (h : Spaced words cs) (hgap : Blanks gap) : Spaced words (cs ++ gap) := by
  induction h with
  | none hrest => exact .none (hrest.append hgap)
  | @cons _ _ rest _ hfirst hword hend _ ih =>
    rw [List.append_assoc, List.append_assoc]
    refine .cons hfirst hword ?_ ih
    cases rest with
    | nil => exact hgap.endsWord
    | cons c rest => exact hend

end Spaced

theorem pieces_append {p : Char → Bool} (rest : List Char) :
    ∀ {word : List Char} (front : List Char), (∀ c ∈ word, p c = false) →
      pieces p front (word ++ rest) = pieces p (word.reverse ++ front) rest
  | [], _, _ => rfl
  | c :: word, front, h => by
    obtain ⟨hc, hword⟩ := List.forall_mem_cons.1 h
    rw [List.cons_append, pieces, hc, List.reverse_cons, List.append_assoc]
    exact pieces_append rest (c :: front) hword

theorem filter_word_cons {word : List Char} (hword : word ≠ []) (more : List (List Char)) :
    (word :: more).filter (fun w => !w.isEmpty) = word :: more.filter fun w => !w.isEmpty :=
  List.filter_cons_of_pos (by simpa using hword)

theorem wordChars_blank_cons {c : Char} (hc : isBlank c = true) (cs : List Char) :
    wordChars (c :: cs) = wordChars cs := by
  rw [wordChars, splitAtChars, pieces, if_pos hc]
  rfl

theorem wordChars_blanks_append {gap : List Char} (hgap : Blanks gap) (cs : List Char) :
    wordChars (gap ++ cs) = wordChars cs := by
  induction gap with
  | nil => rfl
  | cons c gap ih =>
    obtain ⟨hc, hrest⟩ := List.forall_mem_cons.1 hgap
    rw [List.cons_append, wordChars_blank_cons hc, ih hrest]

/-- A text that begins with a word has it as its first word. -/
theorem wordChars_word_append {word rest : List Char} (hword : IsWord word)
    (hend : EndsWord rest) : wordChars (word ++ rest) = word :: wordChars rest := by
  rw [wordChars, splitAtChars, pieces_append rest [] hword.2, List.append_nil]
  cases rest with
  | nil =>
    rw [pieces, List.reverse_reverse, filter_word_cons hword.1]
    rfl
  | cons c rest =>
    have hc : isBlank c = true := hend c rfl
    rw [wordChars_blank_cons hc, pieces, if_pos hc, List.reverse_reverse,
      filter_word_cons hword.1]
    rfl

/-- What has been read of a word is a word where it ends, unless it is empty. -/
theorem Spaced.read {front : List Char} (hfront : ∀ c ∈ front, isBlank c = false)
    {more : List (List Char)} {rest : List Char} (hend : EndsWord rest)
    (h : Spaced (more.filter fun w => !w.isEmpty) rest) :
    Spaced ((front :: more).filter fun w => !w.isEmpty) (front ++ rest) := by
  by_cases hempty : front = []
  · subst hempty
    exact h
  · rw [filter_word_cons hempty]
    exact .cons blanks_nil ⟨hempty, hfront⟩ hend h

/-- What has been read of a word, in reverse, and what is left of the text are made of the words
that are read. -/
theorem spaced_pieces (cs : List Char) {front : List Char}
    (hfront : ∀ c ∈ front, isBlank c = false) :
    Spaced ((pieces isBlank front cs).filter fun w => !w.isEmpty) (front.reverse ++ cs) := by
  have hread : ∀ c ∈ front.reverse, isBlank c = false :=
    fun c hc => hfront c (List.mem_reverse.1 hc)
  induction cs generalizing front with
  | nil => exact .read hread blanks_nil.endsWord (.none blanks_nil)
  | cons c cs ih =>
    unfold pieces
    by_cases hc : isBlank c = true
    · have hrest : Spaced ((pieces isBlank [] cs).filter fun w => !w.isEmpty) cs :=
        ih (fun _ h => absurd h List.not_mem_nil) fun _ h => absurd h List.not_mem_nil
      have hblank : Blanks [c] := List.forall_mem_singleton.2 hc
      have hend : EndsWord (c :: cs) := fun d hd => Option.some.inj hd ▸ hc
      rw [if_pos hc]
      exact .read hread hend (hrest.blanks_append hblank)
    · have hlonger : ∀ d ∈ c :: front, isBlank d = false :=
        List.forall_mem_cons.2 ⟨Bool.eq_false_iff.2 hc, hfront⟩
      have hrest := ih hlonger fun d hd => hlonger d (List.mem_reverse.1 hd)
      rw [if_neg hc]
      rwa [List.reverse_cons, List.append_assoc] at hrest

theorem spaced_wordChars (cs : List Char) : Spaced (wordChars cs) cs :=
  spaced_pieces cs fun _ h => absurd h List.not_mem_nil

/-- The words of a text are what it is made of. -/
theorem wordChars_eq_iff {words : List (List Char)} {cs : List Char} :
    wordChars cs = words ↔ Spaced words cs := by
  constructor
  · rintro rfl
    exact spaced_wordChars cs
  · intro h
    induction h with
    | @none gap hgap =>
      rw [← List.append_nil gap, wordChars_blanks_append hgap]
      rfl
    | cons hgap hword hend _ ih =>
      rw [wordChars_blanks_append hgap, wordChars_word_append hword hend, ih]

/-- Blanks behind a text make no difference to its words. -/
theorem wordChars_append_blanks {gap : List Char} (hgap : Blanks gap) (cs : List Char) :
    wordChars (cs ++ gap) = wordChars cs :=
  wordChars_eq_iff.2 ((spaced_wordChars cs).append_blanks hgap)

theorem dropEnd_append_blanks (cs : List Char) :
    ∃ gap, Blanks gap ∧ dropEnd isBlank cs ++ gap = cs := by
  refine ⟨(cs.reverse.takeWhile isBlank).reverse, fun c hc => ?_, ?_⟩
  · exact List.mem_takeWhile_imp (List.mem_reverse.1 hc)
  · rw [dropEnd, ← List.reverse_append, List.takeWhile_append_dropWhile, List.reverse_reverse]

/-- Blanks at the ends of a text make no difference to its words. -/
theorem wordChars_trimChars (cs : List Char) : wordChars (trimChars cs) = wordChars cs := by
  obtain ⟨gap, hgap, hdropped⟩ := dropEnd_append_blanks (cs.dropWhile isBlank)
  have hfirst : Blanks (cs.takeWhile isBlank) := fun c hc => List.mem_takeWhile_imp hc
  calc wordChars (trimChars cs)
      = wordChars (trimChars cs ++ gap) := (wordChars_append_blanks hgap _).symm
    _ = wordChars (cs.dropWhile isBlank) := congrArg wordChars hdropped
    _ = wordChars (cs.takeWhile isBlank ++ cs.dropWhile isBlank) :=
      (wordChars_blanks_append hfirst _).symm
    _ = wordChars cs := by rw [List.takeWhile_append_dropWhile]

/-! ## Lines -/

/-- A carriage return at the end of a line makes no difference to its words. -/
theorem wordChars_dropReturn (line : List Char) : wordChars (dropReturn line) = wordChars line := by
  unfold dropReturn
  split
  · next rest h =>
    have hline : line = rest.reverse ++ ['\r'] := by
      rw [← List.reverse_reverse line, h, List.reverse_cons]
    rw [hline]
    exact (wordChars_append_blanks (List.forall_mem_singleton.2 rfl) _).symm
  · rfl

theorem lineChars_append_of_no_feed (rest : List Char) :
    ∀ {line : List Char} (front : List Char), '\n' ∉ line →
      lineChars front (line ++ rest) = lineChars (line.reverse ++ front) rest
  | [], _, _ => rfl
  | c :: line, front, h => by
    have hc : c ≠ '\n' := fun heq => h (heq ▸ List.mem_cons_self)
    have hline : '\n' ∉ line := fun hmem => h (List.mem_cons_of_mem _ hmem)
    rw [List.cons_append, lineChars, List.reverse_cons, List.append_assoc]
    · exact lineChars_append_of_no_feed rest (c :: front) hline
    · exact hc

/-- A line is read up to its line feed. -/
theorem lineChars_append {line : List Char} (hline : '\n' ∉ line) (rest : List Char) :
    lineChars [] (line ++ '\n' :: rest) = dropReturn line :: lineChars [] rest := by
  rw [lineChars_append_of_no_feed _ [] hline, List.append_nil, lineChars, List.reverse_reverse]

end Fleet.Text
