import Fleet.Module.Id
import Fleet.Proofs.Splitting

/-!
# The grammar of ids

A text breaks where a hyphen inside it is followed by a digit. An id is read at the first break of
its text or not at all (`split?_eq_some_iff_firstBreak`): whatever stands at a later break has the
first one in its name, and what is behind the first one is a version as well, since a version may
hold all that a name may hold.

So an id is read back from what it writes unless its name breaks itself (`parse_grammar`).
-/

namespace Fleet.ModuleId

/-! ## Characters and parts -/

theorem isLetter_eq (c : Char) : isLetter c = c.isAlpha := by
  have hupper : c.isUpper = decide ('A' ≤ c ∧ c ≤ 'Z') := rfl
  show ((c.isLower || ('A' ≤ c && c ≤ 'Z')) : Bool) = (c.isUpper || c.isLower)
  rw [hupper, Bool.decide_and, Bool.or_comm]

theorem isDigit_eq (c : Char) : isDigit c = c.isDigit := rfl

/-- A letter of ASCII, and behind it letters and digits of ASCII, `_` and `-`. -/
def NameText (cs : List Char) : Prop :=
  (∃ c ∈ cs.head?, c.isAlpha) ∧ ∀ c ∈ cs, c.isAlphanum ∨ c = '_' ∨ c = '-'

/-- Letters and digits of ASCII, `.`, `+`, `_` and `-`. -/
def VersionText (cs : List Char) : Prop :=
  ∀ c ∈ cs, c.isAlphanum ∨ c = '.' ∨ c = '+' ∨ c = '_' ∨ c = '-'

/-- A digit of ASCII comes first. -/
def DigitFirst (cs : List Char) : Prop := ∃ d ∈ cs.head?, d.isDigit

theorem isName_iff {cs : List Char} : isName cs = true ↔ NameText cs := by
  cases cs with
  | nil => simp [isName, NameText]
  | cons c rest =>
    simp only [isName, NameText, isNameChar, isLetter_eq, isDigit_eq, Bool.and_eq_true,
      List.all_eq_true, Bool.or_eq_true, beq_iff_eq, List.head?_cons, Option.mem_some,
      exists_eq_left', List.forall_mem_cons, Char.isAlphanum, or_assoc]
    exact and_congr_right fun hletter => by simp [hletter]

theorem isVersion_iff {cs : List Char} :
    isVersion cs = true ↔ DigitFirst cs ∧ VersionText cs := by
  cases cs with
  | nil => simp [isVersion, DigitFirst]
  | cons c rest =>
    simp only [isVersion, DigitFirst, VersionText, isVersionChar, isLetter_eq, isDigit_eq,
      Bool.and_eq_true, List.all_eq_true, Bool.or_eq_true, beq_iff_eq, List.head?_cons,
      Option.mem_some, exists_eq_left', List.forall_mem_cons, Char.isAlphanum, or_assoc]
    refine and_congr_right fun hdigit => ?_
    simp [hdigit, or_left_comm]

/-! ## Splits at hyphens -/

theorem hyphenSplits_cons (c : Char) (rest : List Char) :
    hyphenSplits (c :: rest) = (if c = '-' then [([], rest)] else []) ++
      (hyphenSplits rest).map fun split => (c :: split.1, split.2) := by
  rw [hyphenSplits]
  split
  · rfl
  · rfl

theorem mem_hyphenSplits {cs before after : List Char} :
    (before, after) ∈ hyphenSplits cs ↔ cs = before ++ '-' :: after := by
  induction cs generalizing before with
  | nil => simp [hyphenSplits]
  | cons c rest ih =>
    have hlater : (before, after) ∈
        (hyphenSplits rest).map (fun split => (c :: split.1, split.2)) ↔
        ∃ b, before = c :: b ∧ rest = b ++ '-' :: after := by
      rw [List.mem_map]
      constructor
      · rintro ⟨⟨b, a⟩, hmem, heq⟩
        cases heq
        exact ⟨b, rfl, ih.1 hmem⟩
      · rintro ⟨b, rfl, hrest⟩
        exact ⟨(b, after), ih.2 hrest, rfl⟩
    rw [hyphenSplits_cons, List.mem_append, hlater]
    cases before with
    | nil => by_cases hc : c = '-' <;> simp [hc, eq_comm]
    | cons b before => by_cases hc : c = '-' <;> simp [hc, and_assoc, eq_comm]

/-- Splits at later hyphens have longer names. -/
theorem pairwise_hyphenSplits (cs : List Char) :
    (hyphenSplits cs).Pairwise fun x y => x.1.length < y.1.length := by
  induction cs with
  | nil => exact .nil
  | cons c rest ih =>
    have hlater : ((hyphenSplits rest).map fun split => (c :: split.1, split.2)).Pairwise
        fun x y => x.1.length < y.1.length :=
      List.pairwise_map.2 (ih.imp fun h => Nat.succ_lt_succ h)
    rw [hyphenSplits_cons]
    split
    · refine List.pairwise_cons.2 ⟨fun x hx => ?_, hlater⟩
      obtain ⟨y, _, rfl⟩ := List.mem_map.1 hx
      exact Nat.succ_pos _
    · exact hlater

/-- Of the splits into a name and a version, the one with the shortest name is read. -/
theorem split?_eq_some_iff {cs before after : List Char} :
    split? cs = some (before, after) ↔
      cs = before ++ '-' :: after ∧ isName before = true ∧ isVersion after = true ∧
        ∀ b a, cs = b ++ '-' :: a → isName b = true → isVersion a = true →
          before.length ≤ b.length := by
  have hsplits := pairwise_hyphenSplits cs
  rw [split?, List.find?_eq_some_iff_append, Bool.and_eq_true]
  constructor
  · rintro ⟨⟨hname, hversion⟩, earlier, later, heq, hnone⟩
    rw [heq] at hsplits
    refine ⟨mem_hyphenSplits.1 (by simp [heq]), hname, hversion, fun b a hcs hb ha => ?_⟩
    have hmem : (b, a) ∈ earlier ++ (before, after) :: later := heq ▸ mem_hyphenSplits.2 hcs
    rcases List.mem_append.1 hmem with hearlier | hlater
    · simpa [hb, ha] using hnone _ hearlier
    · rcases List.mem_cons.1 hlater with hsame | hlater
      · cases hsame
        exact Nat.le_refl _
      · have hbehind := List.rel_of_pairwise_cons (List.pairwise_append.1 hsplits).2.1 hlater
        exact Nat.le_of_lt hbehind
  · rintro ⟨hcs, hname, hversion, hshortest⟩
    obtain ⟨earlier, later, heq⟩ := List.append_of_mem (mem_hyphenSplits.2 hcs)
    refine ⟨⟨hname, hversion⟩, earlier, later, heq, ?_⟩
    rintro ⟨b, a⟩ hearlier
    rw [heq] at hsplits
    have hlt : b.length < before.length :=
      (List.pairwise_append.1 hsplits).2.2 _ hearlier _ List.mem_cons_self
    have hsplit : cs = b ++ '-' :: a :=
      mem_hyphenSplits.1 (heq ▸ List.mem_append_left _ hearlier)
    have hnot : ¬ (isName b && isVersion a) = true := by
      rw [Bool.and_eq_true]
      exact fun ⟨hb, ha⟩ => Nat.not_le_of_lt hlt (hshortest b a hsplit hb ha)
    exact Bool.not_eq_true' _ |>.mpr (Bool.eq_false_iff.2 hnot)

/-- One of two hyphens of a text stands before the other. -/
theorem exists_between {before after before' after' : List Char}
    (h : before ++ '-' :: after = before' ++ '-' :: after')
    (hlt : before.length < before'.length) :
    ∃ between, before' = before ++ '-' :: between ∧ after = between ++ '-' :: after' := by
  rcases List.append_eq_append_iff.1 h with ⟨middle, rfl, hmiddle⟩ | ⟨middle, rfl, _⟩
  · cases middle with
    | nil => simp at hlt
    | cons c between =>
      obtain ⟨rfl, hafter⟩ := List.cons.inj hmiddle
      exact ⟨between, rfl, hafter⟩
  · exact absurd hlt (by simp)

/-! ## Breaks -/

/-- Inside a text there is a hyphen at `i`, and a digit of ASCII behind it. -/
def BreaksAt (cs : List Char) (i : Nat) : Prop :=
  1 ≤ i ∧ cs[i]? = some '-' ∧ ∃ d, cs[i + 1]? = some d ∧ d.isDigit

/-- The first break of a text. -/
def FirstBreak (cs : List Char) (i : Nat) : Prop :=
  BreaksAt cs i ∧ ∀ j, BreaksAt cs j → i ≤ j

theorem breaksAt_length {before after : List Char} :
    BreaksAt (before ++ '-' :: after) before.length ↔ before ≠ [] ∧ DigitFirst after := by
  have hnext : (before ++ '-' :: after)[before.length + 1]? = after.head? := by
    rw [List.getElem?_append_right (Nat.le_add_right _ 1), Nat.add_sub_cancel_left,
      List.getElem?_cons_succ, List.head?_eq_getElem?]
  rw [BreaksAt, hnext]
  simp [DigitFirst, Nat.one_le_iff_ne_zero]

theorem exists_of_breaksAt {cs : List Char} {i : Nat} (h : BreaksAt cs i) :
    ∃ before after, cs = before ++ '-' :: after ∧ before.length = i := by
  obtain ⟨before, after, hcs, hlength, _⟩ := exists_split h.2.1
  exact ⟨before, after, hcs, hlength⟩

/-- What is split at a break before a name and a version is a name and a version. -/
theorem reads_of_earlier {before after before' after' : List Char}
    (h : before ++ '-' :: after = before' ++ '-' :: after')
    (hlt : before.length < before'.length)
    (hbreak : BreaksAt (before ++ '-' :: after) before.length)
    (hname : isName before' = true) (hversion : isVersion after' = true) :
    isName before = true ∧ isVersion after = true := by
  obtain ⟨between, rfl, rfl⟩ := exists_between h hlt
  obtain ⟨hne, hdigit⟩ := breaksAt_length.1 hbreak
  rw [isName_iff] at hname ⊢
  rw [isVersion_iff] at hversion ⊢
  obtain ⟨hletter, hchars⟩ := hname
  refine ⟨⟨?_, fun c hc => hchars c (List.mem_append_left _ hc)⟩, hdigit, fun c hc => ?_⟩
  · cases before with
    | nil => exact absurd rfl hne
    | cons c before => exact hletter
  · rcases List.mem_append.1 hc with hc | hc
    · have hnameChar := hchars c (List.mem_append_right _ (List.mem_cons_of_mem _ hc))
      exact hnameChar.imp_right fun h => .inr (.inr h)
    · rcases List.mem_cons.1 hc with rfl | hc
      · simp
      · exact hversion.2 c hc

/-- A text is split at its first break or not at all. -/
theorem split?_eq_some_iff_firstBreak {before after : List Char} :
    split? (before ++ '-' :: after) = some (before, after) ↔
      FirstBreak (before ++ '-' :: after) before.length ∧ NameText before ∧
        VersionText after := by
  have hbreaks : ∀ {b a : List Char}, isName b = true → isVersion a = true →
      BreaksAt (b ++ '-' :: a) b.length := by
    intro b a hb ha
    refine breaksAt_length.2 ⟨?_, (isVersion_iff.1 ha).1⟩
    rintro rfl
    cases hb
  rw [split?_eq_some_iff]
  constructor
  · rintro ⟨-, hname, hversion, hshortest⟩
    refine ⟨⟨hbreaks hname hversion, fun j hj => ?_⟩, isName_iff.1 hname,
      (isVersion_iff.1 hversion).2⟩
    obtain ⟨b, a, hsplit, rfl⟩ := exists_of_breaksAt hj
    rcases Nat.lt_or_ge b.length before.length with hlt | hle
    · rw [hsplit] at hj
      obtain ⟨hb, ha⟩ := reads_of_earlier hsplit.symm hlt hj hname hversion
      exact hshortest b a hsplit hb ha
    · exact hle
  · rintro ⟨⟨hbreak, hfirst⟩, hname, hversion⟩
    have hdigit := (breaksAt_length.1 hbreak).2
    refine ⟨rfl, isName_iff.2 hname, isVersion_iff.2 ⟨hdigit, hversion⟩, ?_⟩
    intro b a hsplit hb ha
    exact hfirst _ (hsplit ▸ hbreaks hb ha)

/-- Behind a name, the hyphen before a digit is the first break unless the name breaks itself. -/
theorem firstBreak_length_iff {before after : List Char} (hname : NameText before) :
    FirstBreak (before ++ '-' :: after) before.length ↔
      DigitFirst after ∧ ¬ ∃ d, d.isDigit ∧ ['-', d] <:+: before := by
  have hne : before ≠ [] := by
    rintro rfl
    simp [NameText] at hname
  constructor
  · rintro ⟨hbreak, hfirst⟩
    refine ⟨(breaksAt_length.1 hbreak).2, ?_⟩
    rintro ⟨d, hd, first, last, rfl⟩
    -- the name begins with a letter, so it does not break at its first character
    have hinside : first ≠ [] := by
      rintro rfl
      obtain ⟨⟨c, hc, hletter⟩, _⟩ := hname
      cases hc
      exact absurd hletter (by decide)
    have hearlier : BreaksAt (first ++ ['-', d] ++ last ++ '-' :: after) first.length := by
      have hwhole : first ++ ['-', d] ++ last ++ '-' :: after =
          first ++ '-' :: d :: (last ++ '-' :: after) := by simp
      rw [hwhole]
      exact breaksAt_length.2 ⟨hinside, d, rfl, hd⟩
    have hle := hfirst _ hearlier
    simp only [List.length_append, List.length_cons] at hle
    omega
  · rintro ⟨hdigit, hunbroken⟩
    refine ⟨breaksAt_length.2 ⟨hne, hdigit⟩, fun j hj => ?_⟩
    obtain ⟨b, a, hsplit, rfl⟩ := exists_of_breaksAt hj
    rcases Nat.lt_or_ge b.length before.length with hlt | hle
    · obtain ⟨between, rfl, rfl⟩ := exists_between hsplit.symm hlt
      rw [hsplit] at hj
      obtain ⟨_, d, hd, hisDigit⟩ := breaksAt_length.1 hj
      cases between with
      | nil =>
        cases hd
        cases hisDigit
      | cons c between =>
        cases hd
        exact absurd ⟨d, hisDigit, b, between, by simp⟩ hunbroken
    · exact hle

/-! ## Reading and writing -/

theorem parse_eq_ok {s : String} {id : ModuleId} :
    parse s = .ok id ↔ split? s.toList = some (id.name.toList, id.version.toList) := by
  unfold parse parse?
  rcases split? s.toList with _ | ⟨before, after⟩
  · simp
  · obtain ⟨name, version⟩ := id
    simp [← String.toList_inj]

theorem toList_text (id : ModuleId) :
    id.text.toList = id.name.toList ++ '-' :: id.version.toList := by
  simp [text]

theorem text_of_parse {s : String} {id : ModuleId} (h : parse s = .ok id) : id.text = s := by
  obtain ⟨hsplit, _⟩ := split?_eq_some_iff.1 (parse_eq_ok.1 h)
  exact String.toList_inj.1 ((toList_text id).trans hsplit.symm)

/-- A text writes an id exactly if a name stands before its first break and a version behind it, and
then this is the id, and it writes the text. An id is read back from what it writes exactly if it
has a name and a version, and its name does not break. -/
theorem parse_grammar :
    (∀ (s : String) (id : ModuleId), parse s = .ok id ↔
      ∃ i, FirstBreak s.toList i ∧ NameText (s.toList.take i) ∧
        VersionText (s.toList.drop (i + 1)) ∧
        id = ⟨.ofList (s.toList.take i), .ofList (s.toList.drop (i + 1))⟩) ∧
    (∀ (s : String) (id : ModuleId), parse s = .ok id → id.text = s) ∧
    ∀ name version : String, parse (text ⟨name, version⟩) = .ok ⟨name, version⟩ ↔
      NameText name.toList ∧ DigitFirst version.toList ∧ VersionText version.toList ∧
        ¬ ∃ d : Char, d.isDigit ∧ ['-', d] <:+: name.toList := by
  refine ⟨fun s id => ?_, fun s id => text_of_parse, fun name version => ?_⟩
  · constructor
    · intro h
      have hread := parse_eq_ok.1 h
      have hsplit := (split?_eq_some_iff.1 hread).1
      rw [hsplit] at hread ⊢
      obtain ⟨hfirst, hname, hversion⟩ := split?_eq_some_iff_firstBreak.1 hread
      refine ⟨_, hfirst, ?_⟩
      simp [hname, hversion]
    · rintro ⟨i, hfirst, hname, hversion, rfl⟩
      obtain ⟨before, after, hsplit, rfl⟩ := exists_of_breaksAt hfirst.1
      have hbehind : (before ++ '-' :: after).drop (before.length + 1) = after := by simp
      rw [hsplit, List.take_left] at hname
      rw [hsplit, hbehind] at hversion
      rw [hsplit] at hfirst
      rw [parse_eq_ok, hsplit, List.take_left, hbehind]
      simpa using split?_eq_some_iff_firstBreak.2 ⟨hfirst, hname, hversion⟩
  · rw [parse_eq_ok, toList_text, split?_eq_some_iff_firstBreak]
    constructor
    · rintro ⟨hfirst, hname, hversion⟩
      obtain ⟨hdigit, hunbroken⟩ := (firstBreak_length_iff hname).1 hfirst
      exact ⟨hname, hdigit, hversion, hunbroken⟩
    · rintro ⟨hname, hdigit, hversion, hunbroken⟩
      exact ⟨(firstBreak_length_iff hname).2 ⟨hdigit, hunbroken⟩, hname, hversion⟩

/-- A version may hold hyphens before digits, and what is read of it writes the text. -/
theorem parse_snapshot :
    parse "edge-sip2-3.3.0-1" = .ok ⟨"edge-sip2", "3.3.0-1"⟩ ∧
      text ⟨"edge-sip2", "3.3.0-1"⟩ = "edge-sip2-3.3.0-1" :=
  have h : parse "edge-sip2-3.3.0-1" = .ok ⟨"edge-sip2", "3.3.0-1"⟩ := by rfl
  ⟨h, parse_grammar.2.1 _ _ h⟩

/-- A name that breaks is not read back. -/
example : parse (text ⟨"mod-2go", "1.0"⟩) = .ok ⟨"mod", "2go-1.0"⟩ := by rfl

end Fleet.ModuleId
