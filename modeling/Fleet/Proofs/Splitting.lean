/-!
# Lists that are taken apart at a place
-/

namespace Fleet

/-- What stands at a place stands between what is before and what is behind it. -/
theorem exists_split {α : Type} {l : List α} {index : Nat} {x : α} (h : l[index]? = some x) :
    ∃ first later, l = first ++ x :: later ∧ first.length = index ∧
      l.eraseIdx index = first ++ later ∧ ∀ y, l.set index y = first ++ y :: later := by
  obtain ⟨hlt, rfl⟩ := List.getElem?_eq_some_iff.1 h
  refine ⟨l.take index, l.drop (index + 1), ?_, ?_, ?_, fun y => ?_⟩
  · rw [List.getElem_cons_drop, List.take_append_drop]
  · rw [List.length_take, Nat.min_eq_left (Nat.le_of_lt hlt)]
  · exact List.eraseIdx_eq_take_drop_succ ..
  · exact List.set_eq_take_append_cons_drop .. |>.trans (if_pos hlt)

theorem forall_mem_middle {α : Type} {P : α → Prop} {first later : List α} {x : α} :
    (∀ y ∈ first ++ x :: later, P y) ↔ P x ∧ ∀ y ∈ first ++ later, P y := by
  rw [List.forall_mem_append, List.forall_mem_cons, List.forall_mem_append, and_left_comm]

end Fleet
