import Warrant.Sorted

/-! Sets in increasing order are known by their elements.
Two increasing lists with the same elements are the same list, so `ofList` forgets order and
repetition. -/

namespace Warrant.Sorted

variable {α : Type} [Ord α] [Std.LawfulEqOrd α]

theorem increasing_nodup {l : List α} (h : Increasing l) : l.Nodup := by
  refine h.imp fun {a b} less same => ?_
  subst same
  simp at less

variable [Std.TransOrd α]

theorem increasing_ext {l r : List α} (hl : Increasing l) (hr : Increasing r)
    (h : ∀ a, a ∈ l ↔ a ∈ r) : l = r := by
  have perm := (List.perm_ext_iff_of_nodup (increasing_nodup hl) (increasing_nodup hr)).2 h
  refine perm.eq_of_pairwise (fun a b _ _ (ab : compare a b = .lt) ba => ?_) hl hr
  exact absurd ba (Std.OrientedCmp.not_lt_of_lt ab)

theorem ofList_congr {l r : List α} (h : ∀ a, a ∈ l ↔ a ∈ r) : ofList l = ofList r :=
  increasing_ext (ofList_increasing l) (ofList_increasing r) (by simpa using h)

end Warrant.Sorted

namespace Warrant.OrderedSet

variable {α : Type} [Ord α]

@[simp] theorem not_mem_empty {a : α} : a ∉ (empty : OrderedSet α) := List.not_mem_nil

theorem eq_of_mem_iff [Std.LawfulEqOrd α] [Std.TransOrd α] {s t : OrderedSet α}
    (h : ∀ a, a ∈ s ↔ a ∈ t) : s = t := by
  obtain ⟨l, hl⟩ := s
  obtain ⟨r, hr⟩ := t
  exact (mk.injEq ..).mpr (Sorted.increasing_ext hl hr h)

end Warrant.OrderedSet
