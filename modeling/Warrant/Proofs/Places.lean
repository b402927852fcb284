import Mathlib.Data.List.Basic
import Mathlib.Data.List.Induction
import Warrant.FactSet

/-! What the indexes of a fact store hold.
A group of `Buckets.ofKeys` is the increasing list of the places of its key, so the candidates for
an atom are exactly the readable entries of its shape, each once, with its place, in order. -/

namespace Warrant

instance : Std.TransOrd Shape :=
  inferInstanceAs (Std.TransCmp (compareLex (compareOn Shape.name) (compareOn Shape.arity)))

instance : Std.LawfulEqOrd Shape where
  eq_of_compare {a b} h := by
    change (compare a.name b.name).then (compare a.arity b.arity) = .eq at h
    rw [Ordering.then_eq_eq] at h
    obtain ⟨n, k⟩ := a
    obtain ⟨m, l⟩ := b
    cases (Std.LawfulEqOrd.eq_of_compare h.1 : n = m)
    cases (Std.LawfulEqOrd.eq_of_compare h.2 : k = l)
    rfl

theorem zipIdx_increasing {α : Type} (l : List α) : l.zipIdx.Pairwise (·.2 < ·.2) := by
  rw [← List.pairwise_map (f := Prod.snd), List.zipIdx_map_snd]
  exact List.pairwise_lt_range'

namespace Buckets

variable {κ : Type} [Ord κ]

/-- Strictly increasing in the keys. -/
def Increasing (buckets : Buckets κ) : Prop := buckets.Pairwise (compare ·.1 ·.1 = .lt)

theorem mem_push {key : κ} {place : Nat} {buckets : Buckets κ} {b : κ × Array Nat}
    (h : b ∈ push key place buckets) : b.1 = key ∨ ∃ c ∈ buckets, c.1 = b.1 := by
  induction buckets with
  | nil => simp_all [push]
  | cons c rest ih =>
    simp only [push] at h
    split at h <;> simp only [List.mem_cons] at h <;> grind

theorem get_cons (key k : κ) (places : Array Nat) (rest : Buckets κ) :
    get key ((k, places) :: rest) = if compare key k = .eq then places else get key rest := by
  by_cases h : compare key k = .eq <;> simp [get, h]

/-- A key below all others has no group. -/
theorem get_of_lt {key : κ} {buckets : Buckets κ} (h : ∀ b ∈ buckets, compare key b.1 = .lt) :
    get key buckets = #[] := by
  induction buckets with
  | nil => rfl
  | cons b rest ih =>
    have less := h b (List.mem_cons_self ..)
    rw [get_cons, if_neg (by simp [less]), ih fun c hc => h c (List.mem_cons_of_mem _ hc)]

variable [Std.TransOrd κ]

theorem push_increasing (key : κ) (place : Nat) {buckets : Buckets κ} (h : Increasing buckets) :
    Increasing (push key place buckets) := by
  induction buckets with
  | nil => simp [push, Increasing]
  | cons b rest ih =>
    obtain ⟨k, places⟩ := b
    have hk := List.pairwise_cons.1 h
    simp only [push]
    split
    · rename_i less
      refine List.pairwise_cons.2 ⟨fun c hc => ?_, h⟩
      rcases List.mem_cons.1 hc with rfl | hc
      · exact less
      · exact Std.TransCmp.lt_trans less (hk.1 c hc)
    · exact List.pairwise_cons.2 ⟨hk.1, hk.2⟩
    · rename_i greater
      refine List.pairwise_cons.2 ⟨fun c hc => ?_, ih hk.2⟩
      rcases mem_push hc with same | ⟨d, hd, same⟩
      · rw [same]
        exact Std.OrientedCmp.gt_iff_lt.1 greater
      · rw [← same]
        exact hk.1 d hd

theorem ofKeys_increasing (keys : List κ) : Increasing (ofKeys keys) := by
  induction keys using List.reverseRecOn with
  | nil => exact .nil
  | append_singleton keys key ih =>
    rw [ofKeys_concat]
    exact push_increasing key keys.length ih

variable [Std.LawfulEqOrd κ] [DecidableEq κ]

theorem get_push (key k : κ) (place : Nat) {buckets : Buckets κ} (h : Increasing buckets) :
    get key (push k place buckets) =
      if k = key then (get key buckets).push place else get key buckets := by
  induction buckets with
  | nil =>
    by_cases same : k = key
    · subst same
      simp [push, get]
    · have : compare key k ≠ .eq := fun e => same (Std.LawfulEqOrd.eq_of_compare e).symm
      simp [push, get, same, this]
  | cons b rest ih =>
    obtain ⟨l, places⟩ := b
    have hl := List.pairwise_cons.1 h
    simp only [push]
    split
    · rename_i less
      rw [get_cons]
      by_cases same : k = key
      · subst same
        -- the new group stands first, and there was none before
        rw [if_pos Std.ReflCmp.compare_self, if_pos rfl, get_of_lt]
        · rfl
        intro c hc
        rcases List.mem_cons.1 hc with rfl | hc
        · exact less
        · exact Std.TransCmp.lt_trans less (hl.1 c hc)
      · rw [if_neg fun e => same (Std.LawfulEqOrd.eq_of_compare e).symm, if_neg same]
    · rename_i equal
      cases Std.LawfulEqOrd.eq_of_compare equal
      rw [get_cons, get_cons]
      by_cases same : k = key
      · subst same
        simp
      · have : compare key k ≠ .eq := fun e => same (Std.LawfulEqOrd.eq_of_compare e).symm
        simp [same, this]
    · rename_i greater
      rw [get_cons, get_cons, ih hl.2]
      by_cases same : k = key
      · subst same
        simp [greater]
      · simp [same]

/-- The group of a key holds its places, in order. -/
theorem get_ofKeys (keys : List κ) (key : κ) :
    (get key (ofKeys keys)).toList =
      keys.zipIdx.filterMap fun (k, place) => if k = key then some place else none := by
  induction keys using List.reverseRecOn with
  | nil => rfl
  | append_singleton keys k ih =>
    rw [ofKeys_concat, get_push key k _ (ofKeys_increasing keys), List.zipIdx_append,
      List.filterMap_append, ← ih]
    by_cases same : k = key <;> simp [same]

end Buckets

namespace FactSet

/-- The candidates for an atom are the readable entries of its shape in order. -/
theorem candidates_eq (s : FactSet) (atom : Atom Nat) (trust : Trust) :
    s.candidates atom trust = s.toList.zipIdx.filterMap fun (entry, place) =>
      if entry.fact.shape = atom.shape ∧ trust.reads entry.origin then some (place, entry)
      else none := by
  rw [candidates, s.byShape_eq, Buckets.get_ofKeys, List.zipIdx_map, List.filterMap_map,
    List.filterMap_filterMap]
  refine List.filterMap_congr fun (entry, place) h => ?_
  have stored : s.get? place = some entry := by
    simpa [get?, toList] using List.mem_zipIdx_iff_getElem?.1 h
  by_cases shape : entry.fact.shape = atom.shape <;>
    simp [shape, stored]

theorem mem_candidates {s : FactSet} {atom : Atom Nat} {trust : Trust} {place : Nat}
    {entry : Entry} : (place, entry) ∈ s.candidates atom trust ↔
      s.get? place = some entry ∧ entry.fact.shape = atom.shape ∧ trust.reads entry.origin := by
  rw [candidates_eq, List.mem_filterMap]
  constructor
  · rintro ⟨⟨e, i⟩, h, found⟩
    have stored : s.get? i = some e := by
      simpa [get?, toList] using List.mem_zipIdx_iff_getElem?.1 h
    grind
  · rintro ⟨stored, shape, readable⟩
    refine ⟨(entry, place), List.mem_zipIdx_iff_getElem?.2 ?_, by simp [shape, readable]⟩
    simpa [get?, toList] using stored

end FactSet

end Warrant
