import Warrant.Proofs.Exhaustive
import Warrant.Proofs.Listing

/-! The indexes of a fact store stay in step with its entries.
Whatever is stored, and however often, an entry stands at one place and keeps it, and each index
divides the places among the keys of the entries that stand there (`Buckets.Partitions`). So a
look-up by shape finds every readable entry of the shape, and the groups by origin hold every entry,
each once. -/

namespace Warrant

/-- `buckets` divide the places of a list of keys: each place stands in one group, under its own
key, and the places of a group go up. -/
structure Buckets.Partitions {κ : Type} (buckets : Buckets κ) (keys : List κ) : Prop where
  distinct : (buckets.map (·.1)).Nodup
  inhabited : ∀ b ∈ buckets, b.2.toList ≠ []
  increasing : ∀ b ∈ buckets, b.2.toList.Pairwise (· < ·)
  own : ∀ b ∈ buckets, ∀ place ∈ b.2.toList, keys[place]? = some b.1
  covers : ∀ place < keys.length, ∃! b, b ∈ buckets ∧ place ∈ b.2.toList

namespace Buckets

variable {κ : Type} [Ord κ] [Std.LawfulEqOrd κ] [Std.TransOrd κ] {keys : List κ}

theorem mem_keys_iff {key : κ} : key ∈ (ofKeys keys).map (·.1) ↔ key ∈ keys := by
  rw [keys_ofKeys, Sorted.mem_ofList]

theorem nodup_keys (keys : List κ) : ((ofKeys keys).map (·.1)).Nodup := by
  rw [keys_ofKeys]
  exact Sorted.increasing_nodup (Sorted.ofList_increasing keys)

variable [DecidableEq κ]

theorem toList_of_mem {b : κ × Array Nat} (hb : b ∈ ofKeys keys) :
    b.2.toList =
      keys.zipIdx.filterMap fun (k, place) => if k = b.1 then some place else none := by
  rw [← get_of_mem (ofKeys_increasing keys) hb, get_ofKeys]

/-- The group of a key holds the places where it stands. -/
theorem mem_toList_iff {b : κ × Array Nat} (hb : b ∈ ofKeys keys) {place : Nat} :
    place ∈ b.2.toList ↔ keys[place]? = some b.1 := by
  rw [toList_of_mem hb, List.mem_filterMap]
  constructor
  · rintro ⟨⟨k, i⟩, h, found⟩
    obtain ⟨rfl, rfl⟩ : k = b.1 ∧ i = place := by simpa using found
    exact List.mem_zipIdx_iff_getElem?.1 h
  · exact fun h => ⟨(b.1, place), List.mem_zipIdx_iff_getElem?.2 h, if_pos rfl⟩

theorem partitions_ofKeys (keys : List κ) : (ofKeys keys).Partitions keys where
  distinct := nodup_keys keys
  inhabited b hb := by
    obtain ⟨place, found⟩ := List.mem_iff_getElem?.1 (mem_keys_iff.1 (List.mem_map_of_mem hb))
    exact List.ne_nil_of_mem ((mem_toList_iff hb).2 found)
  increasing b hb := by
    rw [toList_of_mem hb, List.pairwise_filterMap]
    refine (zipIdx_increasing keys).imp fun {p q} less x hx y hy => ?_
    grind
  own b hb place h := (mem_toList_iff hb).1 h
  covers place below := by
    have found := List.getElem?_eq_getElem below
    obtain ⟨b, hb, key⟩ := List.mem_map.1 (mem_keys_iff.2 (List.getElem_mem below))
    refine ⟨b, ⟨hb, (mem_toList_iff hb).2 (key ▸ found)⟩, fun c ⟨hc, h⟩ => ?_⟩
    -- both groups are that of the key at this place
    have same : some c.1 = some b.1 := by rw [← (mem_toList_iff hc).1 h, found, key]
    exact List.inj_on_of_nodup_map (nodup_keys keys) hc hb (Option.some.inj same)

end Buckets

namespace FactSet

variable {s : FactSet} {l : List Entry} {e : Entry}

theorem mem_toList_insertAll {d : Entry} :
    d ∈ (s.insertAll l).toList ↔ d ∈ s.toList ∨ d ∈ l := by
  induction l generalizing s with
  | nil => simp [insertAll]
  | cons e rest ih =>
    change d ∈ ((s.insert e).insertAll rest).toList ↔ _
    rw [ih, mem_toList_insert, List.mem_cons, or_assoc]

theorem contains_ofList : (ofList l).contains e ↔ e ∈ l := by
  have stored : e ∈ (ofList l).toList ↔ e ∈ l := mem_toList_insertAll.trans (by simp)
  rw [contains_iff, ← stored, toList, Array.mem_toList_iff]

/-- What is stored keeps its place. -/
theorem get?_insertAll {place : Nat} (found : s.get? place = some e) :
    (s.insertAll l).get? place = some e := by
  have places (u : FactSet) : u.get? place = u.toList[place]? := by simp [get?, toList]
  rw [places] at found ⊢
  exact Symbols.getElem?_of_prefix prefix_insertAll found

/-! Storing one entry after the other, with the answers. -/

theorem mapM_add_cons (e : Entry) (l : List Entry) (s : FactSet) :
    (e :: l).mapM add s =
      ((!s.contains e) :: (l.mapM add (s.insert e)).1, (l.mapM add (s.insert e)).2) := by
  rw [List.mapM_cons]
  rfl

/-- The store afterwards, and an answer for each entry. -/
theorem mapM_add_state (l : List Entry) (s : FactSet) :
    (l.mapM add s).2 = s.insertAll l ∧ (l.mapM add s).1.length = l.length := by
  induction l generalizing s with
  | nil => exact ⟨rfl, rfl⟩
  | cons e rest ih =>
    rw [mapM_add_cons]
    exact ⟨(ih _).1, congrArg (· + 1) (ih _).2⟩

theorem mapM_add_append (l r : List Entry) (s : FactSet) :
    ((l ++ r).mapM add s).1 = (l.mapM add s).1 ++ (r.mapM add (s.insertAll l)).1 := by
  induction l generalizing s with
  | nil => rfl
  | cons e rest ih =>
    rw [List.cons_append, mapM_add_cons, mapM_add_cons, ih]
    rfl

/-- An entry is new if it has not been stored before. -/
theorem answer_of_add (before after : List Entry) (e : Entry) :
    ((before ++ e :: after).mapM add FactSet.empty).1[before.length]? =
      some (decide (e ∉ before)) := by
  have answered := (mapM_add_state before .empty).2
  rw [mapM_add_append, List.getElem?_append_right (Nat.le_of_eq answered), answered, Nat.sub_self,
    mapM_add_cons, List.getElem?_cons_zero, decide_not]
  congr
  exact Bool.eq_iff_iff.2 (contains_ofList.trans decide_eq_true_iff.symm)

/-! The groups by origin. -/

theorem keys_groups (s : FactSet) :
    s.groups.map (·.1) = Sorted.ofList (s.toList.map (·.origin)) := by
  rw [groups_eq, List.map_map]
  exact List.map_id _

/-- The groups put together, with the origins to which the facts belong. -/
theorem flatMap_groups (s : FactSet) : (s.groups.flatMap fun g => g.2.map (Entry.mk g.1)) =
    (Sorted.ofList (s.toList.map (·.origin))).flatMap fun o => s.toList.filter (·.origin = o) := by
  rw [groups_eq, List.flatMap_map]
  refine List.flatMap_congr fun o _ => ?_
  rw [List.map_map]
  conv => rhs; rw [← List.map_id (s.toList.filter _)]
  refine List.map_congr_left fun e he => ?_
  obtain rfl : e.origin = o := by simpa using (List.mem_filter.1 he).2
  rfl

theorem flatMap_groups_perm (s : FactSet) :
    (s.groups.flatMap fun g => g.2.map (Entry.mk g.1)).Perm s.toList := by
  have origins : (Sorted.ofList (s.toList.map (·.origin))).Nodup :=
    Sorted.increasing_nodup (Sorted.ofList_increasing _)
  rw [flatMap_groups]
  refine (List.perm_ext_iff_of_nodup (List.nodup_flatMap.2 ⟨fun o _ => s.nodup.filter _, ?_⟩)
    s.nodup).2 fun e => ?_
  · refine origins.imp fun {o p} other e left right => other ?_
    rw [← (by simpa using (List.mem_filter.1 left).2 : e.origin = o),
      ← (by simpa using (List.mem_filter.1 right).2 : e.origin = p)]
  · rw [List.mem_flatMap]
    constructor
    · rintro ⟨o, -, he⟩
      exact List.mem_of_mem_filter he
    · intro he
      exact ⟨e.origin, Sorted.mem_ofList.2 (List.mem_map_of_mem he), by simpa using he⟩

/-- However entries are stored, and however often: an entry counts as new exactly the first time; it
stands once, at a place that it keeps; both indexes divide the places by shape and by origin; the
candidates for an atom are the readable entries of its shape, with their places, in order; and the
groups by origin hold every entry, once. -/
theorem indexes_of_insertions (history : List Entry) :
    let s := (history.mapM add FactSet.empty).2
    (∀ before e after, history = before ++ e :: after →
      (history.mapM add FactSet.empty).1[before.length]? = some (decide (e ∉ before))) ∧
    (∀ before after place e, history = before ++ after →
      (before.mapM add FactSet.empty).2.get? place = some e → s.get? place = some e) ∧
    s.toList.Nodup ∧ (∀ e, e ∈ s.toList ↔ e ∈ history) ∧
    s.byShape.Partitions (s.toList.map (·.fact.shape)) ∧
    s.byOrigin.Partitions (s.toList.map (·.origin)) ∧
    (∀ atom trust, (s.candidates atom trust).Pairwise (·.1 < ·.1) ∧
      ∀ place e, (place, e) ∈ s.candidates atom trust ↔ s.get? place = some e ∧
        e.fact.name = atom.name ∧ e.fact.arity = atom.arity ∧ ∀ b ∈ e.origin, b ∈ trust.blocks) ∧
    (s.groups.map (·.1)).Nodup ∧
    (s.groups.flatMap fun g => g.2.map (Entry.mk g.1)).Perm s.toList := by
  intro s
  have stored : s = ofList history := (mapM_add_state history .empty).1
  refine ⟨?_, ?_, s.nodup, fun e => ?_, ?_, ?_,
    fun atom trust => ⟨s.candidates_increasing atom trust, fun place e => ?_⟩, ?_,
    s.flatMap_groups_perm⟩
  · rintro before e after rfl
    exact answer_of_add before after e
  · rintro before after place e rfl found
    rw [(mapM_add_state before .empty).1] at found
    rw [stored, ofList, insertAll, List.foldl_append]
    exact get?_insertAll found
  · rw [stored]
    exact mem_toList_insertAll.trans (by simp)
  · rw [s.byShape_eq]
    exact Buckets.partitions_ofKeys _
  · rw [s.byOrigin_eq]
    exact Buckets.partitions_ofKeys _
  · rw [mem_candidates, Trust.reads_iff, Atom.shape, Atom.shape, Shape.mk.injEq, and_assoc]
  · rw [keys_groups]
    exact Sorted.increasing_nodup (Sorted.ofList_increasing _)

end FactSet

end Warrant
