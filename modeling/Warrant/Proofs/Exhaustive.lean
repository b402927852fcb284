import Warrant.Proofs.Naive
import Warrant.Proofs.Visits

/-! The join against all choices of facts.
A choice is one stored fact for each atom of a body, told by their places. `Join.Picks` says when a
choice gives a match, without a walk: one assignment of the variables of the body makes its atoms
the chosen facts. The join finds these choices in lexicographic order and each of them once
(`mem_traces_iff`, `traces_increasing`), and with `since` those that use a new place. So the matches
in a store are those in its first part and, between them, those that need something newer. -/

namespace Warrant

namespace Binding

variable {b c : Binding}

/-- Each variable once, in order. -/
def Increasing (b : Binding) : Prop := b.entries.Pairwise (·.1 < ·.1)

instance (b : Binding) : Decidable b.Increasing :=
  inferInstanceAs (Decidable (List.Pairwise _ _))

theorem mem_place {v : Nat} {value : Term Nat} {l : List (Nat × Term Nat)} {e : Nat × Term Nat}
    (h : e ∈ place v value l) : e = (v, value) ∨ e ∈ l := by
  induction l with
  | nil => exact .inl (List.mem_singleton.1 h)
  | cons d rest ih =>
    simp only [place] at h
    split at h
    · exact List.mem_cons.1 h
    split at h
    · exact (List.mem_cons.1 h).imp_right (List.mem_cons_of_mem _)
    · rcases List.mem_cons.1 h with rfl | later
      · exact .inr (List.mem_cons_self ..)
      · exact (ih later).imp_right (List.mem_cons_of_mem _)

theorem Increasing.set (h : b.Increasing) (v : Nat) (value : Term Nat) :
    (b.set v value).Increasing := by
  obtain ⟨l⟩ := b
  change (place v value l).Pairwise _
  change l.Pairwise _ at h
  induction l with
  | nil => exact List.pairwise_singleton ..
  | cons d rest ih =>
    obtain ⟨w, old⟩ := d
    obtain ⟨least, later⟩ := List.pairwise_cons.1 h
    simp only [place]
    split
    · rename_i before
      refine List.pairwise_cons.2 ⟨fun e he => ?_, h⟩
      rcases List.mem_cons.1 he with rfl | he
      · exact before
      · exact Nat.lt_trans before (least e he)
    split
    · rename_i same
      exact List.pairwise_cons.2 ⟨fun e he => same ▸ least e he, later⟩
    · refine List.pairwise_cons.2 ⟨fun e he => ?_, ih later⟩
      rcases mem_place he with rfl | he
      · change w < v
        omega
      · exact least e he

theorem mem_entries_iff (h : b.Increasing) {v : Nat} {x : Term Nat} :
    (v, x) ∈ b.entries ↔ b.get? v = some x := by
  obtain ⟨l⟩ := b
  change _ ∈ l ↔ l.lookup v = some x
  change l.Pairwise _ at h
  induction l with
  | nil => simp
  | cons d rest ih =>
    obtain ⟨w, old⟩ := d
    obtain ⟨least, later⟩ := List.pairwise_cons.1 h
    by_cases same : v = w
    · subst same
      have none : (v, x) ∉ rest := fun mem => Nat.lt_irrefl v (least _ mem)
      simp [none, eq_comm]
    · rw [List.lookup_cons, beq_eq_false_iff_ne.2 same, ← ih later]
      simp [same]

/-- A binding is known by what it gives. -/
theorem Increasing.ext (hb : b.Increasing) (hc : c.Increasing) (same : b.get? = c.get?) :
    b = c := by
  have nodup {d : Binding} (h : d.Increasing) : d.entries.Nodup :=
    List.Pairwise.imp (fun less equal => Nat.ne_of_lt less (congrArg _ equal)) h
  have members (e : Nat × Term Nat) : e ∈ b.entries ↔ e ∈ c.entries := by
    rw [mem_entries_iff hb, mem_entries_iff hc, same]
  have perm := (List.perm_ext_iff_of_nodup (nodup hb) (nodup hc)).2 members
  obtain ⟨l⟩ := b
  obtain ⟨r⟩ := c
  refine congrArg _ (perm.eq_of_pairwise (fun _ _ _ _ less more => ?_) hb hc)
  exact absurd more (Nat.lt_asymm less)

end Binding

namespace Assignment

theorem bind?_increasing {a b : Assignment} {v : Nat} {value : Term Nat}
    (h : a.bind? v value = some b) (increasing : a.bound.Increasing) : b.bound.Increasing := by
  unfold bind? at h
  split at h
  · split at h
    · cases h
      exact increasing
    · cases h
  · cases h
    exact increasing.set v value

theorem bindAll?_increasing {pairs : List (Term Nat × Term Nat)} {a b : Assignment}
    (h : a.bindAll? pairs = some b) (increasing : a.bound.Increasing) : b.bound.Increasing := by
  induction pairs generalizing a with
  | nil =>
    cases h
    exact increasing
  | cons pair rest ih =>
    obtain ⟨t, value⟩ := pair
    rcases bindAll?_cons a t value rest with ⟨v, rfl, step⟩ | ⟨constant, step⟩
    · rw [step, Option.bind_eq_some_iff] at h
      obtain ⟨c, bound, h⟩ := h
      exact ih h (bind?_increasing bound increasing)
    · exact ih (step ▸ h) increasing

end Assignment

theorem unify_increasing {atom fact : Atom Nat} {a b : Assignment}
    (h : unify atom fact a = some b) (increasing : a.bound.Increasing) : b.bound.Increasing :=
  Assignment.bindAll?_increasing (unify_eq_some_iff.1 h).2 increasing

namespace FactSet

/-- The store as it was when it held so many entries. -/
def first (s : FactSet) (n : Nat) : FactSet := .ofList (s.toList.take n)

/-- Candidates come by their places. -/
theorem candidates_increasing (s : FactSet) (atom : Atom Nat) (trust : Trust) :
    (s.candidates atom trust).Pairwise (·.1 < ·.1) := by
  rw [candidates_eq, List.pairwise_filterMap]
  refine (zipIdx_increasing s.toList).imp fun {p q} less x hx y hy => ?_
  grind

end FactSet

namespace Join

variable {facts : FactSet} {trust : Trust} {body atoms : List (Atom Nat)} {declared : List Nat}
  {a : Assignment} {origin : Origin} {places : List Nat} {m : Match}

/-- Whether one entry for each atom of a body, by their places, gives a match: all are readable, and
the binding is that of exactly the variables of the body and makes its atoms the facts. No variable
may be declared that the body does not have. -/
structure Picks (facts : FactSet) (trust : Trust) (body : List (Atom Nat)) (declared : List Nat)
    (places : List Nat) (entries : List Entry) (m : Match) : Prop where
  stored : List.Forall₂ (fun place e => facts.get? place = some e) places entries
  readable : ∀ e ∈ entries, trust.reads e.origin
  atoms : List.Forall₂ (fun atom e => atom.under m.binding.get? = some e.fact) body entries
  domain : ∀ v, (m.binding.get? v).isSome ↔ v ∈ body.flatMap Atom.vars
  increasing : m.binding.Increasing
  origin : ∀ b, b ∈ m.origin ↔ ∃ e ∈ entries, b ∈ e.origin
  declared : ∀ v ∈ declared, v ∈ body.flatMap Atom.vars

theorem mem_origins {taken : List (Nat × Entry)} {b : BlockId} :
    b ∈ origins origin taken ↔ b ∈ origin ∨ ∃ e ∈ taken.map (·.2), b ∈ e.origin := by
  induction taken generalizing origin with
  | nil => simp [origins, pairs]
  | cons p rest ih =>
    change b ∈ origins (origin.union p.2.origin) rest ↔ _
    rw [ih, OrderedSet.mem_union, or_assoc, List.map_cons, List.exists_mem_cons_iff]

/-- The traces come in lexicographic order of their places, each choice once. -/
theorem traces_increasing (facts : FactSet) (trust : Trust) (atoms : List (Atom Nat))
    (a : Assignment) (origin : Origin) :
    (traces facts trust atoms a origin).Pairwise (·.1 < ·.1) := by
  induction atoms generalizing a origin with
  | nil =>
    rw [traces]
    cases a.complete? <;> simp
  | cons atom rest ih =>
    rw [traces, List.pairwise_flatMap]
    constructor
    · rintro ⟨place, entry⟩ -
      dsimp only
      cases unify atom entry.fact a with
      | none => exact .nil
      | some b =>
        refine List.pairwise_map.2 ((ih b _).imp fun less => ?_)
        exact List.cons_lt_cons_iff.2 (.inr ⟨rfl, less⟩)
    · refine (facts.candidates_increasing atom trust).imp ?_
      rintro ⟨i, e⟩ ⟨k, f⟩ less x hx y hy
      dsimp only at hx hy
      cases first : unify atom e.fact a with
      | none =>
        rw [first] at hx
        cases hx
      | some b =>
        cases second : unify atom f.fact a with
        | none =>
          rw [second] at hy
          cases hy
        | some c =>
          rw [first] at hx
          rw [second] at hy
          obtain ⟨s, -, rfl⟩ := List.mem_map.1 hx
          obtain ⟨t, -, rfl⟩ := List.mem_map.1 hy
          exact List.cons_lt_cons_iff.2 (.inl less)

/-- The binding of a trace is in order. -/
theorem binding_of_traces (h : (places, m) ∈ traces facts trust atoms a origin)
    (increasing : a.bound.Increasing) : m.binding.Increasing := by
  induction atoms generalizing a origin places with
  | nil =>
    simp only [traces, Option.mem_toList, Option.map_eq_some_iff, complete?_eq_some_iff] at h
    obtain ⟨b, ⟨-, rfl⟩, same⟩ := h
    cases same
    exact increasing
  | cons atom rest ih =>
    simp only [traces, List.mem_flatMap] at h
    obtain ⟨⟨place, entry⟩, -, h⟩ := h
    split at h
    · rename_i b unified
      obtain ⟨⟨later, n⟩, mem, same⟩ := List.mem_map.1 h
      cases same
      exact ih mem (unify_increasing unified increasing)
    · cases h

/-- Every choice that the atoms match has a trace. -/
theorem traces_complete (origin : Origin) {values : Nat → Option (Term Nat)}
    {taken : List (Nat × Entry)}
    (h : ({ facts, trust } : Join).Comes atoms a false values taken) :
    ∃ m, (taken.map (·.1), m) ∈ traces facts trust atoms a origin ∧ m.binding.get? = values ∧
      m.origin = origins origin taken := by
  induction atoms generalizing a origin taken with
  | nil =>
    cases List.forall₂_nil_left_iff.1 h.made
    obtain ⟨m, mem, values, same⟩ : ∃ m ∈ ({ facts, trust } : Join).found [] a origin false,
      m.binding.get? = values ∧ m.origin = origin := found_complete h
    refine ⟨m, ?_, values, same⟩
    simpa [traces, found] using mem
  | cons atom rest ih =>
    obtain ⟨⟨place, entry⟩, others, made, -, rfl⟩ := List.forall₂_cons_left_iff.1 h.made
    obtain ⟨stored, readable⟩ := h.takes (place, entry) (List.mem_cons_self ..)
    obtain ⟨b, unified, -⟩ := exists_unify h.agrees made
    have later := (comes_cons_iff unified stored readable).1 h
    obtain ⟨m, mem, values, same⟩ := ih _ { later with fresh := .inl rfl }
    refine ⟨m, ?_, values, same⟩
    have fits := Atom.shape_of_fits (Atom.under_eq_some_iff_fits.1 made).1
    have shape : entry.fact.shape = atom.shape := congrArg₂ Shape.mk fits.1.symm fits.2.symm
    have candidate := FactSet.mem_candidates.2 ⟨stored, shape, readable⟩
    simp only [traces, List.mem_flatMap]
    refine ⟨(place, entry), candidate, ?_⟩
    rw [unified]
    exact List.mem_map.2 ⟨_, mem, rfl⟩

/-- The traces of a body are the choices that give a match. -/
theorem mem_traces_iff : (places, m) ∈ traces facts trust body { declared } .empty ↔
    ∃ entries, Picks facts trust body declared places entries m := by
  have free (v : Nat) : ({ declared } : Assignment).get? v = none := rfl
  constructor
  · intro h
    obtain ⟨taken, rfl, comes, same⟩ := traces_sound h
    refine ⟨taken.map (·.2), ?_, ?_, ?_, ?_, binding_of_traces h .nil, ?_, ?_⟩
    · rw [List.forall₂_map_left_iff, List.forall₂_map_right_iff, List.forall₂_same]
      exact fun p hp => (comes.takes p hp).1
    · rintro e he
      obtain ⟨p, hp, rfl⟩ := List.mem_map.1 he
      exact (comes.takes p hp).2
    · exact List.forall₂_map_right_iff.2 comes.made
    · intro v
      simpa [free] using comes.domain v
    · intro b
      rw [same, mem_origins]
      exact or_iff_right OrderedSet.not_mem_empty
    · intro v hv
      simpa [free] using (comes.domain v).1 (comes.declared v hv)
  · rintro ⟨entries, picks⟩
    have length := picks.stored.length_eq
    have taken : ({ facts, trust } : Join).Comes body { declared } false m.binding.get?
        (places.zip entries) := by
      refine ⟨?_, .inl rfl, ?_, by simp [free], by simpa [free] using picks.domain,
        fun v hv => (picks.domain v).2 (picks.declared v hv)⟩
      · rintro ⟨place, e⟩ hp
        refine ⟨(List.forall₂_iff_zip.1 picks.stored).2 hp, ?_⟩
        exact picks.readable e (List.of_mem_zip hp).2
      · rw [← List.forall₂_map_right_iff (f := Prod.snd)
          (R := fun (atom : Atom Nat) (e : Entry) => atom.under m.binding.get? = some e.fact),
          List.map_snd_zip length.ge]
        exact picks.atoms
    obtain ⟨n, mem, values, same⟩ := traces_complete .empty taken
    rw [List.map_fst_zip length.le] at mem
    have binding : n.binding = m.binding :=
      (binding_of_traces mem .nil).ext picks.increasing values
    have origin : n.origin = m.origin := by
      refine OrderedSet.eq_of_mem_iff fun b => ?_
      rw [same, mem_origins, picks.origin]
      rw [List.map_snd_zip length.ge]
      exact or_iff_right OrderedSet.not_mem_empty
    obtain ⟨o, b⟩ := n
    cases binding
    cases origin
    exact mem

end Join

/-- A list that two lists make up between them, each in its order. -/
inductive Interleaves {α : Type} : List α → List α → List α → Prop
  | nil : Interleaves [] [] []
  | left {l r all : List α} (a : α) : Interleaves l r all → Interleaves (a :: l) r (a :: all)
  | right {l r all : List α} (a : α) : Interleaves l r all → Interleaves l (a :: r) (a :: all)

namespace Interleaves

variable {α β : Type} {l r all : List α}

theorem map (f : α → β) (h : Interleaves l r all) :
    Interleaves (l.map f) (r.map f) (all.map f) := by
  induction h with
  | nil => exact .nil
  | left a _ ih => exact .left (f a) ih
  | right a _ ih => exact .right (f a) ih

/-- What passes a test and what does not. -/
theorem filter (p : α → Bool) (l : List α) : Interleaves (l.filter (!p ·)) (l.filter p) l := by
  induction l with
  | nil => exact .nil
  | cons a rest ih =>
    cases passes : p a with
    | true => simpa [passes] using ih.right a
    | false => simpa [passes] using ih.left a

end Interleaves

namespace FactSet

/-- Entries that are all different are stored as they come. -/
theorem toList_insertAll_of_nodup {s : FactSet} {l : List Entry} (h : (s.toList ++ l).Nodup) :
    (s.insertAll l).toList = s.toList ++ l := by
  induction l generalizing s with
  | nil => exact (List.append_nil _).symm
  | cons e rest ih =>
    have new : ¬ s.contains e := fun known => by
      have stored : e ∈ s.toList := by simpa [toList] using contains_iff.1 known
      exact (List.nodup_append.1 h).2.2 e stored e (List.mem_cons_self ..) rfl
    have stored : (s.insert e).toList = s.toList ++ [e] := by rw [toList_insert, if_neg new]
    have split : s.toList ++ e :: rest = (s.insert e).toList ++ rest := by simp [stored]
    rw [split] at h ⊢
    exact ih h

theorem toList_first (s : FactSet) (n : Nat) : (s.first n).toList = s.toList.take n :=
  toList_insertAll_of_nodup (s := empty) (s.nodup.sublist (List.take_sublist ..))

theorem get?_first (s : FactSet) (n place : Nat) :
    (s.first n).get? place = if place < n then s.get? place else none := by
  have stored (t : FactSet) : t.get? place = t.toList[place]? := by simp [get?, toList]
  rw [stored, stored, toList_first, List.getElem?_take]

end FactSet

namespace Join

variable {facts : FactSet} {trust : Trust} {body : List (Atom Nat)} {declared : List Nat}
  {places : List Nat} {m : Match}

/-- A choice from the first part of a store is one whose places are all there. -/
theorem picks_first {d : Nat} {entries : List Entry} :
    Picks (facts.first d) trust body declared places entries m ↔
      Picks facts trust body declared places entries m ∧ ∀ place ∈ places, place < d := by
  have stored (place : Nat) (e : Entry) :
      (facts.first d).get? place = some e ↔ place < d ∧ facts.get? place = some e := by
    rw [FactSet.get?_first]
    split <;> simp [*]
  constructor
  · intro h
    have old := (List.forall₂_and_left _ _).1 (h.stored.imp fun place e => (stored place e).1)
    exact ⟨{ h with stored := old.2 }, old.1⟩
  · rintro ⟨h, old⟩
    have both := (List.forall₂_and_left _ _).2 ⟨old, h.stored⟩
    exact { h with stored := both.imp fun place e => (stored place e).2 }

/-- The traces in the first part of a store are those that use nothing newer. -/
theorem traces_first (d : Nat) : traces (facts.first d) trust body { declared } .empty =
    (traces facts trust body { declared } .empty).filter fun trace =>
      !trace.1.any fun place => decide (d ≤ place) := by
  have nodup {l : List (List Nat × Match)} (h : l.Pairwise (·.1 < ·.1)) : l.Nodup :=
    List.Pairwise.imp (fun {a b} less (same : a = b) => List.lt_irrefl b.1 (same ▸ less)) h
  have first := traces_increasing (facts.first d) trust body { declared } .empty
  have old := (traces_increasing facts trust body { declared } .empty).filter fun trace =>
    !trace.1.any fun place => decide (d ≤ place)
  refine List.Perm.eq_of_pairwise (fun _ _ _ _ less more => absurd more (List.lt_asymm less))
    first old ((List.perm_ext_iff_of_nodup (nodup first) (nodup old)).2 fun trace => ?_)
  obtain ⟨places, m⟩ := trace
  rw [List.mem_filter, mem_traces_iff, mem_traces_iff]
  simp only [picks_first, exists_and_right]
  simp

theorem matchesOf_never {j : Join} (never : j.deadline = .never) :
    j.matchesOf body declared =
      .ok (((traces j.facts j.trust body { declared } .empty).filter fun trace =>
        j.since.isNone || trace.1.any j.isNew).map (·.2)) := by
  rw [matchesOf, walk_never never, found_eq_traces]
  simp only [Bool.or_false]

/-- The join is a search through all choices of one readable stored fact for each atom. It gives a
match for each choice that makes the atoms the facts, in lexicographic order of the places; with
`since` it gives those that use something new, which with those among the older facts are all; and
the search that ends early tells whether there are any. -/
theorem matchesOf_eq_choices (facts : FactSet) (trust : Trust) (body : List (Atom Nat))
    (declared : List Nat) :
    ∃ choices : List (List Nat × Match),
      (∀ places m, (places, m) ∈ choices ↔
        ∃ entries, Picks facts trust body declared places entries m) ∧
      choices.Pairwise (·.1 < ·.1) ∧
      ({ facts, trust } : Join).matchesOf body declared = .ok (choices.map (·.2)) ∧
      ((∃ v ∈ declared, v ∉ body.flatMap Atom.vars) → choices = []) ∧
      (∀ d, ({ facts, trust, since := some d } : Join).matchesOf body declared =
        .ok ((choices.filter fun choice =>
          choice.1.any fun place => decide (d ≤ place)).map (·.2))) ∧
      (∀ d, ∃ old new,
        ({ facts := facts.first d, trust } : Join).matchesOf body declared = .ok old ∧
        ({ facts, trust, since := some d } : Join).matchesOf body declared = .ok new ∧
        Interleaves old new (choices.map (·.2))) ∧
      (∀ since, ∃ found,
        ({ facts, trust, since } : Join).matchesOf body declared = .ok found ∧
        ({ facts, trust, since } : Join).finds body declared = .ok (!found.isEmpty)) := by
  have every (facts : FactSet) : ({ facts, trust } : Join).matchesOf body declared =
      .ok ((traces facts trust body { declared } .empty).map (·.2)) := by
    rw [matchesOf_never rfl]
    simp
  have newer (d : Nat) : ({ facts, trust, since := some d } : Join).matchesOf body declared =
      .ok (((traces facts trust body { declared } .empty).filter fun choice =>
        choice.1.any fun place => decide (d ≤ place)).map (·.2)) := by
    rw [matchesOf_never rfl]
    rfl
  refine ⟨traces facts trust body { declared } .empty, fun _ _ => mem_traces_iff,
    traces_increasing .., every facts, ?undeclared, newer, ?split, ?early⟩
  case undeclared =>
    rintro ⟨v, hv, other⟩
    refine List.eq_nil_iff_forall_not_mem.2 fun (places, m) mem => ?_
    obtain ⟨entries, picks⟩ := mem_traces_iff.1 mem
    exact other (picks.declared v hv)
  case split =>
    intro d
    refine ⟨_, _, every _, newer d, ?_⟩
    rw [traces_first]
    exact (Interleaves.filter _ _).map _
  case early =>
    intro since
    refine ⟨_, matchesOf_never rfl, ?_⟩
    rw [finds_eq, matchesOf_never rfl]
    rfl

end Join

end Warrant
