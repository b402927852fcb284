import Warrant.Proofs.Balance
import Warrant.Proofs.Places
import Warrant.Proofs.Provenance
import Warrant.Proofs.Unification
import Warrant.World

/-! What rules find in stored facts.
`Rule.Binds` says that an assignment of exactly the variables of a body makes its atoms a list of
facts. From it come the three things that a list of facts can mean to a rule: the rule accepts it,
concludes a fact from it, or fails on it. The join finds exactly the lists of readable stored facts
with such an assignment (`mem_found_iff`), hence what `apply` derives and what `hasMatch` answers
is told by the stored facts as a set. -/

namespace Warrant

open Provenance

namespace Rule

variable {σ κ : Type}

/-- The values are those of the variables of the body and make its atoms the facts. -/
structure Binds (r : Rule σ κ) (values : σ → Option (Term σ)) (facts : List (Fact σ)) : Prop where
  domain : ∀ v, (values v).isSome ↔ v ∈ r.body.flatMap Atom.vars
  atoms : List.Forall₂ (fun atom fact => atom.under values = some fact) r.body facts

/-- Whether the body matches the facts and every expression is true. -/
def Accepts [Patterns] (symbols : Symbols) (r : Rule Nat Nat) (facts : List (Fact Nat)) : Prop :=
  ∃ b : Binding, r.Binds b.get? facts ∧ Warrant.keeps symbols r.expressions b = .ok true

/-- Whether besides the head has a value for each of its variables and becomes `fact`. -/
def Concludes [Patterns] (symbols : Symbols) (r : Rule Nat Nat) (facts : List (Fact Nat))
    (fact : Fact Nat) :
    Prop :=
  ∃ b : Binding, r.Binds b.get? facts ∧ Warrant.keeps symbols r.expressions b = .ok true ∧
    r.head.under b.get? = some fact

/-- Whether the body matches the facts and an expression is at fault. -/
def Fails [Patterns] (symbols : Symbols) (r : Rule Nat Nat) (facts : List (Fact Nat)) : Prop :=
  ∃ b : Binding, r.Binds b.get? facts ∧ ∃ e, Warrant.keeps symbols r.expressions b = .error e

theorem instantiate?_eq (r : Rule Nat Nat) (b : Binding) :
    r.instantiate? b = r.head.under b.get? := by
  unfold instantiate? Atom.under
  congr 2
  funext t
  cases t <;> rfl

end Rule

def RuleEntry.clause [Patterns] (symbols : Symbols) (e : RuleEntry) : Clause (Fact Nat) :=
  { block := e.block, trust := e.trust, concludes := e.rule.Concludes symbols }

/-- The stored pairs of origin and fact. -/
def FactSet.pairs (s : FactSet) : Set (Origin × Fact Nat) := {p | ⟨p.1, p.2⟩ ∈ s.toList}

def Entry.pair (e : Entry) : Origin × Fact Nat := (e.origin, e.fact)

namespace FactSet

variable {s : FactSet}

theorem mem_pairs {e : Entry} : e.pair ∈ s.pairs ↔ e ∈ s.toList := Iff.rfl

theorem get?_eq_some_mem {place : Nat} {e : Entry} (h : s.get? place = some e) : e.pair ∈ s.pairs :=
  mem_pairs.2 (List.mem_of_getElem? (i := place) (by simpa [get?, toList] using h))

theorem exists_place {p : Origin × Fact Nat} (h : p ∈ s.pairs) :
    ∃ place e, s.get? place = some e ∧ e.pair = p := by
  obtain ⟨place, found⟩ := List.mem_iff_getElem?.1 (h : (⟨p.1, p.2⟩ : Entry) ∈ s.toList)
  exact ⟨place, _, by simpa [get?, toList] using found, rfl⟩

end FactSet

section Congr

variable [Patterns] {b c : Binding}

/-- What a program does depends on the values alone, not on how they are kept. -/
theorem Op.run_congr (h : b.get? = c.get?) (op : Op Nat) (stack : List (Term Nat)) :
    op.run b stack = op.run c stack := by
  unfold Op.run
  rw [h]

theorem holdsAll_congr (h : b.get? = c.get?) (expressions : List (Expression Nat)) (s : Scratch) :
    holdsAll b expressions s = holdsAll c expressions s := by
  have same (e : Expression Nat) : e.evaluate b = e.evaluate c := by
    simp only [Expression.evaluate, Op.run_congr h]
  induction expressions generalizing s with
  | nil => rfl
  | cons e rest ih => simp only [holdsAll, same, ih]

theorem keeps_congr (h : b.get? = c.get?) (symbols : Symbols)
    (expressions : List (Expression Nat)) :
    keeps symbols expressions b = keeps symbols expressions c :=
  holdsAll_congr h expressions _

end Congr

namespace Join

/-- The matches that `walk` finds when no deadline ends it. -/
def found (j : Join) : List (Atom Nat) → Assignment → Origin → (used : Bool) → List Match
  | [], a, origin, used =>
    if j.since.isSome && !used then []
    else (a.complete?.map fun binding => ⟨origin, binding⟩).toList
  | atom :: rest, a, origin, used =>
    (j.facts.candidates atom j.trust).flatMap fun (place, entry) =>
      match unify atom entry.fact a with
      | some a => found j rest a (origin.union entry.origin) (used || j.isNew place)
      | none => []

theorem mapM_eq_ok {α β ε : Type} {f : α → Except ε β} {g : α → β} {l : List α}
    (h : ∀ a ∈ l, f a = .ok (g a)) : l.mapM f = .ok (l.map g) := by
  induction l with
  | nil => rfl
  | cons a rest ih =>
    rw [List.mapM_cons, h a (List.mem_cons_self ..), ih fun b hb => h b (List.mem_cons_of_mem _ hb)]
    rfl

theorem walk_never {j : Join} (h : j.deadline = .never) (atoms : List (Atom Nat)) (a : Assignment)
    (origin : Origin) (used : Bool) :
    j.walk atoms a origin used = .ok (j.found atoms a origin used) := by
  induction atoms generalizing a origin used with
  | nil =>
    simp only [walk, found]
    split <;> rfl
  | cons atom rest ih =>
    rw [walk, mapM_eq_ok (g := fun (place, entry) =>
      match unify atom entry.fact a with
      | some a => j.found rest a (origin.union entry.origin) (used || j.isNew place)
      | none => [])]
    · rfl
    · rintro ⟨place, entry⟩ -
      simp only [h]
      cases unify atom entry.fact a with
      | none => rfl
      | some a => exact ih ..

/-- Whether these are stored and readable. -/
def Takes (j : Join) (taken : List (Nat × Entry)) : Prop :=
  ∀ p ∈ taken, j.facts.get? p.1 = some p.2 ∧ j.trust.reads p.2.origin

/-- Whether one of the facts taken is new, if that is asked. -/
def Fresh (j : Join) (used : Bool) (taken : List (Nat × Entry)) : Prop :=
  j.since = none ∨ used = true ∨ ∃ p ∈ taken, j.isNew p.1 = true

/-- What a match tells of the entries it comes from. -/
structure Comes (j : Join) (atoms : List (Atom Nat)) (a : Assignment) (used : Bool)
    (values : Nat → Option (Term Nat)) (taken : List (Nat × Entry)) : Prop where
  takes : j.Takes taken
  fresh : j.Fresh used taken
  made : List.Forall₂ (fun atom p => atom.under values = some p.2.fact) atoms taken
  agrees : ∀ v x, a.get? v = some x → values v = some x
  domain : ∀ v, (values v).isSome ↔ (a.get? v).isSome ∨ v ∈ atoms.flatMap Atom.vars
  declared : ∀ v ∈ a.declared, (values v).isSome

/-- The pairs of origin and fact that were taken. -/
def pairs (taken : List (Nat × Entry)) : List (Origin × Fact Nat) := taken.map (·.2.pair)

/-- The origin of a match, which starts from `origin`. -/
def origins (origin : Origin) (taken : List (Nat × Entry)) : Origin :=
  (pairs taken).foldl (fun (origin : Origin) u => origin.union u.1) origin

variable {j : Join} {atoms : List (Atom Nat)} {a : Assignment} {origin : Origin} {used : Bool}

theorem complete?_eq_some_iff {b : Binding} :
    a.complete? = some b ↔ (∀ v ∈ a.declared, (a.get? v).isSome) ∧ a.bound = b := by
  simp [Assignment.complete?]

/-- What is left to the other atoms once the first has taken an entry. -/
theorem comes_cons_iff {atom : Atom Nat} {values : Nat → Option (Term Nat)} {place : Nat}
    {entry : Entry} {rest : List (Nat × Entry)} {b : Assignment}
    (unified : unify atom entry.fact a = some b) (stored : j.facts.get? place = some entry)
    (readable : j.trust.reads entry.origin) :
    j.Comes (atom :: atoms) a used values ((place, entry) :: rest) ↔
      j.Comes atoms b (used || j.isNew place) values rest := by
  have fresh : j.Fresh used ((place, entry) :: rest) ↔
      j.Fresh (used || j.isNew place) rest := by
    simp only [Fresh, List.mem_cons, exists_eq_or_imp, Bool.or_eq_true]
    tauto
  have bound (v : Nat) : (b.get? v).isSome ∨ v ∈ atoms.flatMap Atom.vars ↔
      (a.get? v).isSome ∨ v ∈ (atom :: atoms).flatMap Atom.vars := by
    rw [isSome_get?_unify unified, List.flatMap_cons, List.mem_append, or_assoc]
  constructor
  · intro h
    obtain ⟨made, others⟩ := List.forall₂_cons.1 h.made
    refine ⟨fun p hp => h.takes p (List.mem_cons_of_mem _ hp), fresh.1 h.fresh, others,
      fun v x found => ?_, fun v => (h.domain v).trans (bound v).symm,
      unify_declared unified ▸ h.declared⟩
    rcases (get?_unify unified v x).1 found with old | mem
    · exact h.agrees v x old
    · exact (Atom.under_eq_some_iff_fits.1 made).2 v x mem
  · intro h
    have made := Atom.under_mono h.agrees (under_unify unified)
    refine ⟨List.forall_mem_cons.2 ⟨⟨stored, readable⟩, h.takes⟩, fresh.2 h.fresh,
      .cons made h.made, fun v x old => h.agrees v x ((get?_unify unified v x).2 (.inl old)),
      fun v => (h.domain v).trans (bound v), unify_declared unified ▸ h.declared⟩

theorem found_sound {m : Match} (h : m ∈ j.found atoms a origin used) :
    ∃ taken, j.Comes atoms a used m.binding.get? taken ∧
      m.origin = origins origin taken := by
  induction atoms generalizing a origin used with
  | nil =>
    simp only [found] at h
    split at h
    · cases h
    · rename_i fresh
      simp only [Option.mem_toList, Option.map_eq_some_iff, complete?_eq_some_iff] at h
      obtain ⟨b, ⟨declared, rfl⟩, rfl⟩ := h
      refine ⟨[], ⟨nofun, ?_, .nil, fun _ _ => id, by simp [Assignment.get?], declared⟩, rfl⟩
      cases since : j.since <;> simp_all [Fresh]
  | cons atom rest ih =>
    simp only [found, List.mem_flatMap] at h
    obtain ⟨⟨place, entry⟩, candidate, h⟩ := h
    obtain ⟨stored, -, readable⟩ := FactSet.mem_candidates.1 candidate
    split at h
    · rename_i b unified
      obtain ⟨taken, comes, same⟩ := ih h
      exact ⟨(place, entry) :: taken, (comes_cons_iff unified stored readable).2 comes, same⟩
    · cases h

theorem found_complete {values : Nat → Option (Term Nat)} {taken : List (Nat × Entry)}
    (h : j.Comes atoms a used values taken) :
    ∃ m ∈ j.found atoms a origin used, m.binding.get? = values ∧
      m.origin = origins origin taken := by
  induction atoms generalizing a origin used taken with
  | nil =>
    cases List.forall₂_nil_left_iff.1 h.made
    have same : a.get? = values := by
      funext v
      cases bound : a.get? v with
      | some x => exact (h.agrees v x bound).symm
      | none =>
        have := h.domain v
        simp_all
    have complete : a.complete? = some a.bound :=
      complete?_eq_some_iff.2 ⟨fun v hv => same ▸ h.declared v hv, rfl⟩
    refine ⟨⟨origin, a.bound⟩, ?_, same, rfl⟩
    have fresh := h.fresh
    simp only [Fresh, List.not_mem_nil, false_and, exists_false, or_false] at fresh
    simp only [found, complete]
    rw [if_neg]
    · simp
    · rcases fresh with none | used <;> simp [*]
  | cons atom rest ih =>
    obtain ⟨⟨place, entry⟩, others, made, -, rfl⟩ := List.forall₂_cons_left_iff.1 h.made
    obtain ⟨stored, readable⟩ := h.takes (place, entry) (List.mem_cons_self ..)
    obtain ⟨b, unified, -⟩ := exists_unify h.agrees made
    obtain ⟨m, mem, values, same⟩ := ih ((comes_cons_iff unified stored readable).1 h)
    refine ⟨m, ?_, values, same⟩
    have shape : entry.fact.shape = atom.shape := by
      have fits := Atom.shape_of_fits (Atom.under_eq_some_iff_fits.1 made).1
      exact congrArg₂ Shape.mk fits.1.symm fits.2.symm
    simp only [found, List.mem_flatMap]
    exact ⟨(place, entry), FactSet.mem_candidates.2 ⟨stored, shape, readable⟩, by simpa [unified]⟩

theorem mayUse_of_takes {taken : List (Nat × Entry)} (h : j.Takes taken) :
    MayUse j.trust j.facts.pairs (Join.pairs taken) := by
  rintro u hu
  obtain ⟨p, hp, rfl⟩ := List.mem_map.1 hu
  exact ⟨FactSet.get?_eq_some_mem (h p hp).1, (h p hp).2⟩

theorem exists_takes {uses : List (Origin × Fact Nat)} (h : MayUse j.trust j.facts.pairs uses) :
    ∃ taken, j.Takes taken ∧ Join.pairs taken = uses := by
  induction uses with
  | nil => exact ⟨[], nofun, rfl⟩
  | cons u rest ih =>
    obtain ⟨known, readable⟩ := h u (List.mem_cons_self ..)
    obtain ⟨place, entry, stored, rfl⟩ := FactSet.exists_place known
    obtain ⟨taken, takes, rfl⟩ := ih fun v hv => h v (List.mem_cons_of_mem _ hv)
    exact ⟨(place, entry) :: taken, List.forall_mem_cons.2 ⟨⟨stored, readable⟩, takes⟩, rfl⟩

end Join

namespace Rule

variable {r : Rule Nat Nat} {j : Join} {symbols : Symbols}

theorem candidates_never (h : j.deadline = .never) :
    r.candidates j = .ok (j.found r.body { declared := bodyVars r.body } .empty false) := by
  rw [candidates, Join.matchesOf, Join.walk_never h]
  rfl

/-- From the start of a body on, a match comes from facts that the body binds. -/
theorem comes_iff_binds {values : Nat → Option (Term Nat)} {taken : List (Nat × Entry)} :
    j.Comes r.body { declared := bodyVars r.body } false values taken ↔
      j.Takes taken ∧ j.Fresh false taken ∧ r.Binds values ((Join.pairs taken).map (·.2)) := by
  have free (v : Nat) : ({ declared := bodyVars r.body } : Assignment).get? v = none := rfl
  have made : List.Forall₂ (fun atom p => atom.under values = some p.2.fact) r.body taken ↔
      List.Forall₂ (fun atom fact => atom.under values = some fact) r.body
        ((Join.pairs taken).map (·.2)) := by
    simp only [Join.pairs, List.map_map, List.forall₂_map_right_iff]
    rfl
  constructor
  · intro h
    exact ⟨h.takes, h.fresh, fun v => by simpa [free] using h.domain v, made.1 h.made⟩
  · rintro ⟨takes, fresh, binds⟩
    refine ⟨takes, fresh, made.2 binds.atoms, by simp [free], fun v => by
      simpa [free] using binds.domain v, fun v hv => (binds.domain v).2 ?_⟩
    simpa [bodyVars] using hv

open Classical in
/-- A walk that no error ends keeps the elements that pass, in their order. -/
theorem allKept_eq_ok_iff {α ε : Type} {keep : α → Except ε Bool} {l kept : List α} :
    allKept keep l = .ok kept ↔
      (∀ a ∈ l, ∃ b, keep a = .ok b) ∧ kept = l.filter fun a => keep a = .ok true := by
  induction l generalizing kept with
  | nil => simp [allKept, eq_comm]
  | cons a rest ih =>
    simp only [allKept]
    cases first : keep a with
    | error e =>
      constructor
      · intro h
        cases h
      · intro h
        obtain ⟨b, same⟩ := h.1 a (List.mem_cons_self ..)
        cases first.symm.trans same
    | ok b =>
      cases later : allKept keep rest with
      | error e =>
        constructor
        · intro h
          cases h
        · intro h
          have rest := ih.2 ⟨fun c hc => h.1 c (List.mem_cons_of_mem _ hc), rfl⟩
          cases later.symm.trans rest
      | ok others =>
        obtain ⟨total, rfl⟩ := ih.1 later
        have step : (a :: rest).filter (fun a => keep a = .ok true) =
            if b then a :: rest.filter (fun a => keep a = .ok true)
            else rest.filter fun a => keep a = .ok true := by
          rw [List.filter_cons, first]
          simp
        rw [step]
        constructor
        · intro h
          exact ⟨List.forall_mem_cons.2 ⟨⟨b, first⟩, total⟩, (Except.ok.inj h).symm⟩
        · rintro ⟨-, rfl⟩
          rfl

theorem mem_allKept {α ε : Type} {keep : α → Except ε Bool} {l kept : List α}
    (h : allKept keep l = .ok kept) {a : α} : a ∈ kept ↔ a ∈ l ∧ keep a = .ok true := by
  simp only [(allKept_eq_ok_iff.1 h).2, List.mem_filter, decide_eq_true_eq]

theorem allKept_error {α ε : Type} {keep : α → Except ε Bool} {l : List α} {e : ε}
    (h : allKept keep l = .error e) : ∃ a ∈ l, keep a = .error e := by
  induction l with
  | nil => cases h
  | cons a rest ih =>
    simp only [allKept] at h
    cases first : keep a with
    | error d =>
      rw [first] at h
      cases h
      exact ⟨a, List.mem_cons_self .., first⟩
    | ok b =>
      cases later : allKept keep rest with
      | error d =>
        rw [first, later] at h
        cases h
        obtain ⟨c, hc, fault⟩ := ih later
        exact ⟨c, List.mem_cons_of_mem _ hc, fault⟩
      | ok others =>
        rw [first, later] at h
        cases h

/-- What a search that ends early has seen. -/
theorem firstKept_cases {α ε : Type} (keep : α → Except ε Bool) (l : List α) :
    (firstKept keep l = .ok true ∧ ∃ a ∈ l, keep a = .ok true) ∨
    (firstKept keep l = .ok false ∧ ∀ a ∈ l, keep a = .ok false) ∨
    (∃ e, firstKept keep l = .error e ∧ ∃ a ∈ l, keep a = .error e) := by
  induction l with
  | nil => exact .inr (.inl ⟨rfl, nofun⟩)
  | cons a rest ih =>
    simp only [firstKept]
    cases first : keep a with
    | error e => exact .inr (.inr ⟨e, rfl, a, List.mem_cons_self .., first⟩)
    | ok b =>
      cases b with
      | true => exact .inl ⟨rfl, a, List.mem_cons_self .., first⟩
      | false =>
        rcases ih with ⟨found, b, hb, kept⟩ | ⟨found, all⟩ | ⟨e, found, b, hb, fault⟩
        · exact .inl ⟨found, b, List.mem_cons_of_mem _ hb, kept⟩
        · exact .inr (.inl ⟨found, List.forall_mem_cons.2 ⟨first, all⟩⟩)
        · exact .inr (.inr ⟨e, found, b, List.mem_cons_of_mem _ hb, fault⟩)

theorem mapError_eq_ok_iff {ε δ α : Type} {f : ε → δ} {x : Except ε α} {a : α} :
    x.mapError f = .ok a ↔ x = .ok a := by
  cases x <;> simp [Except.mapError]

theorem mapError_eq_error_iff {ε δ α : Type} {f : ε → δ} {x : Except ε α} {d : δ} :
    x.mapError f = .error d ↔ ∃ e, x = .error e ∧ f e = d := by
  cases x <;> simp [Except.mapError]

/-- A match of the body comes from facts that it binds, -/
theorem binds_of_found {m : Match}
    (h : m ∈ j.found r.body { declared := bodyVars r.body } .empty false) :
    ∃ taken, j.Takes taken ∧ j.Fresh false taken ∧
      r.Binds m.binding.get? ((Join.pairs taken).map (·.2)) ∧
      m.origin = Join.origins .empty taken := by
  obtain ⟨taken, comes, same⟩ := Join.found_sound h
  obtain ⟨takes, fresh, binds⟩ := comes_iff_binds.1 comes
  exact ⟨taken, takes, fresh, binds, same⟩

/-- and every such list of facts gives one. -/
theorem found_of_binds {b : Binding} {taken : List (Nat × Entry)} (takes : j.Takes taken)
    (fresh : j.Fresh false taken) (binds : r.Binds b.get? ((Join.pairs taken).map (·.2))) :
    ∃ m ∈ j.found r.body { declared := bodyVars r.body } .empty false, m.binding.get? = b.get? ∧
      m.origin = Join.origins .empty taken :=
  Join.found_complete (comes_iff_binds.2 ⟨takes, fresh, binds⟩)

variable [Patterns]

theorem apply_never (h : j.deadline = .never) (block : BlockId) : r.apply block symbols j =
    (allKept (r.keeps symbols) (j.found r.body { declared := bodyVars r.body } .empty false)).map
      (·.filterMap (r.derive? block)) := by
  rw [apply, candidates_never h]
  rfl

theorem apply_eq_ok {block : BlockId} {derived : List Entry} (never : j.deadline = .never)
    (h : r.apply block symbols j = .ok derived) : ∃ kept, allKept (r.keeps symbols)
      (j.found r.body { declared := bodyVars r.body } .empty false) = .ok kept ∧
      derived = kept.filterMap (r.derive? block) := by
  rw [apply_never never] at h
  cases all : allKept (r.keeps symbols)
      (j.found r.body { declared := bodyVars r.body } .empty false) with
  | error _ =>
    rw [all] at h
    cases h
  | ok kept =>
    rw [all] at h
    cases h
    exact ⟨kept, rfl, rfl⟩

/-- What a rule derives is what it concludes from readable facts of which one is new. -/
theorem mem_apply {block : BlockId} {derived : List Entry} (never : j.deadline = .never)
    (h : r.apply block symbols j = .ok derived) {e : Entry} :
    e ∈ derived ↔ ∃ taken, j.Takes taken ∧ j.Fresh false taken ∧
      r.Concludes symbols ((Join.pairs taken).map (·.2)) e.fact ∧
      e.origin = (Join.origins .empty taken).insert block := by
  obtain ⟨kept, all, rfl⟩ := apply_eq_ok never h
  simp only [List.mem_filterMap, derive?, instantiate?_eq, Option.map_eq_some_iff]
  constructor
  · rintro ⟨m, hm, fact, head, rfl⟩
    obtain ⟨found, keep⟩ := (mem_allKept all).1 hm
    obtain ⟨taken, takes, fresh, binds, same⟩ := binds_of_found found
    exact ⟨taken, takes, fresh, ⟨m.binding, binds, mapError_eq_ok_iff.1 keep, head⟩,
      congrArg (·.insert block) same⟩
  · rintro ⟨taken, takes, fresh, ⟨b, binds, keep, head⟩, same⟩
    obtain ⟨m, found, values, origin⟩ := found_of_binds takes fresh binds
    refine ⟨m, (mem_allKept all).2 ⟨found, mapError_eq_ok_iff.2 ?_⟩, e.fact, values ▸ head, ?_⟩
    · rw [keeps_congr values]
      exact keep
    · rw [origin, ← same]

/-- A rule that derives something fails on no readable facts of which one is new. -/
theorem not_fails_of_apply {block : BlockId} {derived : List Entry} (never : j.deadline = .never)
    (h : r.apply block symbols j = .ok derived) {taken : List (Nat × Entry)}
    (takes : j.Takes taken) (fresh : j.Fresh false taken) :
    ¬ r.Fails symbols ((Join.pairs taken).map (·.2)) := by
  intro ⟨b, binds, e, fault⟩
  obtain ⟨kept, all, -⟩ := apply_eq_ok never h
  obtain ⟨m, found, values, -⟩ := found_of_binds takes fresh binds
  obtain ⟨answer, keep⟩ := (allKept_eq_ok_iff.1 all).1 m found
  have keep := mapError_eq_ok_iff.1 keep
  rw [keeps_congr values, fault] at keep
  cases keep

theorem fails_of_apply {block : BlockId} {error : EvaluationError} (never : j.deadline = .never)
    (h : r.apply block symbols j = .error error) : error = .execution .invalidStack ∧
      ∃ taken, j.Takes taken ∧ r.Fails symbols ((Join.pairs taken).map (·.2)) := by
  rw [apply_never never] at h
  cases all : allKept (r.keeps symbols)
      (j.found r.body { declared := bodyVars r.body } .empty false) with
  | ok _ =>
    rw [all] at h
    cases h
  | error _ =>
    rw [all] at h
    cases h
    obtain ⟨m, found, fault⟩ := allKept_error all
    obtain ⟨e, blame, rfl⟩ := mapError_eq_error_iff.1 fault
    obtain ⟨taken, takes, -, binds, -⟩ := binds_of_found found
    exact ⟨congrArg _ (fault_of_holdsAll blame).1, taken, takes, m.binding, binds, e, blame⟩

end Rule

variable [Patterns]

/-- The answer to a yes-or-no question which may turn out to be at fault. -/
noncomputable def ask (accepted failed : Prop) : Except EvaluationError Bool :=
  open Classical in
  if accepted then .ok true else if failed then .error (.execution .invalidStack) else .ok false

section Questions

variable {r : Rule Nat Nat} {trust : Trust} {symbols : Symbols} {facts : FactSet}

/-- The answers of the expressions to matches are those to readable facts. -/
theorem Rule.exists_found_iff (answer : Except ExpressionError Bool → Prop) :
    (∃ m ∈ ({ facts, trust, deadline := .never } : Join).found r.body
        { declared := bodyVars r.body } .empty false,
      answer (Warrant.keeps symbols r.expressions m.binding)) ↔
    ∃ used, MayUse trust facts.pairs used ∧ ∃ b : Binding,
      r.Binds b.get? (used.map (·.2)) ∧ answer (Warrant.keeps symbols r.expressions b) := by
  constructor
  · intro ⟨m, found, answers⟩
    obtain ⟨taken, takes, -, binds, -⟩ := binds_of_found found
    exact ⟨_, Join.mayUse_of_takes takes, m.binding, binds, answers⟩
  · intro ⟨used, may, b, binds, answers⟩
    let j : Join := { facts, trust, deadline := .never }
    obtain ⟨taken, takes, rfl⟩ := Join.exists_takes (j := j) may
    obtain ⟨m, found, values, -⟩ := found_of_binds takes (.inl rfl) binds
    refine ⟨m, found, ?_⟩
    rw [keeps_congr values]
    exact answers

/-- Whether a rule matches is told by the set of stored facts, whatever their order. -/
theorem World.hasMatch_eq_ask (w : World) (r : Rule Nat Nat) (trust : Trust) (symbols : Symbols) :
    w.hasMatch r trust symbols .never =
      ask (∃ used, MayUse trust w.facts.pairs used ∧ r.Accepts symbols (used.map (·.2)))
        (∃ used, MayUse trust w.facts.pairs used ∧ r.Fails symbols (used.map (·.2))) := by
  have accepts : _ ↔ ∃ used, MayUse trust w.facts.pairs used ∧ r.Accepts symbols (used.map (·.2)) :=
    Rule.exists_found_iff (· = .ok true)
  have fails : _ ↔ ∃ used, MayUse trust w.facts.pairs used ∧ r.Fails symbols (used.map (·.2)) :=
    Rule.exists_found_iff fun x => ∃ e, x = .error e
  rw [← accepts, ← fails, World.hasMatch, Rule.hasMatch, Rule.candidates_never rfl]
  change Rule.firstKept _ _ = _
  rcases Rule.firstKept_cases (r.keeps symbols) _ with
    ⟨result, m, found, keep⟩ | ⟨result, all⟩ | ⟨e, result, m, found, fault⟩
  · rw [result, ask, if_pos ⟨m, found, Rule.mapError_eq_ok_iff.1 keep⟩]
  · have reject (m : Match) (found : m ∈ Join.found _ r.body _ _ _) :
        Warrant.keeps symbols r.expressions m.binding = .ok false :=
      Rule.mapError_eq_ok_iff.1 (all m found)
    rw [result, ask, if_neg, if_neg]
    · intro ⟨m, found, e, fault⟩
      cases (reject m found).symm.trans fault
    · intro ⟨m, found, keep⟩
      cases (reject m found).symm.trans keep
  · obtain ⟨fatal, blame, rfl⟩ := Rule.mapError_eq_error_iff.1 fault
    rw [result, ask, if_neg, if_pos ⟨m, found, fatal, blame⟩, (fault_of_holdsAll blame).1]
    intro ⟨other, _, keep⟩
    exact keeps_ne_error keep blame

end Questions

/-- Whether there is a known fact to be compared with the first atom of the body. -/
def Rule.Looks (r : Rule Nat Nat) (trust : Trust) (known : Set (Origin × Fact Nat)) : Prop :=
  ∃ atom ∈ r.body.head?, ∃ p ∈ known, p.2.shape = atom.shape ∧ trust.reads p.1

open Classical in
/-- A deadline that has passed ends the search at the first fact that it would look at; without
such a fact it makes no difference. -/
theorem World.hasMatch_passed (w : World) (r : Rule Nat Nat) (trust : Trust) (symbols : Symbols) :
    w.hasMatch r trust symbols .passed =
      if r.Looks trust w.facts.pairs then .error (.limit .timeout)
      else w.hasMatch r trust symbols .never := by
  unfold World.hasMatch Rule.hasMatch Rule.candidates Join.matchesOf Rule.Looks
  cases r.body with
  | nil =>
    rw [if_neg (by simp)]
    rfl
  | cons atom rest =>
    simp only [Join.walk]
    cases found : w.facts.candidates atom trust with
    | nil =>
      rw [if_neg]
      · rfl
      · rintro ⟨_, ⟨⟩, p, hp, shape, readable⟩
        obtain ⟨place, e, stored, rfl⟩ := FactSet.exists_place hp
        have candidate := FactSet.mem_candidates.2 ⟨stored, shape, readable⟩
        rw [found] at candidate
        cases candidate
    | cons first others =>
      obtain ⟨place, e⟩ := first
      have candidate : (place, e) ∈ w.facts.candidates atom trust := by
        rw [found]
        exact List.mem_cons_self ..
      obtain ⟨stored, shape, readable⟩ := FactSet.mem_candidates.1 candidate
      rw [if_pos]
      · rfl
      · exact ⟨atom, rfl, e.pair, FactSet.get?_eq_some_mem stored, shape, readable⟩

end Warrant
