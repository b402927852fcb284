import Mathlib.Data.Set.Card
import Warrant.Proofs.Matching

/-! What a run computes.
Pass by pass the stored pairs go through the stages of what the rules derive from the pairs at the
start: the restriction of later passes to what uses something new loses nothing, since whatever
uses old facts only has been derived before. `World.run_ends` lists the ways in which a run ends
and says which stage is stored then. A run that converges has stored the least set that is closed
under the rules; one that is ended by a limit or a fault has stored a stage on the way there. -/

namespace Warrant

open Provenance

/-! The store as a set of pairs. -/

namespace FactSet

variable {s : FactSet} {l : List Entry}

theorem mem_toList_insert {e d : Entry} :
    d ∈ (s.insert e).toList ↔ d ∈ s.toList ∨ d = e := by
  rw [toList_insert]
  split
  · rename_i known
    have stored : e ∈ s.toList := by simpa [toList] using contains_iff.1 known
    constructor
    · exact .inl
    · rintro (h | rfl)
      · exact h
      · exact stored
  · simp

theorem mem_pairs_insert {e : Entry} {p : Origin × Fact Nat} :
    p ∈ (s.insert e).pairs ↔ p ∈ s.pairs ∨ e.pair = p := by
  obtain ⟨origin, fact⟩ := p
  obtain ⟨o, f⟩ := e
  change ⟨origin, fact⟩ ∈ (s.insert ⟨o, f⟩).toList ↔ _ ∈ s.toList ∨ (o, f) = (origin, fact)
  rw [mem_toList_insert, Entry.mk.injEq, Prod.mk.injEq, eq_comm, eq_comm (a := fact)]

theorem pairs_insertAll : (s.insertAll l).pairs = s.pairs ∪ {p | ∃ e ∈ l, e.pair = p} := by
  induction l generalizing s with
  | nil => simp [insertAll]
  | cons e rest ih =>
    change ((s.insert e).insertAll rest).pairs = _
    ext p
    rw [ih, Set.mem_union, mem_pairs_insert, or_assoc, Set.mem_union]
    simp

/-- What is stored is not moved. -/
theorem prefix_insertAll : s.toList <+: (s.insertAll l).toList := by
  induction l generalizing s with
  | nil => exact List.prefix_rfl
  | cons e rest ih =>
    refine List.IsPrefix.trans ?_ (ih (s := s.insert e))
    rw [toList_insert]
    split
    · exact List.prefix_rfl
    · exact List.prefix_append ..

theorem pairs_finite (s : FactSet) : s.pairs.Finite := by
  refine (s.toList.toFinset.finite_toSet.image Entry.pair).subset fun p h => ?_
  exact ⟨⟨p.1, p.2⟩, by simpa using mem_pairs.1 h, rfl⟩

theorem ncard_pairs (s : FactSet) : s.pairs.ncard = s.size := by
  have image : s.pairs = Entry.pair '' (s.toList.toFinset : Set Entry) := by
    ext p
    constructor
    · exact fun h => ⟨⟨p.1, p.2⟩, by simpa using mem_pairs.1 h, rfl⟩
    · rintro ⟨e, he, rfl⟩
      exact mem_pairs.2 (by simpa using he)
  have injective : Function.Injective Entry.pair := by
    rintro ⟨o, f⟩ ⟨p, g⟩ same
    cases same
    rfl
  rw [image, Set.ncard_image_of_injective _ injective, Set.ncard_coe_finset,
    List.toFinset_card_of_nodup (l := s.toList) s.nodup, length_toList]

/-- The pairs stored before a place. -/
def before (s : FactSet) (place : Nat) : Set (Origin × Fact Nat) :=
  {p | ∃ i < place, s.get? i = some ⟨p.1, p.2⟩}

theorem before_insertAll : (s.insertAll l).before s.size = s.pairs := by
  obtain ⟨later, same⟩ := prefix_insertAll (s := s) (l := l)
  have stored {i : Nat} (h : i < s.size) : (s.insertAll l).get? i = s.toList[i]? := by
    have : (s.insertAll l).get? i = (s.insertAll l).toList[i]? := by simp [get?, toList]
    rw [this, ← same, List.getElem?_append_left (by rwa [length_toList])]
  ext p
  constructor
  · rintro ⟨i, h, found⟩
    rw [stored h] at found
    exact List.mem_of_getElem? found
  · intro h
    obtain ⟨i, found⟩ := List.mem_iff_getElem?.1 (h : (⟨p.1, p.2⟩ : Entry) ∈ s.toList)
    have bound : i < s.size := by
      rw [← length_toList]
      exact (List.getElem?_eq_some_iff.1 found).1
    exact ⟨i, bound, (stored bound).trans found⟩

end FactSet

/-! One pass. -/

section Lists

variable {α β ε : Type} {f : α → Except ε β} {l : List α}

theorem mem_of_mapM_eq_ok {out : List β} (h : l.mapM f = .ok out) :
    (∀ a ∈ l, ∃ b ∈ out, f a = .ok b) ∧ ∀ b ∈ out, ∃ a ∈ l, f a = .ok b := by
  induction l generalizing out with
  | nil =>
    cases h
    simp
  | cons a rest ih =>
    rw [List.mapM_cons] at h
    cases first : f a with
    | error e =>
      rw [first] at h
      cases h
    | ok b =>
      cases later : rest.mapM f with
      | error e =>
        rw [first, later] at h
        cases h
      | ok others =>
        rw [first, later] at h
        cases h
        obtain ⟨there, back⟩ := ih later
        refine ⟨List.forall_mem_cons.2 ⟨⟨b, List.mem_cons_self .., first⟩, fun c hc => ?_⟩,
          List.forall_mem_cons.2 ⟨⟨a, List.mem_cons_self .., first⟩, fun c hc => ?_⟩⟩
        · obtain ⟨d, hd, same⟩ := there c hc
          exact ⟨d, List.mem_cons_of_mem _ hd, same⟩
        · obtain ⟨d, hd, same⟩ := back c hc
          exact ⟨d, List.mem_cons_of_mem _ hd, same⟩

theorem exists_of_mapM_eq_error {e : ε} (h : l.mapM f = .error e) : ∃ a ∈ l, f a = .error e := by
  induction l with
  | nil => cases h
  | cons a rest ih =>
    rw [List.mapM_cons] at h
    cases first : f a with
    | error d =>
      rw [first] at h
      cases h
      exact ⟨a, List.mem_cons_self .., first⟩
    | ok b =>
      cases later : rest.mapM f with
      | error d =>
        rw [first, later] at h
        cases h
        obtain ⟨c, hc, fault⟩ := ih later
        exact ⟨c, List.mem_cons_of_mem _ hc, fault⟩
      | ok others =>
        rw [first, later] at h
        cases h

end Lists

namespace World

/-- The rules of a world as clauses. -/
def clauses [Patterns] (symbols : Symbols) (w : World) : Set (Clause (Fact Nat)) :=
  {c | ∃ e ∈ w.rules, e.clause symbols = c}

/-- Whether some rule has an expression at fault on known facts that it may read. -/
def Faulty [Patterns] (symbols : Symbols) (w : World) (known : Set (Origin × Fact Nat)) : Prop :=
  ∃ e ∈ w.rules, ∃ used, MayUse e.trust known used ∧ e.rule.Fails symbols (used.map (·.2))

/-- What a pass asks of a rule. -/
def joinFor (w : World) (since : Option Nat) (e : RuleEntry) : Join :=
  { facts := w.facts, trust := e.trust, since }

variable {w : World} {symbols : Symbols} {since : Option Nat} {derived : List Entry}

theorem pass_eq_ok [Patterns] (h : w.pass symbols since .never = .ok derived) : ∃ lists,
    (w.rules.mapM fun e => e.rule.apply e.block symbols (w.joinFor since e)) = .ok lists ∧
      lists.flatten = derived := by
  unfold pass at h
  change ((w.rules.mapM fun e => e.rule.apply e.block symbols (w.joinFor since e)) >>= _) = _ at h
  cases run : (w.rules.mapM fun e => e.rule.apply e.block symbols (w.joinFor since e)) with
  | error e =>
    rw [run] at h
    cases h
  | ok lists =>
    rw [run] at h
    cases h
    exact ⟨lists, rfl, rfl⟩

/-- A pass derives what the rules conclude from stored facts of which one is new. -/
theorem mem_pass [Patterns] (h : w.pass symbols since .never = .ok derived) {d : Entry} :
    d ∈ derived ↔ ∃ e ∈ w.rules, ∃ taken, (w.joinFor since e).Takes taken ∧
      (w.joinFor since e).Fresh false taken ∧
      e.rule.Concludes symbols ((Join.pairs taken).map (·.2)) d.fact ∧
      d.origin = (e.clause symbols).tag (Join.pairs taken) := by
  obtain ⟨lists, run, rfl⟩ := pass_eq_ok h
  obtain ⟨there, back⟩ := mem_of_mapM_eq_ok run
  rw [List.mem_flatten]
  constructor
  · rintro ⟨list, hl, hd⟩
    obtain ⟨e, he, apply⟩ := back list hl
    exact ⟨e, he, (Rule.mem_apply rfl apply).1 hd⟩
  · rintro ⟨e, he, comes⟩
    obtain ⟨list, hl, apply⟩ := there e he
    exact ⟨list, hl, (Rule.mem_apply rfl apply).2 comes⟩

theorem mem_consequences [Patterns] {known : Set (Origin × Fact Nat)} {p : Origin × Fact Nat} :
    p ∈ consequences (w.clauses symbols) known ↔ ∃ e ∈ w.rules, ∃ used, MayUse e.trust known used ∧
      e.rule.Concludes symbols (used.map (·.2)) p.2 ∧ p.1 = (e.clause symbols).tag used := by
  constructor
  · rintro ⟨c, ⟨e, he, rfl⟩, rest⟩
    exact ⟨e, he, rest⟩
  · rintro ⟨e, he, rest⟩
    exact ⟨e.clause symbols, ⟨e, he, rfl⟩, rest⟩

theorem derived_subset [Patterns] (h : w.pass symbols since .never = .ok derived) :
    {p | ∃ d ∈ derived, d.pair = p} ⊆ consequences (w.clauses symbols) w.facts.pairs := by
  rintro p ⟨d, hd, rfl⟩
  obtain ⟨e, he, taken, takes, -, concludes, tag⟩ := (mem_pass h).1 hd
  exact mem_consequences.2 ⟨e, he, _, Join.mayUse_of_takes takes, concludes, tag⟩

/-- Facts that are taken count as new unless they all stand before a place. -/
theorem fresh_or_old {e : RuleEntry} {taken : List (Nat × Entry)}
    (takes : (w.joinFor since e).Takes taken) : (w.joinFor since e).Fresh false taken ∨
      ∃ place, since = some place ∧ MayUse e.trust (w.facts.before place) (Join.pairs taken) := by
  cases since with
  | none => exact .inl (.inl rfl)
  | some place =>
    by_cases new : ∃ p ∈ taken, place ≤ p.1
    · obtain ⟨p, hp, le⟩ := new
      exact .inl (.inr (.inr ⟨p, hp, by simpa [Join.isNew, joinFor] using le⟩))
    · refine .inr ⟨place, rfl, fun u hu => ?_⟩
      obtain ⟨p, hp, rfl⟩ := List.mem_map.1 hu
      have old : p.1 < place := Nat.lt_of_not_le fun le => new ⟨p, hp, le⟩
      exact ⟨⟨p.1, old, (takes p hp).1⟩, (takes p hp).2⟩

/-- The consequences that a pass leaves out have been drawn before. -/
theorem consequences_subset [Patterns] (h : w.pass symbols since .never = .ok derived) :
    consequences (w.clauses symbols) w.facts.pairs ⊆ {p | ∃ d ∈ derived, d.pair = p} ∪
      {p | ∃ place, since = some place ∧
        p ∈ consequences (w.clauses symbols) (w.facts.before place)} := by
  intro p hp
  obtain ⟨e, he, used, may, concludes, tag⟩ := mem_consequences.1 hp
  obtain ⟨taken, takes, rfl⟩ := Join.exists_takes (j := w.joinFor since e) may
  rcases fresh_or_old takes with fresh | ⟨place, same, old⟩
  · exact .inl ⟨⟨p.1, p.2⟩, (mem_pass h).2 ⟨e, he, taken, takes, fresh, concludes, tag⟩, rfl⟩
  · exact .inr ⟨place, same, mem_consequences.2 ⟨e, he, _, old, concludes, tag⟩⟩

theorem faulty_of_pass [Patterns] (h : w.pass symbols since .never = .ok derived)
    (fault : w.Faulty symbols w.facts.pairs) :
    ∃ place, since = some place ∧ w.Faulty symbols (w.facts.before place) := by
  obtain ⟨e, he, used, may, fails⟩ := fault
  obtain ⟨taken, takes, rfl⟩ := Join.exists_takes (j := w.joinFor since e) may
  rcases fresh_or_old takes with fresh | ⟨place, same, old⟩
  · obtain ⟨lists, run, -⟩ := pass_eq_ok h
    obtain ⟨list, -, apply⟩ := (mem_of_mapM_eq_ok run).1 e he
    exact absurd fails (Rule.not_fails_of_apply rfl apply takes fresh)
  · exact ⟨place, same, e, he, _, old, fails⟩

theorem fault_of_pass [Patterns] {error : EvaluationError}
    (h : w.pass symbols since .never = .error error) :
    error = .execution .invalidStack ∧ w.Faulty symbols w.facts.pairs := by
  unfold pass at h
  change ((w.rules.mapM fun e => e.rule.apply e.block symbols (w.joinFor since e)) >>= _) = _ at h
  cases run : (w.rules.mapM fun e => e.rule.apply e.block symbols (w.joinFor since e)) with
  | ok lists =>
    rw [run] at h
    cases h
  | error d =>
    rw [run] at h
    cases h
    obtain ⟨e, he, apply⟩ := exists_of_mapM_eq_error run
    obtain ⟨same, taken, takes, fails⟩ := Rule.fails_of_apply rfl apply
    exact ⟨same, e, he, _, Join.mayUse_of_takes takes, fails⟩

/-! The loop. -/

/-- What the rules of a world derive from its facts in so many steps. -/
def stage [Patterns] (symbols : Symbols) (w : World) (n : Nat) : Set (Origin × Fact Nat) :=
  Provenance.stage (w.clauses symbols) w.facts.pairs n

/-- The least set that holds the facts of a world and is closed under its rules. -/
def least [Patterns] (symbols : Symbols) (w : World) : Set (Origin × Fact Nat) :=
  Provenance.least (w.clauses symbols) w.facts.pairs

/-- A world in which a run from `start` has stored the facts of as many steps as it counts, each
of which found something new and left room for another. -/
structure Reached [Patterns] (start : World) (symbols : Symbols) (limits : RunLimits) (w : World) :
    Prop where
  rules : w.rules = start.rules
  pairs : w.facts.pairs = start.stage symbols w.iterations
  grows : ∀ n < w.iterations, start.stage symbols (n + 1) ≠ start.stage symbols n
  room : ∀ n < w.iterations, (start.stage symbols (n + 1)).ncard ≤ limits.maxFacts ∧
    n + 1 < limits.maxIterations

/-- What stands before the place from which on facts are new: the stage before the last, on which
no rule was at fault. -/
def Past [Patterns] (start : World) (symbols : Symbols) (w : World) : Option Nat → Prop
  | none => w.iterations = 0
  | some place => ∃ n, w.iterations = n + 1 ∧ w.facts.before place = start.stage symbols n ∧
    ¬ start.Faulty symbols (start.stage symbols n)

/-- The ways in which a run ends. -/
inductive Ends [Patterns] (start : World) (symbols : Symbols) (limits : RunLimits)
    (deadline : Deadline) :
    Except EvaluationError Unit × World → Prop where
  | timeout {w : World} (passed : deadline = .passed) (reached : start.Reached symbols limits w) :
    Ends start symbols limits deadline
      (.error (.limit .timeout), { w with phase := .stopped .timeout })
  | fault {w : World} (never : deadline = .never) (reached : start.Reached symbols limits w)
      (faulty : start.Faulty symbols (start.stage symbols w.iterations)) :
    Ends start symbols limits deadline
      (.error (.execution .invalidStack), { w with phase := .idle })
  | converged {w : World} (never : deadline = .never) (reached : start.Reached symbols limits w)
      (sound : ¬ start.Faulty symbols (start.stage symbols w.iterations))
      (fixed : start.stage symbols (w.iterations + 1) = start.stage symbols w.iterations) :
    Ends start symbols limits deadline
      (.ok (), { w with iterations := w.iterations + 1, phase := .converged })
  | tooManyFacts {w : World} (never : deadline = .never) (rules : w.rules = start.rules)
      {n : Nat} (pairs : w.facts.pairs = start.stage symbols (n + 1))
      (grows : start.stage symbols (n + 1) ≠ start.stage symbols n)
      (many : limits.maxFacts < (start.stage symbols (n + 1)).ncard) :
    Ends start symbols limits deadline
      (.error (.limit .tooManyFacts), { w with phase := .stopped .tooManyFacts })
  | tooManyIterations {w : World} (never : deadline = .never) (rules : w.rules = start.rules)
      {n : Nat} (pairs : w.facts.pairs = start.stage symbols (n + 1))
      (grows : start.stage symbols (n + 1) ≠ start.stage symbols n)
      (many : limits.maxIterations ≤ n + 1) :
    Ends start symbols limits deadline
      (.error (.limit .tooManyIterations), { w with phase := .stopped .tooManyIterations })

section Loop

variable {start : World} {limits : RunLimits} {deadline : Deadline}

theorem clauses_congr [Patterns] {v : World} (h : v.rules = w.rules) :
    v.clauses symbols = w.clauses symbols := by
  rw [clauses, h, clauses]

theorem faulty_congr [Patterns] {v : World} (h : v.rules = w.rules)
    {known : Set (Origin × Fact Nat)} :
    v.Faulty symbols known ↔ w.Faulty symbols known := by
  rw [Faulty, h, Faulty]

theorem faulty_mono [Patterns] {known more : Set (Origin × Fact Nat)} (h : known ⊆ more)
    (fault : w.Faulty symbols known) : w.Faulty symbols more := by
  obtain ⟨e, he, used, may, fails⟩ := fault
  exact ⟨e, he, used, fun u hu => ⟨h (may u hu).1, (may u hu).2⟩, fails⟩

/-- A pass goes one stage on. -/
theorem pairs_grow [Patterns] (reached : start.Reached symbols limits w)
    (past : start.Past symbols w since) (h : w.pass symbols since .never = .ok derived) :
    (w.grow derived).facts.pairs = start.stage symbols (w.iterations + 1) := by
  have clauses : w.clauses symbols = start.clauses symbols := clauses_congr reached.rules
  have next : start.stage symbols (w.iterations + 1) =
      w.facts.pairs ∪ consequences (w.clauses symbols) w.facts.pairs := by
    rw [stage, Provenance.stage, ← stage, ← reached.pairs, clauses]
  rw [next]
  change (w.facts.insertAll derived).pairs = _
  rw [FactSet.pairs_insertAll]
  refine Set.Subset.antisymm (Set.union_subset_union_right _ (derived_subset h))
    (Set.union_subset Set.subset_union_left ((consequences_subset h).trans ?_))
  refine Set.union_subset Set.subset_union_right ?_
  rintro p ⟨place, rfl, old⟩
  obtain ⟨n, count, before, -⟩ := past
  rw [before, clauses] at old
  refine .inl ?_
  rw [reached.pairs, count]
  exact .inr old

theorem sound_of_pass [Patterns] (reached : start.Reached symbols limits w)
    (past : start.Past symbols w since) (h : w.pass symbols since .never = .ok derived) :
    ¬ start.Faulty symbols (start.stage symbols w.iterations) := by
  rw [← reached.pairs, ← faulty_congr reached.rules]
  intro fault
  obtain ⟨place, rfl, old⟩ := faulty_of_pass h fault
  obtain ⟨n, -, before, sound⟩ := past
  rw [before, faulty_congr reached.rules] at old
  exact sound old

theorem size_grow_eq_iff (w : World) (derived : List Entry) :
    (w.grow derived).facts.size = w.facts.size ↔
      (w.grow derived).facts.pairs = w.facts.pairs := by
  rw [← FactSet.ncard_pairs, ← FactSet.ncard_pairs]
  refine ⟨fun same => ?_, congrArg Set.ncard⟩
  have more : w.facts.pairs ⊆ (w.grow derived).facts.pairs := by
    change _ ⊆ (w.facts.insertAll derived).pairs
    rw [FactSet.pairs_insertAll]
    exact Set.subset_union_left
  exact (Set.eq_of_subset_of_ncard_le more same.le (FactSet.pairs_finite _)).symm

variable [Patterns]

/-- A pass finds nothing new when the next stage is the present one. -/
theorem size_grow_eq_iff_fixed (reached : start.Reached symbols limits w)
    (past : start.Past symbols w since) (h : w.pass symbols since .never = .ok derived) :
    (w.grow derived).facts.size = w.facts.size ↔
      start.stage symbols (w.iterations + 1) = start.stage symbols w.iterations := by
  rw [size_grow_eq_iff, pairs_grow reached past h, reached.pairs]

/-- The induction is on the passes that are left; `Reached` and `Past` hold before each. -/
theorem loop_ends (reached : start.Reached symbols limits w) (past : start.Past symbols w since) :
    start.Ends symbols limits .never (loop symbols limits .never since w) := by
  induction since, w using loop.induct_unfolding symbols limits .never with
  | case1 since w _ passed => cases passed
  | case2 since w _ _ error run =>
    obtain ⟨rfl, fault⟩ := fault_of_pass run
    rw [faulty_congr reached.rules, reached.pairs] at fault
    exact .fault rfl reached fault
  | case3 since w _ derived run grown same =>
    have kept : grown.facts.pairs = start.stage symbols w.iterations :=
      ((size_grow_eq_iff w derived).1 same).trans reached.pairs
    have last : start.Reached symbols limits { w with facts := grown.facts } :=
      { reached with pairs := kept }
    have sound := sound_of_pass reached past run
    exact .converged rfl last sound ((size_grow_eq_iff_fixed reached past run).1 same)
  | case4 since w _ _ derived run grown other many =>
    have pairs := pairs_grow reached past run
    have grows := mt (size_grow_eq_iff_fixed reached past run).2 other
    refine .tooManyFacts rfl reached.rules pairs grows ?_
    rwa [← pairs, FactSet.ncard_pairs]
  | case5 since w _ _ derived run grown other few many =>
    have grows := mt (size_grow_eq_iff_fixed reached past run).2 other
    exact .tooManyIterations rfl reached.rules (pairs_grow reached past run) grows many
  | case6 since w _ derived run grown other few left ih =>
    have pairs := pairs_grow reached past run
    have grows := mt (size_grow_eq_iff_fixed reached past run).2 other
    refine ih ⟨reached.rules, pairs, fun n hn => ?_, fun n hn => ?_⟩ ⟨w.iterations, rfl, ?_, ?_⟩
    · rcases Nat.lt_succ_iff_lt_or_eq.1 hn with hn | rfl
      · exact reached.grows n hn
      · exact grows
    · rcases Nat.lt_succ_iff_lt_or_eq.1 hn with hn | rfl
      · exact reached.room n hn
      · rw [← pairs, FactSet.ncard_pairs]
        exact ⟨Nat.le_of_not_lt few, Nat.lt_of_not_le left⟩
    · rw [← reached.pairs]
      exact FactSet.before_insertAll
    · exact sound_of_pass reached past run

theorem run_ends (w : World) (symbols : Symbols) (limits : RunLimits) (deadline : Deadline) :
    w.Ends symbols limits deadline (w.run symbols limits deadline) := by
  have reached : w.Reached symbols limits { w with iterations := 0 } := ⟨rfl, rfl, nofun, nofun⟩
  cases deadline with
  | never => exact loop_ends reached rfl
  | passed =>
    rw [run, loop, if_pos rfl]
    exact .timeout rfl reached

/-! What the ending of a run says about the least closed set. -/

theorem stage_subset_least (n : Nat) : w.stage symbols n ⊆ w.least symbols :=
  Provenance.stage_subset_least n

theorem least_eq_stage {n : Nat} (fixed : w.stage symbols (n + 1) = w.stage symbols n) :
    w.least symbols = w.stage symbols n :=
  Provenance.least_eq_stage fixed

variable {result : Except EvaluationError Unit}

theorem Ends.rules (h : start.Ends symbols limits deadline (result, w)) :
    w.rules = start.rules := by
  cases h with
  | timeout _ reached => exact reached.rules
  | fault _ reached => exact reached.rules
  | converged _ reached => exact reached.rules
  | tooManyFacts _ rules => exact rules
  | tooManyIterations _ rules => exact rules

theorem Ends.exists_stage (h : start.Ends symbols limits deadline (result, w)) :
    ∃ n, w.facts.pairs = start.stage symbols n := by
  cases h with
  | timeout _ reached => exact ⟨_, reached.pairs⟩
  | fault _ reached => exact ⟨_, reached.pairs⟩
  | converged _ reached => exact ⟨_, reached.pairs⟩
  | tooManyFacts _ _ pairs => exact ⟨_, pairs⟩
  | tooManyIterations _ _ pairs => exact ⟨_, pairs⟩

theorem Ends.facts_subset (h : start.Ends symbols limits deadline (result, w)) :
    start.facts.pairs ⊆ w.facts.pairs := by
  obtain ⟨n, pairs⟩ := h.exists_stage
  rw [pairs]
  exact stage_mono (Nat.zero_le n)

theorem Ends.subset_least (h : start.Ends symbols limits deadline (result, w)) :
    w.facts.pairs ⊆ start.least symbols := by
  obtain ⟨n, pairs⟩ := h.exists_stage
  rw [pairs]
  exact stage_subset_least n

theorem Ends.eq_least (h : start.Ends symbols limits deadline (result, w))
    (converged : w.phase = .converged) : w.facts.pairs = start.least symbols := by
  cases h with
  | converged _ reached _ fixed => exact reached.pairs.trans (least_eq_stage fixed).symm
  | timeout => cases converged
  | fault => cases converged
  | tooManyFacts => cases converged
  | tooManyIterations => cases converged

/-- Where a run has come to its end no rule is at fault. -/
theorem Ends.sound (h : start.Ends symbols limits deadline (result, w))
    (converged : w.phase = .converged) : ¬ start.Faulty symbols w.facts.pairs := by
  cases h with
  | converged _ reached sound _ =>
    rw [← reached.pairs] at sound
    exact sound
  | timeout => cases converged
  | fault => cases converged
  | tooManyFacts => cases converged
  | tooManyIterations => cases converged

theorem Ends.phase_of_ok (h : start.Ends symbols limits deadline (.ok (), w)) :
    w.phase = .converged := by
  cases h
  rfl

/-- A run that comes to its end has stored what can be derived, and nothing else. -/
theorem facts_of_run (h : (w.run symbols limits .never).1 = .ok ()) :
    (w.run symbols limits .never).2.facts.pairs = w.least symbols := by
  have ends := run_ends w symbols limits .never
  generalize w.run symbols limits .never = ended at ends h
  obtain ⟨result, final⟩ := ended
  cases h
  exact ends.eq_least ends.phase_of_ok

/-- Whether the limits allow every step that finds something new. -/
def Room (w : World) (symbols : Symbols) (limits : RunLimits) : Prop :=
  ∀ n, w.stage symbols (n + 1) ≠ w.stage symbols n →
    (w.stage symbols (n + 1)).ncard ≤ limits.maxFacts ∧ n + 1 < limits.maxIterations

/-- A run without a deadline comes to its end exactly when no rule is ever at fault and no limit is
in the way. -/
theorem run_eq_ok_iff : (w.run symbols limits .never).1 = .ok () ↔
    ¬ w.Faulty symbols (w.least symbols) ∧ w.Room symbols limits := by
  have ends := run_ends w symbols limits .never
  generalize w.run symbols limits .never = ended at ends
  obtain ⟨result, final⟩ := ended
  constructor
  · rintro rfl
    cases ends with
    | @converged v _ reached sound fixed =>
      rw [least_eq_stage fixed]
      refine ⟨sound, fun n grows => ?_⟩
      rcases Nat.lt_or_ge n v.iterations with before | after
      · exact reached.room n before
      · refine absurd ?_ grows
        exact (stage_fixed fixed (Nat.le_succ_of_le after)).trans (stage_fixed fixed after).symm
  · rintro ⟨sound, room⟩
    cases ends with
    | timeout passed => cases passed
    | fault _ _ faulty => exact absurd (faulty_mono (stage_subset_least _) faulty) sound
    | converged => rfl
    | tooManyFacts _ _ _ grows many => exact absurd many (Nat.not_lt.2 (room _ grows).1)
    | tooManyIterations _ _ _ grows many => exact absurd many (Nat.not_le.2 (room _ grows).2)

end Loop

end World

end Warrant
