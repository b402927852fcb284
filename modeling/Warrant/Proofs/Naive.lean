import Warrant.Proofs.Saturation

/-! Runs whose passes go over everything.
From its second pass on a run looks only for what uses a fact of the pass before. `naiveRun` is the
same loop with every pass over all stored facts. What a later pass leaves out are matches of facts
that an earlier pass has been through: their expressions are at no fault, and what they derive is
stored. So a pass brings the same new entries in the same order as one over everything, and the two
loops go through the same worlds, in the same order of entries and to the same end. -/

namespace Warrant

open Provenance

namespace World

/-- Passes from here on, each over all stored facts. -/
def naiveLoop [Patterns] (symbols : Symbols) (limits : RunLimits) (deadline : Deadline)
    (w : World) :
    Except EvaluationError Unit × World :=
  let fail (w : World) (error : EvaluationError) : Except EvaluationError Unit × World :=
    (.error error, w.stop error)
  if deadline = .passed then fail w (.limit .timeout)
  else
    match w.pass symbols none deadline with
    | .error error => fail w error
    | .ok derived =>
      let grown := w.grow derived
      if grown.facts.size = w.facts.size then (.ok (), { grown with phase := .converged })
      else if limits.maxFacts < grown.facts.size then fail grown (.limit .tooManyFacts)
      else if limits.maxIterations ≤ grown.iterations then fail grown (.limit .tooManyIterations)
      else naiveLoop symbols limits deadline grown
termination_by limits.maxFacts - w.facts.size
decreasing_by
  have := size_le_size_grow w derived
  grind

/-- A run in which no pass is spared anything. -/
def naiveRun [Patterns] (w : World) (symbols : Symbols) (limits : RunLimits) (deadline : Deadline) :
    Except EvaluationError Unit × World :=
  naiveLoop symbols limits deadline { w with iterations := 0 }

end World

/-! Matches with the places that they use. -/

namespace Join

/-- The matches of the rest of a body, each with the places of its facts. -/
def traces (facts : FactSet) (trust : Trust) :
    List (Atom Nat) → Assignment → Origin → List (List Nat × Match)
  | [], a, origin => (a.complete?.map fun binding => ([], ⟨origin, binding⟩)).toList
  | atom :: rest, a, origin =>
    (facts.candidates atom trust).flatMap fun (place, entry) =>
      match unify atom entry.fact a with
      | some a => (traces facts trust rest a (origin.union entry.origin)).map fun (places, m) =>
          (place :: places, m)
      | none => []

variable {j : Join} {atoms : List (Atom Nat)} {a : Assignment} {origin : Origin}

/-- A join that asks for something new drops the traces without a new place, and nothing else. -/
theorem found_eq_traces (used : Bool) : j.found atoms a origin used =
    ((traces j.facts j.trust atoms a origin).filter fun trace =>
      j.since.isNone || used || trace.1.any j.isNew).map (·.2) := by
  induction atoms generalizing a origin used with
  | nil =>
    rw [found, traces]
    cases a.complete? <;> cases j.since <;> cases used <;> simp
  | cons atom rest ih =>
    rw [found, traces, List.filter_flatMap, List.map_flatMap]
    refine List.flatMap_congr fun candidate _ => ?_
    obtain ⟨place, entry⟩ := candidate
    dsimp only
    cases unify atom entry.fact a with
    | none => rfl
    | some b =>
      dsimp only
      rw [ih, List.filter_map, List.map_map]
      refine congrArg (List.map _) (List.filter_congr fun trace _ => ?_)
      simp [Bool.or_assoc]

/-- The places of a trace hold the facts that its match comes from. -/
theorem traces_sound {facts : FactSet} {trust : Trust} {places : List Nat} {m : Match}
    (h : (places, m) ∈ traces facts trust atoms a origin) :
    ∃ taken : List (Nat × Entry), taken.map (·.1) = places ∧
      ({ facts, trust } : Join).Comes atoms a false m.binding.get? taken ∧
      m.origin = origins origin taken := by
  induction atoms generalizing a origin places with
  | nil =>
    simp only [traces, Option.mem_toList, Option.map_eq_some_iff, complete?_eq_some_iff] at h
    obtain ⟨b, ⟨declared, rfl⟩, same⟩ := h
    cases same
    exact ⟨[], rfl,
      ⟨nofun, .inl rfl, .nil, fun _ _ => id, by simp [Assignment.get?], declared⟩, rfl⟩
  | cons atom rest ih =>
    simp only [traces, List.mem_flatMap] at h
    obtain ⟨⟨place, entry⟩, candidate, h⟩ := h
    obtain ⟨stored, -, readable⟩ := FactSet.mem_candidates.1 candidate
    cases unified : unify atom entry.fact a with
    | none =>
      rw [unified] at h
      cases h
    | some b =>
      rw [unified] at h
      obtain ⟨⟨places, n⟩, later, same⟩ := List.mem_map.1 h
      cases same
      obtain ⟨taken, rfl, comes, origin⟩ := ih later
      refine ⟨(place, entry) :: taken, rfl, ?_, origin⟩
      refine (comes_cons_iff unified stored readable).2 { comes with fresh := .inl rfl }

end Join

/-! What a walk over fewer matches may leave out. -/

namespace Rule

/-- Elements that pass or fail without an error and bring nothing can be left out. -/
theorem filterMap_allKept_filter {α β γ ε : Type} {keep : β → Except ε Bool} {f : α → β}
    {bring : β → Option γ} {wanted : α → Bool} {l : List α}
    (spent : ∀ a ∈ l, wanted a = false →
      ∃ b, keep (f a) = .ok b ∧ (b = true → bring (f a) = none)) :
    (allKept keep ((l.filter wanted).map f)).map (List.filterMap bring) =
      (allKept keep (l.map f)).map (List.filterMap bring) := by
  induction l with
  | nil => rfl
  | cons a rest ih =>
    have later := ih fun c hc => spent c (List.mem_cons_of_mem _ hc)
    cases wants : wanted a with
    | true =>
      rw [List.filter_cons_of_pos wants, List.map_cons, List.map_cons, allKept, allKept]
      cases keep (f a) with
      | error e => rfl
      | ok b =>
        generalize allKept keep ((rest.filter wanted).map f) = fewer at later ⊢
        generalize allKept keep (rest.map f) = all at later ⊢
        cases fewer with
        | error e =>
          cases all with
          | error d => exact later
          | ok all => cases later
        | ok fewer =>
          cases all with
          | error d => cases later
          | ok all =>
            have same : fewer.filterMap bring = all.filterMap bring := Except.ok.inj later
            refine congrArg Except.ok ?_
            cases b with
            | false => exact same
            | true => simp only [if_true, List.filterMap_cons, same]
    | false =>
      obtain ⟨b, kept, nothing⟩ := spent a (List.mem_cons_self ..) wants
      rw [List.filter_cons_of_neg (by simp [wants]), later, List.map_cons, allKept, kept]
      cases allKept keep (rest.map f) with
      | error e => rfl
      | ok others =>
        cases b with
        | false => rfl
        | true => exact congrArg Except.ok (List.filterMap_cons_none (nothing rfl)).symm

end Rule

/-! One pass. -/

namespace FactSet

variable {s : FactSet} {l : List Entry}

theorem contains_insert {e d : Entry} (h : s.contains d) : (s.insert e).contains d := by
  have stored : d ∈ s.toList := by simpa [toList] using contains_iff.1 h
  exact contains_iff.2 (by simpa [toList] using mem_toList_insert.2 (.inl stored))

/-- Storing entries that are there already does nothing, at whatever time. -/
theorem insertAll_filter {keep : Entry → Bool}
    (known : ∀ e ∈ l, keep e = false → s.contains e) :
    s.insertAll (l.filter keep) = s.insertAll l := by
  induction l generalizing s with
  | nil => rfl
  | cons e rest ih =>
    have later : ∀ d ∈ rest, keep d = false → (s.insert e).contains d :=
      fun d hd dropped => contains_insert (known d (List.mem_cons_of_mem _ hd) dropped)
    cases kept : keep e with
    | true =>
      rw [List.filter_cons_of_pos kept]
      exact ih later
    | false =>
      have same : s.insert e = s := dif_pos (known e (List.mem_cons_self ..) kept)
      rw [same] at later
      rw [List.filter_cons_of_neg (by simp [kept]), ih later]
      exact congrArg (·.insertAll rest) same.symm

end FactSet

namespace World

variable {w : World} {symbols : Symbols} {since : Option Nat} {derived : List Entry}

/-- Whether an entry is still to be stored. -/
def lacks (w : World) (d : Entry) : Bool := !w.facts.contains d

theorem grow_filter_lacks (w : World) (derived : List Entry) :
    w.grow (derived.filter w.lacks) = w.grow derived := by
  have same : w.facts.insertAll (derived.filter w.lacks) = w.facts.insertAll derived :=
    FactSet.insertAll_filter fun e _ known => by simpa [lacks] using known
  rw [grow, same, grow]

/-- Whatever comes from facts before the place from which on they are new is stored, and no rule is
at fault on them. -/
structure Settled [Patterns] (symbols : Symbols) (w : World) (since : Option Nat) : Prop where
  stored : ∀ place, since = some place →
    consequences (w.clauses symbols) (w.facts.before place) ⊆ w.facts.pairs
  sound : ∀ place, since = some place → ¬ w.Faulty symbols (w.facts.before place)

/-- A match without anything new passes or fails without an error, and brings nothing that is still
to be stored. -/
theorem Settled.spent [Patterns] (settled : w.Settled symbols since) {e : RuleEntry}
    (he : e ∈ w.rules) {places : List Nat} {m : Match}
    (found : (places, m) ∈ Join.traces w.facts e.trust e.rule.body
      { declared := bodyVars e.rule.body } .empty)
    (old : (since.isNone || places.any (w.joinFor since e).isNew) = false) :
    ∃ b, e.rule.keeps symbols m = .ok b ∧
      (b = true → (e.rule.derive? e.block m).filter w.lacks = none) := by
  obtain ⟨taken, rfl, comes, origin⟩ := Join.traces_sound found
  obtain ⟨takes, -, binds⟩ := Rule.comes_iff_binds.1 comes
  rw [Bool.or_eq_false_iff] at old
  have may : ∃ place, since = some place ∧
      MayUse e.trust (w.facts.before place) (Join.pairs taken) := by
    have takes : (w.joinFor since e).Takes taken := takes
    refine (fresh_or_old takes).resolve_left fun fresh => ?_
    rcases fresh with unasked | used | ⟨p, hp, new⟩
    · have none : since = none := unasked
      simp [none] at old
    · cases used
    · exact List.any_eq_false.1 old.2 p.1 (List.mem_map_of_mem hp) new
  obtain ⟨place, same, may⟩ := may
  cases answer : Warrant.keeps symbols e.rule.expressions m.binding with
  | error fault =>
    exact absurd ⟨e, he, _, may, m.binding, binds, fault, answer⟩ (settled.sound place same)
  | ok b =>
    refine ⟨b, Rule.mapError_eq_ok_iff.2 answer, ?_⟩
    rintro rfl
    rw [Option.filter_eq_none_iff]
    intro d derives
    obtain ⟨fact, head, rfl⟩ := Option.map_eq_some_iff.1 derives
    rw [Rule.instantiate?_eq] at head
    have drawn : (m.origin.insert e.block, fact) ∈
        consequences (w.clauses symbols) (w.facts.before place) :=
      mem_consequences.2 ⟨e, he, _, may, ⟨m.binding, binds, answer, head⟩,
        congrArg (·.insert e.block) origin⟩
    have stored := settled.stored place same drawn
    have known : w.facts.contains ⟨m.origin.insert e.block, fact⟩ :=
      FactSet.contains_iff.2 (by simpa [FactSet.pairs, FactSet.toList] using stored)
    simp [lacks, known]

/-- A rule that looks only for what is new brings what it would bring otherwise. -/
theorem Settled.apply [Patterns] (settled : w.Settled symbols since) {e : RuleEntry}
    (he : e ∈ w.rules) :
    (e.rule.apply e.block symbols (w.joinFor since e)).map (List.filter w.lacks) =
      (e.rule.apply e.block symbols (w.joinFor none e)).map (List.filter w.lacks) := by
  have lists (x : Except EvaluationError (List Match)) :
      (x.map (List.filterMap (e.rule.derive? e.block))).map (List.filter w.lacks) =
        x.map (List.filterMap fun m => (e.rule.derive? e.block m).filter w.lacks) := by
    cases x with
    | error error => rfl
    | ok matched => exact congrArg Except.ok List.filter_filterMap
  rw [Rule.apply_never rfl, Rule.apply_never rfl, Join.found_eq_traces, Join.found_eq_traces,
    lists, lists]
  have all (l : List (List Nat × Match)) : l.filter (fun trace =>
      (w.joinFor none e).since.isNone || false || trace.1.any (w.joinFor none e).isNew) = l :=
    List.filter_eq_self.2 fun _ _ => rfl
  rw [all]
  refine Rule.filterMap_allKept_filter fun trace found old => settled.spent he found ?_
  simpa [joinFor] using old

theorem map_mapM {α β γ ε : Type} (f : α → Except ε β) (h : β → γ) (l : List α) :
    (l.mapM f).map (List.map h) = l.mapM fun a => (f a).map h := by
  induction l with
  | nil => rfl
  | cons a rest ih =>
    rw [List.mapM_cons, List.mapM_cons, ← ih]
    cases f a with
    | error e => rfl
    | ok b =>
      cases rest.mapM f with
      | error e => rfl
      | ok others => rfl

variable [Patterns]

/-- A pass that looks only for what is new leads to the same world as one over everything. -/
theorem Settled.pass (settled : w.Settled symbols since) :
    (w.pass symbols since .never).map w.grow = (w.pass symbols none .never).map w.grow := by
  have grown (place : Option Nat) : (w.pass symbols place .never).map w.grow =
      (w.rules.mapM fun (e : RuleEntry) =>
        (e.rule.apply e.block symbols (w.joinFor place e)).map (List.filter w.lacks)).map
          fun lists => w.grow lists.flatten := by
    rw [← map_mapM]
    change Except.map w.grow
      ((w.rules.mapM fun e => e.rule.apply e.block symbols (w.joinFor place e)) >>= _) = _
    cases w.rules.mapM fun e => e.rule.apply e.block symbols (w.joinFor place e) with
    | error e => rfl
    | ok lists =>
      refine congrArg Except.ok ?_
      change _ = w.grow (lists.map (List.filter w.lacks)).flatten
      rw [← List.filter_flatten, grow_filter_lacks]
  rw [grown, grown, mapM_congr fun _ he => settled.apply he]

theorem Settled.exists_pass (settled : w.Settled symbols since)
    (run : w.pass symbols since .never = .ok derived) :
    ∃ all, w.pass symbols none .never = .ok all ∧ w.grow all = w.grow derived := by
  have same := settled.pass
  rw [run] at same
  cases naive : w.pass symbols none .never with
  | error e =>
    rw [naive] at same
    cases same
  | ok all =>
    rw [naive] at same
    exact ⟨all, rfl, (Except.ok.inj same).symm⟩

/-- After a pass there is nothing more to be had from what it has gone over. -/
theorem Settled.grow (settled : w.Settled symbols since)
    (run : w.pass symbols since .never = .ok derived) :
    (w.grow derived).Settled symbols (some w.facts.size) := by
  have before : (w.grow derived).facts.before w.facts.size = w.facts.pairs :=
    FactSet.before_insertAll
  have pairs : (w.grow derived).facts.pairs = w.facts.pairs ∪ {p | ∃ d ∈ derived, d.pair = p} :=
    FactSet.pairs_insertAll
  refine ⟨fun place same => ?_, fun place same fault => ?_⟩
  · cases same
    rw [before, pairs]
    refine (consequences_subset run).trans (Set.union_subset Set.subset_union_right ?_)
    rintro p ⟨place, same, old⟩
    exact .inl (settled.stored place same old)
  · cases same
    rw [before] at fault
    obtain ⟨place, same, old⟩ := faulty_of_pass run fault
    exact settled.sound place same old

/-- A pass over everything stores all consequences of what is stored. -/
theorem pairs_grow_all (run : w.pass symbols none .never = .ok derived) :
    (w.grow derived).facts.pairs =
      w.facts.pairs ∪ consequences (w.clauses symbols) w.facts.pairs := by
  have grown : (w.grow derived).facts.pairs = w.facts.pairs ∪ {p | ∃ d ∈ derived, d.pair = p} :=
    FactSet.pairs_insertAll
  rw [grown]
  refine congrArg (w.facts.pairs ∪ ·) (Set.Subset.antisymm (derived_subset run) ?_)
  refine (consequences_subset run).trans (Set.union_subset Set.Subset.rfl ?_)
  rintro p ⟨place, impossible, -⟩
  cases impossible

/-- It comes to its end exactly when no rule is at fault. -/
theorem pass_all_cases (w : World) (symbols : Symbols) :
    w.Faulty symbols w.facts.pairs ∧
      w.pass symbols none .never = .error (.execution .invalidStack) ∨
    ¬ w.Faulty symbols w.facts.pairs ∧ ∃ derived, w.pass symbols none .never = .ok derived := by
  cases run : w.pass symbols none .never with
  | error e =>
    obtain ⟨rfl, fault⟩ := fault_of_pass run
    exact .inl ⟨fault, rfl⟩
  | ok derived =>
    refine .inr ⟨fun fault => ?_, derived, rfl⟩
    obtain ⟨place, impossible, -⟩ := faulty_of_pass run fault
    cases impossible

/-! The loop. -/

variable {limits : RunLimits}

/-- The induction is on the passes that are left; before each of them the world is settled. -/
theorem loop_eq_naiveLoop (settled : w.Settled symbols since) :
    loop symbols limits .never since w = naiveLoop symbols limits .never w := by
  have never : ¬ Deadline.never = .passed := nofun
  induction since, w using loop.induct_unfolding symbols limits .never with
  | case1 since w _ passed => cases passed
  | case2 since w _ _ error run =>
    have all : w.pass symbols none .never = .error error := by
      have same := settled.pass
      rw [run] at same
      cases all : w.pass symbols none .never with
      | ok derived =>
        rw [all] at same
        cases same
      | error e =>
        rw [all] at same
        cases same
        rfl
    rw [naiveLoop, if_neg never, all]
  | case3 since w _ derived run grown same =>
    obtain ⟨all, naive, equal⟩ := settled.exists_pass run
    rw [naiveLoop, if_neg never, naive]
    simp only [equal]
    rw [if_pos same]
  | case4 since w _ _ derived run grown other many =>
    obtain ⟨all, naive, equal⟩ := settled.exists_pass run
    rw [naiveLoop, if_neg never, naive]
    simp only [equal]
    rw [if_neg other, if_pos many]
  | case5 since w _ _ derived run grown other few many =>
    obtain ⟨all, naive, equal⟩ := settled.exists_pass run
    rw [naiveLoop, if_neg never, naive]
    simp only [equal]
    rw [if_neg other, if_neg few, if_pos many]
  | case6 since w _ derived run grown other few left ih =>
    obtain ⟨all, naive, equal⟩ := settled.exists_pass run
    rw [naiveLoop, if_neg never, naive]
    simp only [equal]
    rw [if_neg other, if_neg few, if_neg left]
    exact ih (settled.grow run)

/-- A run comes to the same end, in the same world, as one whose passes all go over everything. -/
theorem run_eq_naiveRun (w : World) (symbols : Symbols) (limits : RunLimits)
    (deadline : Deadline) :
    w.run symbols limits deadline = w.naiveRun symbols limits deadline := by
  cases deadline with
  | passed =>
    rw [run, loop, if_pos rfl, naiveRun, naiveLoop, if_pos rfl]
  | never =>
    refine loop_eq_naiveLoop ⟨?_, ?_⟩
    · simp
    · simp

end World

end Warrant
