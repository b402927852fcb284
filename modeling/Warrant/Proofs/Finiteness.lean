import Warrant.Regex.Pattern
import Mathlib.Algebra.BigOperators.Ring.List
import Mathlib.Data.Fintype.BigOperators
import Mathlib.Data.List.GetD
import Warrant.Proofs.Saturation
import Warrant.Proofs.Translation

/-! Why a run comes to its end, whatever the rules.
A rule puts into a fact only values of facts and what stands in its head; what expressions compute
goes nowhere. So everything that can ever be stored is put together from the blocks and the terms
that are there at the start, in the shape of a fact or of a head (`World.Familiar`), and there are
only so many ways to do that (`World.capacity`). Each pass but the last stores something new, hence
limits beyond that number are never met. -/

namespace Warrant

open Provenance

namespace World

/-- The blocks in the origins of the stored facts, and those that declare the rules. -/
def blocks (w : World) : Finset BlockId :=
  (w.facts.toList.flatMap (·.origin.toList) ++ w.rules.map (·.block)).toFinset

/-- The terms of the stored facts and, variables apart, of the heads. -/
def constants (w : World) : Finset (Term Nat) :=
  (w.facts.toList.flatMap (·.fact.terms) ++
    w.rules.flatMap fun e => e.rule.head.terms.filter (!·.isVar)).toFinset

/-- How many entries a rule can be the source of: any blocks, and any constants in the places of
its head. -/
def share (w : World) (e : RuleEntry) : Nat :=
  2 ^ w.blocks.card * w.constants.card ^ e.rule.head.arity

/-- How many entries can be stored at most. -/
def capacity (w : World) : Nat :=
  w.facts.size + 2 ^ w.blocks.card *
    (w.rules.map fun e => w.constants.card ^ e.rule.head.arity).sum

/-- What is put together from the blocks and terms of a world, in one of its shapes. -/
structure Familiar (w : World) (p : Origin × Fact Nat) : Prop where
  origin : ∀ b ∈ p.1, b ∈ w.blocks
  shape : (∃ e ∈ w.facts.toList, p.2.shape = e.fact.shape) ∨
    ∃ e ∈ w.rules, p.2.shape = e.rule.head.shape
  terms : ∀ t ∈ p.2.terms, t ∈ w.constants

/-- Blocks and terms of a world, in the shape of one head. -/
structure Suits (w : World) (e : RuleEntry) (p : Origin × Fact Nat) : Prop where
  origin : ∀ b ∈ p.1, b ∈ w.blocks
  shape : p.2.shape = e.rule.head.shape
  terms : ∀ t ∈ p.2.terms, t ∈ w.constants

variable {w : World} {symbols : Symbols}

theorem mem_blocks {b : BlockId} :
    b ∈ w.blocks ↔ (∃ e ∈ w.facts.toList, b ∈ e.origin) ∨ ∃ e ∈ w.rules, e.block = b := by
  simp only [blocks, List.mem_toFinset, List.mem_append, List.mem_flatMap, List.mem_map]
  rfl

theorem mem_constants {t : Term Nat} :
    t ∈ w.constants ↔ (∃ e ∈ w.facts.toList, t ∈ e.fact.terms) ∨
      ∃ e ∈ w.rules, t ∈ e.rule.head.terms ∧ t.isVar = false := by
  simp [constants]

theorem capacity_eq : w.capacity = w.facts.size + (w.rules.map w.share).sum := by
  rw [capacity, ← List.sum_map_mul_left]
  rfl

theorem Suits.familiar {e : RuleEntry} {p : Origin × Fact Nat} (h : w.Suits e p)
    (declared : e ∈ w.rules) : w.Familiar p :=
  ⟨h.origin, .inr ⟨e, declared, h.shape⟩, h.terms⟩

theorem familiar_of_stored {p : Origin × Fact Nat} (h : p ∈ w.facts.pairs) : w.Familiar p where
  origin _ hb := mem_blocks.2 (.inl ⟨_, h, hb⟩)
  shape := .inl ⟨_, h, rfl⟩
  terms _ ht := mem_constants.2 (.inl ⟨_, h, ht⟩)

end World

theorem Atom.shape_of_under {values : Nat → Option (Term Nat)} {atom fact : Atom Nat}
    (made : atom.under values = some fact) : fact.shape = atom.shape := by
  obtain ⟨name, terms⟩ := Atom.under_eq_some_iff.1 made
  exact congrArg₂ Shape.mk name.symm terms.length_eq.symm

/-- A term of a conclusion stands in one of the facts used or in the head. -/
theorem Rule.Concludes.mem_terms [Patterns] {r : Rule Nat Nat} {symbols : Symbols}
    {facts : List (Fact Nat)}
    {fact : Fact Nat} (h : r.Concludes symbols facts fact) {t : Term Nat} (ht : t ∈ fact.terms) :
    (∃ f ∈ facts, t ∈ f.terms) ∨ t ∈ r.head.terms ∧ t.isVar = false := by
  obtain ⟨b, binds, -, head⟩ := h
  obtain ⟨s, hs, made⟩ := exists_of_forall₂ (Atom.under_eq_some_iff.1 head).2.flip ht
  cases s with
  | var v => exact .inl (binds.mem_terms made)
  | _ =>
    cases made
    exact .inr ⟨hs, rfl⟩

namespace World

variable {w : World} {symbols : Symbols}

/-- What a rule concludes from familiar facts holds no block and no term that is new. -/
theorem exists_suits [Patterns] {known : Set (Origin × Fact Nat)}
    (familiar : ∀ p ∈ known, w.Familiar p)
    {p : Origin × Fact Nat} (h : p ∈ consequences (w.clauses symbols) known) :
    ∃ e ∈ w.rules, w.Suits e p := by
  obtain ⟨e, he, used, may, concludes, tag⟩ := mem_consequences.1 h
  refine ⟨e, he, fun b hb => ?_, ?_, fun t ht => ?_⟩
  · rw [tag, mem_tag] at hb
    rcases hb with rfl | ⟨u, hu, hb⟩
    · exact mem_blocks.2 (.inr ⟨e, he, rfl⟩)
    · exact (familiar u (may u hu).1).origin b hb
  · obtain ⟨b, -, -, head⟩ := concludes
    exact Atom.shape_of_under head
  · rcases concludes.mem_terms ht with ⟨fact, hf, ht⟩ | ⟨there, constant⟩
    · obtain ⟨u, hu, rfl⟩ := List.mem_map.1 hf
      exact (familiar u (may u hu).1).terms t ht
    · exact mem_constants.2 (.inr ⟨e, he, there, constant⟩)

/-- Stored at the start, or made by a rule from what is there. -/
theorem stored_or_suits [Patterns] (n : Nat) : w.stage symbols n ⊆
    w.facts.pairs ∪ {p | ∃ e ∈ w.rules, w.Suits e p} := by
  induction n with
  | zero => exact Set.subset_union_left
  | succ n ih =>
    refine Set.union_subset ih fun p hp => .inr (exists_suits (fun q hq => ?_) hp)
    rcases ih hq with stored | ⟨e, he, suits⟩
    · exact familiar_of_stored stored
    · exact suits.familiar he

theorem familiar_of_stage [Patterns] {n : Nat} {p : Origin × Fact Nat} (h : p ∈ w.stage symbols n) :
    w.Familiar p := by
  rcases stored_or_suits n h with stored | ⟨e, he, suits⟩
  · exact familiar_of_stored stored
  · exact suits.familiar he

/-! How many they are. -/

/-- The blocks of an entry and the terms in the places of a shape. -/
def makeup (shape : Shape) (p : Origin × Fact Nat) :
    Finset BlockId × (Fin shape.arity → Term Nat) :=
  (p.1.toList.toFinset, fun i => p.2.terms.getD i default)

/-- Entries of one shape are known by their makeup. -/
theorem eq_of_makeup {shape : Shape} {p q : Origin × Fact Nat} (hp : p.2.shape = shape)
    (hq : q.2.shape = shape) (same : makeup shape p = makeup shape q) : p = q := by
  obtain ⟨o, n, ts⟩ := p
  obtain ⟨o', n', ts'⟩ := q
  subst hp
  obtain ⟨blocks, terms⟩ := Prod.ext_iff.1 same
  have origins : o = o' := OrderedSet.eq_of_mem_iff fun b =>
    List.mem_toFinset.symm.trans ((Finset.ext_iff.1 blocks b).trans List.mem_toFinset)
  have names : n' = n := congrArg Shape.name hq
  have arity : ts'.length = ts.length := congrArg Shape.arity hq
  have elements : ts = ts' := by
    refine List.ext_getElem arity.symm fun i hi hi' => ?_
    have there : ts.getD i default = ts'.getD i default := congrFun terms ⟨i, hi⟩
    rwa [List.getD_eq_getElem _ _ hi, List.getD_eq_getElem _ _ hi'] at there
  rw [origins, names, elements]

/-- A rule is the source of no more than its share. -/
theorem card_suits (w : World) (e : RuleEntry) :
    {p | w.Suits e p}.Finite ∧ {p | w.Suits e p}.ncard ≤ w.share e := by
  let choices : Finset (Finset BlockId × (Fin e.rule.head.shape.arity → Term Nat)) :=
    w.blocks.powerset ×ˢ Fintype.piFinset fun _ => w.constants
  have chosen : ∀ p ∈ {p | w.Suits e p}, makeup e.rule.head.shape p ∈ (choices : Set _) := by
    intro p h
    refine Finset.mem_product.2 ⟨Finset.mem_powerset.2 fun b hb => ?_,
      Fintype.mem_piFinset.2 fun i => ?_⟩
    · exact h.origin b (List.mem_toFinset.1 hb)
    · have arity : p.2.terms.length = e.rule.head.shape.arity := congrArg Shape.arity h.shape
      have bound : i < p.2.terms.length := i.2.trans_eq arity.symm
      change p.2.terms.getD i default ∈ w.constants
      rw [List.getD_eq_getElem _ _ bound]
      exact h.terms _ (List.getElem_mem bound)
  have injective : Set.InjOn (makeup e.rule.head.shape) {p | w.Suits e p} :=
    fun p hp q hq same => eq_of_makeup hp.shape hq.shape same
  refine ⟨Set.Finite.of_injOn chosen injective choices.finite_toSet, ?_⟩
  calc {p | w.Suits e p}.ncard
      ≤ (choices : Set _).ncard :=
        Set.ncard_le_ncard_of_injOn _ chosen injective choices.finite_toSet
    _ = choices.card := Set.ncard_coe_finset choices
    _ = w.share e := by
      rw [Finset.card_product, Finset.card_powerset, Fintype.card_piFinset_const]
      rfl

theorem card_exists_suits (w : World) (rules : List RuleEntry) :
    {p | ∃ e ∈ rules, w.Suits e p}.Finite ∧
      {p | ∃ e ∈ rules, w.Suits e p}.ncard ≤ (rules.map w.share).sum := by
  induction rules with
  | nil => simp
  | cons e rest ih =>
    have split : {p | ∃ d ∈ e :: rest, w.Suits d p} =
        {p | w.Suits e p} ∪ {p | ∃ d ∈ rest, w.Suits d p} := by
      ext p
      simp
    rw [split, List.map_cons, List.sum_cons]
    refine ⟨(card_suits w e).1.union ih.1, (Set.ncard_union_le ..).trans ?_⟩
    exact Nat.add_le_add (card_suits w e).2 ih.2

/-- What is stored at the start and what the rules can make of it. -/
theorem card_makable (w : World) :
    (w.facts.pairs ∪ {p | ∃ e ∈ w.rules, w.Suits e p}).Finite ∧
      (w.facts.pairs ∪ {p | ∃ e ∈ w.rules, w.Suits e p}).ncard ≤ w.capacity := by
  obtain ⟨finite, bound⟩ := card_exists_suits w w.rules
  refine ⟨w.facts.pairs_finite.union finite, (Set.ncard_union_le ..).trans ?_⟩
  rw [FactSet.ncard_pairs, capacity_eq]
  exact Nat.add_le_add_left bound _

variable [Patterns]

theorem ncard_stage_le (n : Nat) : (w.stage symbols n).ncard ≤ w.capacity :=
  (Set.ncard_le_ncard (stored_or_suits n) (card_makable w).1).trans (card_makable w).2

/-- As long as every step finds something, there are at least as many entries as steps. -/
theorem le_ncard_stage {n : Nat} (grows : w.stage symbols (n + 1) ≠ w.stage symbols n) :
    w.facts.size + n < (w.stage symbols (n + 1)).ncard := by
  have finite (n : Nat) : (w.stage symbols n).Finite :=
    (card_makable w).1.subset (stored_or_suits n)
  have larger {n : Nat} (grows : w.stage symbols (n + 1) ≠ w.stage symbols n) :
      (w.stage symbols n).ncard < (w.stage symbols (n + 1)).ncard :=
    Set.ncard_lt_ncard ((stage_subset_succ n).ssubset_of_ne grows.symm) (finite _)
  induction n with
  | zero =>
    have := larger grows
    rwa [show w.stage symbols 0 = w.facts.pairs from rfl, FactSet.ncard_pairs] at this
  | succ n ih =>
    have before : w.stage symbols (n + 1) ≠ w.stage symbols n := fun same =>
      grows ((stage_fixed same (by omega)).trans (stage_fixed same (by omega)).symm)
    have := ih before
    have := larger grows
    omega

/-- Limits beyond the capacity leave room for every step. -/
theorem room_of_capacity {limits : RunLimits} (facts : w.capacity < limits.maxFacts)
    (iterations : w.capacity < limits.maxIterations) : w.Room symbols limits := by
  intro n grows
  have most : (w.stage symbols (n + 1)).ncard ≤ w.capacity := ncard_stage_le _
  have least := le_ncard_stage grows
  omega

end World

/-- A run stores nothing but what is put together from the blocks and terms that were there, within
the capacity; so does the least closed set, which is therefore finite. Within limits beyond the
capacity and without a deadline a run ends well or at a fault. -/
theorem World.run_within_capacity [Patterns] (w : World) (symbols : Symbols) :
    (∀ limits deadline, ∀ e ∈ (w.run symbols limits deadline).2.facts.toList,
      w.Familiar e.pair) ∧
    (w.least symbols).Finite ∧ (w.least symbols).ncard ≤ w.capacity ∧
    ∀ limits : RunLimits, w.capacity + 1 ≤ limits.maxFacts →
      w.capacity + 1 ≤ limits.maxIterations →
      (w.run symbols limits .never).1 = .ok () ∨
        ∃ error, (w.run symbols limits .never).1 = .error (.execution error) := by
  have inside : w.least symbols ⊆ w.facts.pairs ∪ {p | ∃ e ∈ w.rules, w.Suits e p} := by
    intro p hp
    obtain ⟨n, hn⟩ := mem_least_iff_stage.1 hp
    exact stored_or_suits n hn
  obtain ⟨finite, bound⟩ := card_makable w
  refine ⟨fun limits deadline e he => ?_, finite.subset inside,
    (Set.ncard_le_ncard inside finite).trans bound, fun limits facts iterations => ?_⟩
  · obtain ⟨n, stage⟩ := (run_ends w symbols limits deadline).exists_stage
    exact familiar_of_stage (stage.subset (FactSet.mem_pairs.2 he))
  · have room : w.Room symbols limits := room_of_capacity facts iterations
    have ends := run_ends w symbols limits .never
    generalize w.run symbols limits .never = ended at ends
    obtain ⟨result, final⟩ := ended
    cases ends with
    | timeout passed => cases passed
    | fault => exact .inr ⟨_, rfl⟩
    | converged => exact .inl rfl
    | tooManyFacts _ _ _ grows many => exact absurd many (Nat.not_lt.2 (room _ grows).1)
    | tooManyIterations _ _ _ grows many => exact absurd many (Nat.not_le.2 (room _ grows).2)

/-- Two rules of two blocks that each turn a pair round and hand it to the other. -/
theorem World.run_within_capacity_of_exchange :
    let told : Entry := ⟨.singleton (.block 0), ⟨1, [.int 7, .int 8]⟩⟩
    let turn (block : BlockId) (source target : Nat) : RuleEntry :=
      { block, trust := ⟨.ofList [.block 0, .block 1, .authorizer]⟩
        rule := { head := ⟨target, [.var 0, .var 1]⟩, body := [⟨source, [.var 1, .var 0]⟩]
                  expressions := [], scopes := [] } }
    let w := ((World.empty.addFact told).addRule (turn (.block 0) 1 2)).addRule
      (turn (.block 1) 2 1)
    let limits : RunLimits := { maxFacts := 34, maxIterations := 34 }
    w.capacity = 33 ∧ (w.run .empty limits .never).2.facts.size = 4 ∧
      ((w.run .empty limits .never).1 = .ok () ∨
        ∃ error, (w.run .empty limits .never).1 = .error (.execution error)) := by
  intro told turn w limits
  have full : w.capacity = 33 := by decide +kernel
  refine ⟨full, by decide +kernel, ?_⟩
  exact (run_within_capacity w .empty).2.2.2 limits (by rw [full]) (by rw [full])

end Warrant
