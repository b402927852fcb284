import Warrant.Regex.Pattern
import Warrant.Proofs.Saturation

/-! Worlds over time.
A world is built up by facts, rules, wider trust and runs in any order, and a run may end in any
way. What is stored lies at all times between the facts asserted and the least set that the present
rules close; in a world that says it has converged it is that least set. So a run that a limit or a
fault has ended leaves nothing behind that a later run would have to undo or find again. -/

namespace Warrant.World

open Provenance

/-- The worlds that can come about from the empty one, with the facts asserted so far. A rule may
be given a new trust only if that holds whatever the old one did. -/
inductive History [Patterns] (symbols : Symbols) : Set (Origin × Fact Nat) → World → Prop where
  | empty : History symbols ∅ .empty
  | addFact {asserted : Set (Origin × Fact Nat)} {w : World} (entry : Entry)
      (past : History symbols asserted w) :
    History symbols (asserted ∪ {entry.pair}) (w.addFact entry)
  | addRule {asserted : Set (Origin × Fact Nat)} {w : World} (entry : RuleEntry)
      (past : History symbols asserted w) :
    History symbols asserted (w.addRule entry)
  | updateTrust {asserted : Set (Origin × Fact Nat)} {w : World} (block : BlockId)
      (trust : Rule Nat Nat → Trust)
      (wider : ∀ e ∈ w.rules, e.block = block → ∀ b ∈ e.trust.blocks, b ∈ (trust e.rule).blocks)
      (past : History symbols asserted w) :
    History symbols asserted (w.updateTrust block trust)
  | run {asserted : Set (Origin × Fact Nat)} {w : World} (limits : RunLimits)
      (deadline : Deadline) (past : History symbols asserted w) :
    History symbols asserted (w.run symbols limits deadline).2

/-- What holds of a world at any time. -/
structure Faithful [Patterns] (symbols : Symbols) (asserted : Set (Origin × Fact Nat)) (w : World) :
    Prop where
  holds : asserted ⊆ w.facts.pairs
  derived : w.facts.pairs ⊆ Provenance.least (w.clauses symbols) asserted
  complete : w.phase = .converged → w.facts.pairs = Provenance.least (w.clauses symbols) asserted

variable {symbols : Symbols} {asserted : Set (Origin × Fact Nat)} {w : World}

namespace Faithful

variable [Patterns]

theorem addFact (past : w.Faithful symbols asserted) (entry : Entry) :
    (w.addFact entry).Faithful symbols (asserted ∪ {entry.pair}) := by
  have pairs : (w.addFact entry).facts.pairs = w.facts.pairs ∪ {entry.pair} := by
    ext p
    exact FactSet.mem_pairs_insert.trans (or_congr_right eq_comm)
  refine ⟨?_, ?_, nofun⟩
  · rw [pairs]
    exact Set.union_subset_union_left _ past.holds
  · rw [pairs]
    refine Set.union_subset (past.derived.trans ?_) ?_
    · exact least_mono Set.subset_union_left fun _ => Set.Subset.rfl
    · exact Set.subset_union_right.trans asserted_subset_least

theorem addRule (past : w.Faithful symbols asserted) (entry : RuleEntry) :
    (w.addRule entry).Faithful symbols asserted := by
  refine ⟨past.holds, past.derived.trans (least_mono Set.Subset.rfl fun known p h => ?_), nofun⟩
  obtain ⟨e, he, rest⟩ := mem_consequences.1 h
  exact mem_consequences.2 ⟨e, List.mem_append_left _ he, rest⟩

/-- Whatever a rule concludes it still concludes under a wider trust. -/
theorem consequences_updateTrust {block : BlockId} {trust : Rule Nat Nat → Trust}
    (wider : ∀ e ∈ w.rules, e.block = block → ∀ b ∈ e.trust.blocks, b ∈ (trust e.rule).blocks)
    (known : Set (Origin × Fact Nat)) : consequences (w.clauses symbols) known ⊆
      consequences ((w.updateTrust block trust).clauses symbols) known := by
  intro p h
  obtain ⟨e, he, used, may, concludes, tag⟩ := mem_consequences.1 h
  refine mem_consequences.2 ⟨_, List.mem_map_of_mem he, used, ?_, ?_⟩
  · intro u hu
    obtain ⟨there, readable⟩ := may u hu
    refine ⟨there, ?_⟩
    split
    · rename_i same
      exact Trust.reads_iff.2 fun b hb => wider e he same b (Trust.reads_iff.1 readable b hb)
    · exact readable
  · split
    · exact ⟨concludes, tag⟩
    · exact ⟨concludes, tag⟩

theorem updateTrust (past : w.Faithful symbols asserted) {block : BlockId}
    {trust : Rule Nat Nat → Trust}
    (wider : ∀ e ∈ w.rules, e.block = block → ∀ b ∈ e.trust.blocks, b ∈ (trust e.rule).blocks) :
    (w.updateTrust block trust).Faithful symbols asserted := by
  refine ⟨past.holds,
    past.derived.trans (least_mono Set.Subset.rfl (consequences_updateTrust wider)), ?_⟩
  intro converged
  by_cases same : (w.updateTrust block trust).rules = w.rules
  · rw [clauses_congr same]
    refine past.complete ?_
    rw [← converged]
    exact (if_pos same).symm
  · have idle : (w.updateTrust block trust).phase = .idle := if_neg same
    rw [idle] at converged
    cases converged

theorem run (past : w.Faithful symbols asserted) (limits : RunLimits) (deadline : Deadline) :
    (w.run symbols limits deadline).2.Faithful symbols asserted := by
  have ends := run_ends w symbols limits deadline
  generalize w.run symbols limits deadline = ended at ends
  obtain ⟨result, final⟩ := ended
  have least : w.least symbols = Provenance.least (final.clauses symbols) asserted := by
    rw [clauses_congr ends.rules]
    exact least_of_between past.holds past.derived
  exact ⟨past.holds.trans ends.facts_subset, least ▸ ends.subset_least,
    fun converged => least ▸ ends.eq_least converged⟩

end Faithful

/-- At any time the stored facts are asserted or derived ones, among them all that are asserted,
and in a converged world they are all that can be derived. -/
theorem faithful_of_history [Patterns] (past : History symbols asserted w) :
    w.Faithful symbols asserted := by
  induction past with
  | empty => exact ⟨Set.empty_subset _, nofun, nofun⟩
  | addFact entry _ ih => exact ih.addFact entry
  | addRule entry _ ih => exact ih.addRule entry
  | updateTrust block trust wider _ ih => exact ih.updateTrust wider
  | run limits deadline _ ih => exact ih.run limits deadline

/-- A rule that is trusted with the first block only after it came, and a run that has no time
before one that has. -/
theorem faithful_after_interruption :
    let told : Entry := ⟨.singleton (.block 0), ⟨1, [.int 7]⟩⟩
    let rule : RuleEntry :=
      { block := .authorizer, trust := ⟨.singleton .authorizer⟩
        rule :=
          { head := ⟨2, [.var 0]⟩, body := [⟨1, [.var 0]⟩], expressions := [], scopes := [] } }
    let w := ((World.empty.addFact told).addRule rule).updateTrust .authorizer fun _ => .default
    let v := ((w.run .empty {} .passed).2.run .empty {} .never).2
    v.phase = .converged ∧ v.facts.size = 2 ∧ v.Faithful .empty (∅ ∪ {told.pair}) := by
  refine ⟨by decide +kernel, by decide +kernel, faithful_of_history (.run _ _ (.run _ _ ?_))⟩
  refine .updateTrust _ _ ?_ (.addRule _ (.addFact _ .empty))
  intro e he _ b hb
  cases List.mem_singleton.1 he
  exact OrderedSet.mem_ofList.2 (by simp [OrderedSet.mem_singleton.1 hb])

end Warrant.World
