import Warrant.Regex.Pattern
import Warrant.Proofs.Saturation

/-! What blocks outside a set can do to it.
Two worlds that agree on the facts and rules of some blocks, whatever else they hold, agree after
complete runs on all that depends on these blocks alone, and on the answer to every query that
trusts no others. -/

namespace Warrant.World

open Provenance

/-- Agreement on what is stored and declared within some blocks. -/
structure AgreeOn (blocks : Set BlockId) (w v : World) : Prop where
  facts : within blocks w.facts.pairs = within blocks v.facts.pairs
  rules : ∀ e : RuleEntry, e.block ∈ blocks → (e ∈ w.rules ↔ e ∈ v.rules)

variable {blocks : Set BlockId} {w v : World} {symbols : Symbols}

theorem AgreeOn.declaredIn_clauses [Patterns] (agree : AgreeOn blocks w v) :
    declaredIn blocks (w.clauses symbols) = declaredIn blocks (v.clauses symbols) := by
  ext c
  constructor
  · rintro ⟨⟨e, he, rfl⟩, inside⟩
    exact ⟨⟨e, (agree.rules e inside).1 he, rfl⟩, inside⟩
  · rintro ⟨⟨e, he, rfl⟩, inside⟩
    exact ⟨⟨e, (agree.rules e inside).2 he, rfl⟩, inside⟩

theorem AgreeOn.within_least [Patterns] (agree : AgreeOn blocks w v) :
    within blocks (w.least symbols) = within blocks (v.least symbols) := by
  rw [least, least, least_within, least_within, agree.declaredIn_clauses, agree.facts]

section Answers

variable {trust : Trust}

theorem hasMatch_congr [Patterns] (inside : ∀ b ∈ trust.blocks, b ∈ blocks)
    (same : within blocks w.facts.pairs = within blocks v.facts.pairs) (r : Rule Nat Nat)
    (symbols : Symbols) (deadline : Deadline) :
    w.hasMatch r trust symbols deadline = v.hasMatch r trust symbols deadline := by
  have never : w.hasMatch r trust symbols .never = v.hasMatch r trust symbols .never := by
    have may (used : List (Origin × Fact Nat)) :
        MayUse trust w.facts.pairs used ↔ MayUse trust v.facts.pairs used := by
      rw [← mayUse_within inside, same, mayUse_within inside]
    simp only [hasMatch_eq_ask, may]
  cases deadline with
  | never => exact never
  | passed =>
    have seen (p : Origin × Fact Nat) (readable : trust.reads p.1) :
        p ∈ w.facts.pairs ↔ p ∈ v.facts.pairs := by
      rw [← mem_within_of_reads inside readable, same, mem_within_of_reads inside readable]
    have looks : r.Looks trust w.facts.pairs = r.Looks trust v.facts.pairs := by
      refine propext (exists_congr fun atom => and_congr_right fun _ => exists_congr fun p => ?_)
      constructor
      · rintro ⟨h, shape, readable⟩
        exact ⟨(seen p readable).1 h, shape, readable⟩
      · rintro ⟨h, shape, readable⟩
        exact ⟨(seen p readable).2 h, shape, readable⟩
    rw [hasMatch_passed, hasMatch_passed, looks, never]

end Answers

/-- Complete runs from worlds that agree on some blocks store the same facts that depend on these
alone, and afterwards no query that trusts them alone can tell the worlds apart. -/
theorem agree_after_runs [Patterns] {w v : World} {symbols : Symbols} {limits others : RunLimits}
    (agree : AgreeOn blocks w v) (first : (w.run symbols limits .never).1 = .ok ())
    (second : (v.run symbols others .never).1 = .ok ()) :
    let ended := (w.run symbols limits .never).2
    let twin := (v.run symbols others .never).2
    within blocks ended.facts.pairs = within blocks twin.facts.pairs ∧
      ∀ (r : Rule Nat Nat) (trust : Trust) (deadline : Deadline),
        (∀ b ∈ trust.blocks, b ∈ blocks) →
          ended.hasMatch r trust symbols deadline = twin.hasMatch r trust symbols deadline := by
  intro ended twin
  have same : within blocks ended.facts.pairs = within blocks twin.facts.pairs := by
    rw [facts_of_run first, facts_of_run second, agree.within_least]
  exact ⟨same, fun r trust deadline inside => hasMatch_congr inside same r symbols deadline⟩

/-- A later block with a fact and a rule that reads the first block, seen from the first. -/
theorem agree_after_appended_block :
    let shared : Entry := ⟨.singleton (.block 0), ⟨1, [.int 7]⟩⟩
    let added : Entry := ⟨.singleton (.block 1), ⟨1, [.int 8]⟩⟩
    let rule : RuleEntry :=
      { block := .block 1, trust := ⟨.ofList [.block 0, .block 1]⟩
        rule :=
          { head := ⟨2, [.var 0]⟩, body := [⟨1, [.var 0]⟩], expressions := [], scopes := [] } }
    let w := World.empty.addFact shared
    let v := ((World.empty.addFact shared).addFact added).addRule rule
    let blocks : Set BlockId := {.block 0, .authorizer}
    AgreeOn blocks w v ∧ (w.run .empty {} .never).1 = .ok () ∧ (v.run .empty {} .never).1 = .ok () ∧
      within blocks (w.run .empty {} .never).2.facts.pairs =
        within blocks (v.run .empty {} .never).2.facts.pairs := by
  intro shared added rule w v blocks
  have agree : AgreeOn blocks w v := by
    refine ⟨Set.ext fun p => ?_, fun e inside => ?_⟩
    · rw [mem_within, mem_within, and_congr_left_iff]
      intro inside
      have pairs : p ∈ v.facts.pairs ↔ p ∈ w.facts.pairs ∨ added.pair = p :=
        FactSet.mem_pairs_insert
      rw [pairs, or_iff_left]
      rintro rfl
      have outside := inside (.block 1) (OrderedSet.mem_singleton.2 rfl)
      rcases outside with same | same <;> cases same
    · have declared : e ∈ v.rules → e = rule := List.mem_singleton.1
      refine ⟨nofun, fun h => ?_⟩
      cases declared h
      rcases inside with same | same <;> cases same
  have first : (w.run .empty {} .never).1 = .ok () := by decide +kernel
  have second : (v.run .empty {} .never).1 = .ok () := by decide +kernel
  exact ⟨agree, first, second, (agree_after_runs agree first second).1⟩

end Warrant.World
