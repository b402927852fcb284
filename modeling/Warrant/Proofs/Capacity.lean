import Warrant.Regex.Pattern
import Warrant.Proofs.Hearing
import Warrant.Proofs.Naive

/-! How the limit on facts binds a decision.
A pass that adds nothing ends a run, however many facts are stored; only a pass that adds something
is held to the limit. So the limit is kept by a decision exactly when it was kept before the
evaluation began. What a run has stored when it reaches the limit stays stored: the same evaluation
once more reaches it again only if there is still something to derive, and decides otherwise. -/

namespace Warrant

open Provenance

namespace World

variable [Patterns] {w : World} {symbols : Symbols} {limits : RunLimits} {deadline : Deadline}

/-- A complete run either adds nothing or keeps to the limit. -/
theorem size_run_le_iff (h : (w.run symbols limits deadline).1 = .ok ()) :
    (w.run symbols limits deadline).2.facts.size ≤ limits.maxFacts ↔
      w.facts.size ≤ limits.maxFacts := by
  have ends := run_ends w symbols limits deadline
  generalize w.run symbols limits deadline = ended at ends h
  obtain ⟨result, final⟩ := ended
  cases h
  have more : w.facts.size ≤ final.facts.size := by
    rw [← FactSet.ncard_pairs, ← FactSet.ncard_pairs]
    exact Set.ncard_le_ncard ends.facts_subset (FactSet.pairs_finite _)
  refine ⟨more.trans, fun kept => ?_⟩
  cases ends with
  | @converged v _ reached sound fixed =>
    change v.facts.size ≤ limits.maxFacts
    rw [← FactSet.ncard_pairs, reached.pairs]
    cases count : v.iterations with
    | zero =>
      change w.facts.pairs.ncard ≤ limits.maxFacts
      rwa [FactSet.ncard_pairs]
    | succ n => exact (reached.room n (by omega)).1

/-- A run that reaches the limit has time left, and has stored more than the limit allows. -/
theorem stopped_of_run (h : (w.run symbols limits deadline).1 = .error (.limit .tooManyFacts)) :
    deadline = .never ∧ (w.run symbols limits deadline).2.phase = .stopped .tooManyFacts ∧
      limits.maxFacts < (w.run symbols limits deadline).2.facts.size := by
  have ends := run_ends w symbols limits deadline
  generalize w.run symbols limits deadline = ended at ends h
  obtain ⟨result, final⟩ := ended
  cases h
  cases ends with
  | tooManyFacts never _ pairs _ many =>
    refine ⟨never, rfl, ?_⟩
    rwa [← FactSet.ncard_pairs, pairs]

/-- Whether the rules derive nothing that is not stored. -/
def Closed (symbols : Symbols) (w : World) : Prop :=
  consequences (w.clauses symbols) w.facts.pairs ⊆ w.facts.pairs

/-- A run that starts above the limit ends with its first pass: at a fault, or because there is
nothing to add, or at the limit. -/
theorem run_of_maxFacts_lt (above : limits.maxFacts < w.facts.size) :
    (w.run symbols limits .never).1 = .error (.limit .tooManyFacts) ↔
      ¬ w.Faulty symbols w.facts.pairs ∧ ¬ w.Closed symbols := by
  have never : ¬ Deadline.never = .passed := nofun
  let start : World := { w with iterations := 0 }
  rw [run_eq_naiveRun, naiveRun, naiveLoop, if_neg never]
  rcases start.pass_all_cases symbols with ⟨fault, run⟩ | ⟨sound, derived, run⟩
  · have fault : w.Faulty symbols w.facts.pairs := fault
    simp [start, run, fault]
  · have sound : ¬ w.Faulty symbols w.facts.pairs := sound
    have same : (start.grow derived).facts.size = w.facts.size ↔ w.Closed symbols := by
      rw [size_grow_eq_iff start derived, pairs_grow_all run, Set.union_eq_left]
      rfl
    have more : w.facts.size ≤ (start.grow derived).facts.size := size_le_size_grow start derived
    have many : limits.maxFacts < (start.grow derived).facts.size := by omega
    by_cases closed : w.Closed symbols
    · simp [start, run, same.2 closed, closed]
    · simp [start, run, mt same.1 closed, many, sound, closed]

end World

/-- No query reaches the limit on facts, as none stores any. -/
theorem World.hasMatch_ne_tooManyFacts [Patterns] (w : World) (r : Rule Nat Nat) (trust : Trust)
    (symbols : Symbols) (deadline : Deadline) :
    w.hasMatch r trust symbols deadline ≠ .error (.limit .tooManyFacts) := by
  have never : w.hasMatch r trust symbols .never ≠ .error (.limit .tooManyFacts) := by
    rw [World.hasMatch_eq_ask, ask]
    split
    · simp
    · split <;> simp
  cases deadline with
  | never => exact never
  | passed =>
    rw [World.hasMatch_passed]
    split
    · simp
    · exact never

namespace Authorizer

variable {a : Authorizer} {limits : RunLimits}

theorem size_saturate_le_iff [Patterns] (h : (a.saturate limits).1 = .ok ()) :
    (a.saturate limits).2.world.facts.size ≤ limits.maxFacts ↔
      a.world.facts.size ≤ limits.maxFacts := by
  rw [saturate_eq_begun] at h ⊢
  rw [← begun_facts a]
  split at h
  · rename_i converged
    rw [if_pos converged]
  · rename_i idle
    rw [if_neg idle]
    exact World.size_run_le_iff h

theorem saturate_of_decided [Patterns] {d : Option MatchedPolicy × List FailedCheck}
    (h : decided? (a.authorize limits).1 = some d) : (a.saturate limits).1 = .ok () := by
  rw [authorize_eq_evaluate] at h
  have complete : ∀ e, (a.evaluate limits (concluded limits)).1 ≠ .error (.evaluation e) := by
    intro e same
    rw [same] at h
    cases h
  exact saturate_of_evaluate complete

/-- What is asked over a world does not reach the limit, as nothing is stored. -/
theorem concluded_ne_tooManyFacts [Patterns] (b : Authorizer) :
    (concluded limits b).1 ≠ .error (.evaluation (.limit .tooManyFacts)) := by
  intro h
  rw [concluded, conclude_eq] at h
  generalize ruled : Hearing.ruling _ _ = ruling at h
  cases ruling with
  | error e =>
    cases h
    obtain ⟨trust, q, -, fault⟩ := Hearing.ruling_error ruled
    exact World.hasMatch_ne_tooManyFacts _ _ _ _ _ fault
  | ok r =>
    have decided := decided?_result b.heard.2.symbols r
    have h : r.result b.heard.2.symbols = .error (.evaluation (.limit .tooManyFacts)) := h
    rw [h] at decided
    cases decided

theorem authorize_eq_tooManyFacts_iff [Patterns] :
    (a.authorize limits).1 = .error (.evaluation (.limit .tooManyFacts)) ↔
      (a.saturate limits).1 = .error (.limit .tooManyFacts) := by
  rw [authorize_eq_evaluate, evaluate]
  generalize a.saturate limits = ended
  obtain ⟨result, b⟩ := ended
  cases result with
  | error e => simp
  | ok => simpa using concluded_ne_tooManyFacts b

theorem run_of_tooManyFacts [Patterns] (h : (a.saturate limits).1 = .error (.limit .tooManyFacts)) :
    limits.deadline = .never ∧ (a.saturate limits).2.world.phase = .stopped .tooManyFacts ∧
      limits.maxFacts < (a.saturate limits).2.world.facts.size := by
  rw [saturate_eq_begun] at h ⊢
  split at h
  · cases h
  · rename_i idle
    rw [if_neg idle]
    exact World.stopped_of_run h

/-- How the limit on facts binds decisions. A decision keeps to the limit exactly when the facts
stored before it did. Where an evaluation has reached the limit, more facts are stored than it
allows; the same call then reaches it again exactly when no rule is at fault and there is still
something to derive. And a complete run of a world keeps to the limit exactly when the world did
before. -/
theorem decision_within_limit_iff [Patterns] (a : Authorizer) (limits : RunLimits) :
    (∀ d, decided? (a.authorize limits).1 = some d →
      ((a.authorize limits).2.world.facts.size ≤ limits.maxFacts ↔
        a.world.facts.size ≤ limits.maxFacts)) ∧
    ((a.authorize limits).1 = .error (.evaluation (.limit .tooManyFacts)) →
      let b := (a.authorize limits).2
      limits.maxFacts < b.world.facts.size ∧
        ((b.authorize limits).1 = .error (.evaluation (.limit .tooManyFacts)) ↔
          ¬ b.begun.Faulty b.ready.symbols b.begun.facts.pairs ∧
            ¬ b.begun.Closed b.ready.symbols)) ∧
    ∀ (w : World) (symbols : Symbols) (deadline : Deadline),
      (w.run symbols limits deadline).1 = .ok () →
        ((w.run symbols limits deadline).2.facts.size ≤ limits.maxFacts ↔
          w.facts.size ≤ limits.maxFacts) := by
  refine ⟨fun d decided => ?_, fun reached => ?_, fun w symbols deadline => World.size_run_le_iff⟩
  · rw [authorize_world]
    exact size_saturate_le_iff (saturate_of_decided decided)
  · obtain ⟨never, stopped, above⟩ := run_of_tooManyFacts (authorize_eq_tooManyFacts_iff.1 reached)
    rw [← authorize_world] at stopped above
    intro b
    refine ⟨above, ?_⟩
    have idle : ¬ b.begun.phase = .converged := by
      intro converged
      have same := (begun_of_converged converged).2
      rw [same] at converged
      cases converged.symm.trans stopped
    have above : limits.maxFacts < b.begun.facts.size := by
      rw [begun_facts]
      exact above
    rw [authorize_eq_tooManyFacts_iff, saturate_eq_begun, if_neg idle, never]
    exact World.run_of_maxFacts_lt above

/-- A request with one fact and a rule that derives another, with room for both and with room for
one. -/
theorem decision_within_limit_of_request :
    let member : Rule String PublicKey :=
      { head := ⟨"member", [.var "f"]⟩, body := [⟨"right", [.var "f"]⟩], expressions := []
        scopes := [] }
    let cs : List Call := [.fact ⟨"right", [.str "one"]⟩, .rule member,
      .policy (.ofBody .allow [⟨"member", [.str "one"]⟩])]
    let a := (ofLimits {}).calls cs
    (a.authorize {}).1 = .ok 0 ∧ (a.authorize {}).2.world.facts.size ≤ 1000 ∧
      (a.authorize { maxFacts := 1 }).1 = .error (.evaluation (.limit .tooManyFacts)) ∧
      1 < (a.authorize { maxFacts := 1 }).2.world.facts.size := by
  intro member cs a
  have allowed : (a.authorize {}).1 = .ok 0 := by decide +kernel
  have reached :
      (a.authorize { maxFacts := 1 }).1 = .error (.evaluation (.limit .tooManyFacts)) := by
    decide +kernel
  refine ⟨allowed, ?_, reached, ?_⟩
  · have decided : decided? (a.authorize {}).1 = some (some (.allow 0), []) := by
      rw [allowed]
      rfl
    exact ((decision_within_limit_iff a {}).1 _ decided).2 (by decide +kernel)
  · exact ((decision_within_limit_iff a { maxFacts := 1 }).2.1 reached).1

/-- With room for one, the same call a second time allows the request over two. A world without
rules takes no notice of the limit. -/
theorem decision_beyond_limit :
    let member : Rule String PublicKey :=
      { head := ⟨"member", [.var "f"]⟩, body := [⟨"right", [.var "f"]⟩], expressions := []
        scopes := [] }
    let cs : List Call := [.fact ⟨"right", [.str "one"]⟩, .rule member,
      .policy (.ofBody .allow [⟨"member", [.str "one"]⟩])]
    let a := (ofLimits {}).calls cs
    let b := (a.authorize { maxFacts := 1 }).2
    let w := (World.empty.addFact ⟨.singleton .authorizer, ⟨1, [.int 1]⟩⟩).addFact
      ⟨.singleton .authorizer, ⟨1, [.int 2]⟩⟩
    (a.authorize { maxFacts := 1 }).1 = .error (.evaluation (.limit .tooManyFacts)) ∧
      (b.authorize { maxFacts := 1 }).1 = .ok 0 ∧
      1 < (b.authorize { maxFacts := 1 }).2.world.facts.size ∧
      (w.run .empty { maxFacts := 1 } .never).1 = .ok () ∧
      1 < (w.run .empty { maxFacts := 1 } .never).2.facts.size := by
  refine ⟨?_, ?_, ?_, ?_, ?_⟩
  · decide +kernel
  · decide +kernel
  · decide +kernel
  · decide +kernel
  · decide +kernel

end Authorizer

end Warrant
