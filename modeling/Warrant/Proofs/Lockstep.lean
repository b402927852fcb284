import Warrant.Proofs.Naive
import Warrant.Proofs.Program

/-! Runs of one program under different ids.
Two worlds may hold the same program, each with a table of its own and its facts and rules in an
order of their own. Pass by pass they then store the same number of entries and hold the same
program again, or both are at fault. So their runs come to the same end: both to a complete one, or
both to the same limit or to a fault. Passes over everything are compared, as which facts a later
pass looks for depends on their order. -/

namespace Warrant

open Provenance

namespace Program

/-- The program with the consequences of its facts. -/
def next [Patterns] (p : Program) : Program :=
  { p with facts := p.facts ∪ consequences p.clauses p.facts }

end Program

namespace World.Reads

variable {u t : Symbols} {w v : World} {p : Program}

theorem size_eq (h : w.Reads u p) (sound : u.Sound) : w.facts.size = p.facts.ncard :=
  (FactSet.ncard_pairs w.facts).symm.trans (h.facts.ncard_eq (names_biUnique sound))

variable [Patterns]

/-- After a pass the world holds the program with its consequences. -/
theorem grow (h : w.Reads u p) (sound : u.Sound) {derived : List Entry}
    (run : w.pass u none .never = .ok derived) : (w.grow derived).Reads u p.next := by
  refine ⟨?_, h.forth, h.back⟩
  rw [pairs_grow_all run]
  exact h.facts.union (h.facts.consequences (h.clauses_forth sound) (h.clauses_back sound))

variable {limits : RunLimits} (left : u.Sound) (right : t.Sound)

include left right

/-- One pass of both worlds: both are at fault, -/
theorem pass_error (h : w.Reads u p) (k : v.Reads t p) {e : EvaluationError}
    (run : w.pass u none .never = .error e) : v.pass t none .never = .error e := by
  have same : w.Faulty u w.facts.pairs ↔ v.Faulty t v.facts.pairs :=
    (h.faulty_on_iff left h.facts).trans (k.faulty_on_iff right k.facts).symm
  obtain ⟨rfl, fault⟩ := fault_of_pass run
  rcases v.pass_all_cases t with ⟨-, run'⟩ | ⟨sound, -⟩
  · exact run'
  · exact absurd (same.1 fault) sound

/-- or both store the same number of entries and hold the same program again. -/
theorem pass_ok (h : w.Reads u p) (k : v.Reads t p) {derived : List Entry}
    (run : w.pass u none .never = .ok derived) : ∃ others, v.pass t none .never = .ok others ∧
      (v.grow others).Reads t p.next ∧ v.facts.size = w.facts.size ∧
      (v.grow others).facts.size = (w.grow derived).facts.size := by
  cases run' : v.pass t none .never with
  | error e =>
    have both := pass_error right left k h run'
    cases run.symm.trans both
  | ok others =>
    have grown := h.grow left run
    have grown' := k.grow right run'
    refine ⟨others, rfl, grown', ?_, ?_⟩
    · rw [k.size_eq right, h.size_eq left]
    · rw [grown'.size_eq right, grown.size_eq left]

/-- The induction is on the passes that are left to one of the worlds; before each, both hold the
same program and have counted the same passes. -/
theorem naiveLoop_congr (w : World) : ∀ (v : World) (p : Program), w.Reads u p → v.Reads t p →
    v.iterations = w.iterations →
    (naiveLoop u limits .never w).1 = (naiveLoop t limits .never v).1 := by
  have never : ¬ Deadline.never = .passed := nofun
  induction w using naiveLoop.induct_unfolding u limits .never with
  | case1 w _ passed => cases passed
  | case2 w _ _ error run =>
    intro v p h k count
    rw [naiveLoop, if_neg never, pass_error left right h k run]
  | case3 w _ derived run grown same =>
    intro v p h k count
    obtain ⟨others, run', -, before, after⟩ := pass_ok left right h k run
    rw [naiveLoop, if_neg never, run']
    simp only [after, before]
    rw [if_pos same]
  | case4 w _ _ derived run grown other many =>
    intro v p h k count
    obtain ⟨others, run', -, before, after⟩ := pass_ok left right h k run
    rw [naiveLoop, if_neg never, run']
    simp only [after, before]
    rw [if_neg other, if_pos many]
  | case5 w _ _ derived run grown other few many =>
    intro v p h k count
    obtain ⟨others, run', -, before, after⟩ := pass_ok left right h k run
    have count : (v.grow others).iterations = (w.grow derived).iterations := congrArg (· + 1) count
    rw [naiveLoop, if_neg never, run']
    simp only [after, before, count]
    rw [if_neg other, if_neg few, if_pos many]
  | case6 w _ derived run grown other few more ih =>
    intro v p h k count
    obtain ⟨others, run', next, before, after⟩ := pass_ok left right h k run
    have count : (v.grow others).iterations = (w.grow derived).iterations := congrArg (· + 1) count
    rw [ih (v.grow others) p.next (h.grow left run) next count]
    conv_rhs => rw [naiveLoop, if_neg never, run']
    simp only [after, before, count]
    rw [if_neg other, if_neg few, if_neg more]

/-- Runs of one program come to the same end. -/
theorem run_fst_congr (h : w.Reads u p) (k : v.Reads t p) :
    (w.run u limits .never).1 = (v.run t limits .never).1 := by
  rw [run_eq_naiveRun, run_eq_naiveRun]
  have start : ({ w with iterations := 0 } : World).Reads u p := { h with }
  have start' : ({ v with iterations := 0 } : World).Reads t p := { k with }
  exact naiveLoop_congr left right _ _ p start start' rfl

end World.Reads

end Warrant
