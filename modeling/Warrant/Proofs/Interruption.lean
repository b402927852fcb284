import Warrant.Proofs.Hearing

/-! What limits do to an answer.
An evaluation within limits takes the steps that it takes without them, up to the place where a
limit ends it, and it ends there with the limit as its result. So whatever is answered within
limits is the answer itself, or that a limit was reached (`Cuts`). That holds of the join, which
looks at the deadline with every fact it takes up, and is kept by everything built on it; a run
either ends at a limit or goes through the same passes under any limits. -/

namespace Warrant

/-- `x` is what `y` is, unless a limit came in between. -/
def Cuts {α : Type} (x y : Except EvaluationError α) : Prop :=
  (∃ limit, x = .error (.limit limit)) ∨ x = y

/-- Whether an answer is that a limit was reached. -/
def Limited {α : Type} (x : Except AuthorizerError α) : Prop :=
  ∃ limit, x = .error (.evaluation (.limit limit))

instance {α : Type} : DecidablePred (Limited (α := α))
  | .error (.evaluation (.limit l)) => .isTrue ⟨l, rfl⟩
  | .error (.evaluation (.execution _)) => .isFalse nofun
  | .error (.refused _) => .isFalse nofun
  | .error (.statement _) => .isFalse nofun
  | .error (.format _) => .isFalse nofun
  | .error .notEmpty => .isFalse nofun
  | .ok _ => .isFalse nofun

namespace Cuts

variable {α β γ σ κ : Type} {x y : Except EvaluationError α} {l : List α}

theorem refl (x : Except EvaluationError α) : Cuts x x := .inr rfl

theorem bind {f g : α → Except EvaluationError β} (h : Cuts x y) (k : ∀ a, Cuts (f a) (g a)) :
    Cuts (x >>= f) (y >>= g) := by
  rcases h with ⟨limit, rfl⟩ | rfl
  · exact .inl ⟨limit, rfl⟩
  · cases x with
    | error e => exact .inr rfl
    | ok a => exact k a

theorem map (f : α → β) (h : Cuts x y) : Cuts (x.map f) (y.map f) := by
  rcases h with ⟨limit, rfl⟩ | rfl
  · exact .inl ⟨limit, rfl⟩
  · exact .inr rfl

theorem firstKept {keep kept : α → Except EvaluationError Bool}
    (h : ∀ a ∈ l, Cuts (keep a) (kept a)) :
    Cuts (Rule.firstKept keep l) (Rule.firstKept kept l) := by
  induction l with
  | nil => exact refl _
  | cons a rest ih =>
    refine (h a (List.mem_cons_self ..)).bind fun found => ?_
    cases found with
    | true => exact refl _
    | false => exact ih fun b hb => h b (List.mem_cons_of_mem _ hb)

theorem allKept {keep kept : α → Except EvaluationError Bool}
    (h : ∀ a ∈ l, Cuts (keep a) (kept a)) : Cuts (Rule.allKept keep l) (Rule.allKept kept l) := by
  induction l with
  | nil => exact refl _
  | cons a rest ih =>
    have later := ih fun b hb => h b (List.mem_cons_of_mem _ hb)
    exact (h a (List.mem_cons_self ..)).bind fun _ => later.bind fun _ => refl _

theorem firstOf {matched found : α → Except EvaluationError Bool}
    (h : ∀ a ∈ l, Cuts (matched a) (found a)) :
    Cuts (Warrant.firstOf matched l) (Warrant.firstOf found l) := by
  induction l with
  | nil => exact refl _
  | cons a rest ih =>
    refine (h a (List.mem_cons_self ..)).bind fun there => ?_
    cases there with
    | true => exact refl _
    | false => exact ih fun b hb => h b (List.mem_cons_of_mem _ hb)

theorem passes {ask answer : Rule σ κ → Except EvaluationError Bool} (c : Check σ κ)
    (h : ∀ q, Cuts (ask q) (answer q)) : Cuts (c.passes ask) (c.passes answer) := by
  unfold Check.passes
  cases c.kind with
  | one => exact firstKept fun q _ => h q
  | all => exact (firstKept fun q _ => (h q).map not).map not
  | reject => exact (firstKept fun q _ => h q).map not

theorem ruling {ask answer : Trust → Rule σ κ → Except EvaluationError Bool} (heard : Hearing σ κ)
    (h : ∀ trust q, Cuts (ask trust q) (answer trust q)) :
    Cuts (heard.ruling ask) (heard.ruling answer) := by
  have checks := allKept (l := heard.checks) fun c _ =>
    (passes c.check fun q => h (c.trust q) q).map not
  have policies := firstOf (l := heard.policies.zipIdx) fun p _ =>
    firstKept (l := p.1.queries) fun q _ => h (heard.trust q) q
  exact checks.bind fun _ => policies.bind fun _ => refl _

/-- What is made of an answer is made of it within limits, or a limit was reached. -/
theorem limited_or_eq (h : Cuts x y) (f : α → Except AuthorizerError β) :
    Limited (x.mapError .evaluation >>= f) ∨
      x.mapError AuthorizerError.evaluation >>= f = y.mapError .evaluation >>= f := by
  rcases h with ⟨limit, rfl⟩ | rfl
  · exact .inl ⟨limit, rfl⟩
  · exact .inr rfl

end Cuts

/-! Queries. -/

/-- A deadline that has passed ends the walk at the first fact that is taken up; where there is
none it is not looked at. -/
theorem Join.walk_passed (j : Join) (atoms : List (Atom Nat)) (a : Assignment) (origin : Origin)
    (used : Bool) : { j with deadline := .passed }.walk atoms a origin used = .error .timeout ∨
      { j with deadline := .passed }.walk atoms a origin used =
        { j with deadline := .never }.walk atoms a origin used := by
  cases atoms with
  | nil => exact .inr rfl
  | cons atom rest =>
    simp only [walk]
    cases j.facts.candidates atom j.trust with
    | nil => exact .inr rfl
    | cons first others => exact .inl rfl

theorem Rule.candidates_cuts (r : Rule Nat Nat) (j : Join) (deadline : Deadline) :
    Cuts (r.candidates { j with deadline }) (r.candidates { j with deadline := .never }) := by
  cases deadline with
  | never => exact .refl _
  | passed =>
    unfold candidates Join.matchesOf
    rcases j.walk_passed r.body { declared := bodyVars r.body } .empty false with timeout | same
    · rw [timeout]
      exact .inl ⟨.timeout, rfl⟩
    · exact .inr (congrArg _ same)

namespace World

variable [Patterns] (w : World) (r : Rule Nat Nat) (trust : Trust) (symbols : Symbols)

theorem hasMatch_cuts (deadline : Deadline) :
    Cuts (w.hasMatch r trust symbols deadline) (w.hasMatch r trust symbols .never) :=
  (r.candidates_cuts { facts := w.facts, trust } deadline).bind fun _ => .refl _

theorem query_cuts (block : BlockId) (deadline : Deadline) :
    Cuts (w.query r block trust symbols deadline) (w.query r block trust symbols .never) := by
  have found : Cuts (r.apply block symbols { facts := w.facts, trust, deadline })
      (r.apply block symbols { facts := w.facts, trust, deadline := .never }) :=
    (r.candidates_cuts { facts := w.facts, trust } deadline).bind fun _ => .refl _
  exact found.map _

/-! Runs. -/

/-- Two loops from the same place go on together until a limit ends one of them. The induction is
on the passes of the first. -/
theorem loop_limited_or_eq (l k : RunLimits) (since : Option Nat) :
    (∃ limit, (loop symbols l .never since w).1 = .error (.limit limit)) ∨
    (∃ limit, (loop symbols k .never since w).1 = .error (.limit limit)) ∨
      loop symbols l .never since w = loop symbols k .never since w := by
  induction since, w using loop.induct_unfolding symbols l .never with
  | case1 since w _ passed => cases passed
  | case2 since w _ other error run =>
    rw [loop, if_neg other, run]
    exact .inr (.inr rfl)
  | case3 since w other derived run grown same =>
    rw [loop, if_neg other, run]
    exact .inr (.inr (if_pos same).symm)
  | case4 since w _ other derived run grown more many => exact .inl ⟨.tooManyFacts, rfl⟩
  | case5 since w _ other derived run grown more few many => exact .inl ⟨.tooManyIterations, rfl⟩
  | case6 since w other derived run grown more few left ih =>
    have next : loop symbols k .never since w =
        if k.maxFacts < grown.facts.size then
          (.error (.limit .tooManyFacts), grown.stop (.limit .tooManyFacts))
        else if k.maxIterations ≤ grown.iterations then
          (.error (.limit .tooManyIterations), grown.stop (.limit .tooManyIterations))
        else loop symbols k .never (some w.facts.size) grown := by
      rw [loop, if_neg other, run]
      exact if_neg more
    rw [next]
    split
    · exact .inr (.inl ⟨.tooManyFacts, rfl⟩)
    · split
      · exact .inr (.inl ⟨.tooManyIterations, rfl⟩)
      · exact ih

theorem run_limited_or_eq (l k : RunLimits) (d e : Deadline) :
    (∃ limit, (w.run symbols l d).1 = .error (.limit limit)) ∨
    (∃ limit, (w.run symbols k e).1 = .error (.limit limit)) ∨
      w.run symbols l d = w.run symbols k e := by
  have timeout (limits : RunLimits) :
      (w.run symbols limits .passed).1 = .error (.limit .timeout) := by
    rw [run, loop, if_pos rfl]
  cases d with
  | passed => exact .inl ⟨.timeout, timeout l⟩
  | never =>
    cases e with
    | passed => exact .inr (.inl ⟨.timeout, timeout k⟩)
    | never => exact loop_limited_or_eq ..

end World

/-! Evaluations. -/

namespace Authorizer

variable (a : Authorizer) (l k : RunLimits)

theorem saturate_limited_or_eq [Patterns] : (∃ limit, (a.saturate l).1 = .error (.limit limit)) ∨
    (∃ limit, (a.saturate k).1 = .error (.limit limit)) ∨ a.saturate l = a.saturate k := by
  unfold saturate
  simp only
  split
  · exact .inr (.inr rfl)
  · rcases World.run_limited_or_eq _ _ l k l.deadline k.deadline with first | second | same
    · exact .inl first
    · exact .inr (.inl second)
    · rw [same]
      exact .inr (.inr rfl)

/-- Two evaluations of the same state that differ in their limits alone. -/
theorem evaluate_limited_or_eq [Patterns] {α : Type}
    {ask : RunLimits → Authorizer → Except AuthorizerError α × Authorizer}
    {answer : Authorizer → Except AuthorizerError α × Authorizer}
    (h : ∀ limits b, Limited (ask limits b).1 ∨ ask limits b = answer b) :
    Limited (a.evaluate l (ask l)).1 ∨ Limited (a.evaluate k (ask k)).1 ∨
      a.evaluate l (ask l) = a.evaluate k (ask k) := by
  unfold evaluate
  rcases a.saturate_limited_or_eq l k with ⟨limit, first⟩ | ⟨limit, second⟩ | same
  · left
    generalize a.saturate l = ended at first
    obtain ⟨result, b⟩ := ended
    cases first
    exact ⟨limit, rfl⟩
  · right; left
    generalize a.saturate k = ended at second
    obtain ⟨result, b⟩ := ended
    cases second
    exact ⟨limit, rfl⟩
  · rw [← same]
    generalize a.saturate l = ended
    obtain ⟨result, b⟩ := ended
    cases result with
    | error e => exact .inr (.inr rfl)
    | ok =>
      rcases h l b with limited | first
      · exact .inl limited
      · rcases h k b with limited | second
        · exact .inr (.inl limited)
        · exact .inr (.inr (first.trans second.symm))

/-- By default no deadline has passed. -/
theorem deadline_default : ({} : RunLimits).deadline = .never := by decide

variable [Patterns]

theorem concluded_limited_or_eq (limits : RunLimits) (b : Authorizer) :
    Limited (concluded limits b).1 ∨ concluded limits b = concluded {} b := by
  unfold concluded
  rw [conclude_eq, conclude_eq, deadline_default]
  have asked := Cuts.ruling (b.heard.2.hears b.heard.1) fun trust q =>
    b.heard.2.world.hasMatch_cuts q trust b.heard.2.symbols limits.deadline
  exact (asked.limited_or_eq (Ruling.result b.heard.2.symbols)).imp_right (congrArg (·, _))

theorem answered_limited_or_eq (r : Rule String PublicKey) (limits : RunLimits) (b : Authorizer) :
    Limited (answered r limits b).1 ∨ answered r limits b = answered r {} b := by
  unfold answered
  rw [deadline_default]
  have found (asking : Authorizer) (rule : Rule Nat Nat) (trust : Trust) :=
    asking.world.query_cuts rule trust asking.symbols .authorizer limits.deadline
  exact ((found _ _ _).limited_or_eq _).imp_right (congrArg (·, _))

/-- Limits replace an answer by an error that says so, and never by another answer: under any two
limits a decision or a query ends at one of them, or ends the same way, and leaves the same state
behind. A deadline that has passed does not turn a match into none. -/
theorem limited_or_same : (Limited (a.authorize l).1 ∨ Limited (a.authorize k).1 ∨
      a.authorize l = a.authorize k) ∧
    (∀ r, Limited (a.query r l).1 ∨ Limited (a.query r k).1 ∨ a.query r l = a.query r k) ∧
    ∀ r trust, a.world.hasMatch r trust a.symbols .passed = .error (.limit .timeout) ∨
      a.world.hasMatch r trust a.symbols .passed = a.world.hasMatch r trust a.symbols .never := by
  refine ⟨?_, fun r => ?_, fun r trust => ?_⟩
  · rw [authorize_eq_evaluate, authorize_eq_evaluate]
    exact a.evaluate_limited_or_eq l k concluded_limited_or_eq
  · cases tested : r.validate with
    | error e =>
      unfold query
      rw [tested]
      exact .inr (.inr rfl)
    | ok =>
      rw [query_eq_evaluate a tested, query_eq_evaluate a tested]
      exact a.evaluate_limited_or_eq l k (answered_limited_or_eq r)
  · rw [World.hasMatch_passed]
    split
    · exact .inl rfl
    · exact .inr rfl

end Authorizer

end Warrant
