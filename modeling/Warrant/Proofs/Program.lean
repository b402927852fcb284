import Warrant.Proofs.Saturation
import Warrant.Proofs.Translation

/-! Worlds as programs.
A program is what a world holds as people write it: facts with their origins and rules with their
blocks and trust. A world that a table reads as a program goes through the stages that the program
goes through, entry by entry, and answers as the program does. So whether a run comes to its end,
and what it then stores, is told by the program alone. -/

namespace Warrant

open Provenance

/-- A rule as it is written, with its block and what it relies on. -/
structure Declaration where
  block : BlockId
  trust : Trust
  rule : Rule String PublicKey

def Declaration.clause [Patterns] (d : Declaration) : Clause (Fact String) :=
  { block := d.block, trust := d.trust, concludes := d.rule.Derives }

structure Program where
  facts : Set (Origin × Fact String)
  rules : Set Declaration

namespace Program

def clauses [Patterns] (p : Program) : Set (Clause (Fact String)) :=
  {c | ∃ d ∈ p.rules, d.clause = c}

/-- What the rules derive from the facts in so many steps. -/
def stage [Patterns] (p : Program) (n : Nat) : Set (Origin × Fact String) :=
  Provenance.stage p.clauses p.facts n

/-- The least set that holds the facts and is closed under the rules. -/
def least [Patterns] (p : Program) : Set (Origin × Fact String) :=
  Provenance.least p.clauses p.facts

/-- Whether on known facts some rule has an expression that does not come out right. -/
def Faulty [Patterns] (p : Program) (known : Set (Origin × Fact String)) : Prop :=
  ∃ d ∈ p.rules, ∃ used, MayUse d.trust known used ∧ d.rule.Breaks (used.map (·.2))

/-- Whether on what can be derived some rule has an expression that does not come out right. -/
def Broken [Patterns] (p : Program) : Prop :=
  ∃ d ∈ p.rules, ∃ used, MayUse d.trust p.least used ∧ d.rule.Breaks (used.map (·.2))

/-- Whether the limits allow every step that finds something new. -/
def Room [Patterns] (p : Program) (limits : RunLimits) : Prop :=
  ∀ n, p.stage (n + 1) ≠ p.stage n →
    (p.stage (n + 1)).ncard ≤ limits.maxFacts ∧ n + 1 < limits.maxIterations

end Program

/-- The answer to a query over what is known. -/
noncomputable def answer [Patterns] (known : Set (Origin × Fact String)) (trust : Trust)
    (q : Rule String PublicKey) : Except EvaluationError Bool :=
  ask (∃ used, MayUse trust known used ∧ q.Admits (used.map (·.2)))
    (∃ used, MayUse trust known used ∧ q.Breaks (used.map (·.2)))

variable {u : Symbols}

theorem names_biUnique (sound : u.Sound) : Relator.BiUnique (Atom.Names u) :=
  ⟨fun _ _ _ h k => h.inj sound k, fun _ _ _ h k => h.read_eq.symm.trans k.read_eq⟩

theorem Provenance.Corresponds.grows {w : Symbols} (grows : u.Grows w)
    {known : Set (Origin × Fact Nat)} {facts : Set (Origin × Fact String)}
    (h : Corresponds (Atom.Names u) known facts) : Corresponds (Atom.Names w) known facts := by
  constructor
  · intro p hp
    obtain ⟨q, hq, origin, names⟩ := h.forth p hp
    exact ⟨q, hq, origin, names.grows grows⟩
  · intro q hq
    obtain ⟨p, hp, origin, names⟩ := h.back q hq
    exact ⟨p, hp, origin, names.grows grows⟩

/-- The block and the trust of a declaration, and its rule interned. -/
structure RuleEntry.Names (u : Symbols) (e : RuleEntry) (d : Declaration) : Prop where
  block : e.block = d.block
  trust : e.trust = d.trust
  rule : e.rule.Names u d.rule

theorem RuleEntry.Names.matches [Patterns] {e : RuleEntry} {d : Declaration} (h : e.Names u d)
    (sound : u.Sound) : (e.clause u).Matches (Atom.Names u) d.clause where
  block := h.block
  trust := h.trust
  forth _ _ _ given := Rule.derives_of_concludes sound h.rule given
  back _ _ _ given := Rule.concludes_of_derives sound h.rule given

/-- The facts and rules of a world are those of a program. -/
structure World.Reads (u : Symbols) (w : World) (p : Program) : Prop where
  facts : Corresponds (Atom.Names u) w.facts.pairs p.facts
  forth : ∀ e ∈ w.rules, ∃ d ∈ p.rules, e.Names u d
  back : ∀ d ∈ p.rules, ∃ e ∈ w.rules, e.Names u d

namespace World.Reads

variable [Patterns] {w : World} {p : Program}

theorem clauses_forth (h : w.Reads u p) (sound : u.Sound) :
    ∀ c ∈ w.clauses u, ∃ d ∈ p.clauses, c.Matches (Atom.Names u) d := by
  rintro _ ⟨e, he, rfl⟩
  obtain ⟨d, hd, names⟩ := h.forth e he
  exact ⟨d.clause, ⟨d, hd, rfl⟩, names.matches sound⟩

theorem clauses_back (h : w.Reads u p) (sound : u.Sound) :
    ∀ d ∈ p.clauses, ∃ c ∈ w.clauses u, c.Matches (Atom.Names u) d := by
  rintro _ ⟨d, hd, rfl⟩
  obtain ⟨e, he, names⟩ := h.back d hd
  exact ⟨e.clause u, ⟨e, he, rfl⟩, names.matches sound⟩

theorem stage (h : w.Reads u p) (sound : u.Sound) (n : Nat) :
    Corresponds (Atom.Names u) (w.stage u n) (p.stage n) :=
  h.facts.stage (h.clauses_forth sound) (h.clauses_back sound) n

theorem least (h : w.Reads u p) (sound : u.Sound) :
    Corresponds (Atom.Names u) (w.least u) p.least :=
  h.facts.least (h.clauses_forth sound) (h.clauses_back sound)

theorem room_iff (h : w.Reads u p) (sound : u.Sound) {limits : RunLimits} :
    w.Room u limits ↔ p.Room limits := by
  have unique := names_biUnique sound
  refine forall_congr' fun n => ?_
  rw [Ne, (h.stage sound (n + 1)).eq_iff unique (h.stage sound n),
    (h.stage sound (n + 1)).ncard_eq unique]

theorem faulty_on_iff (h : w.Reads u p) (sound : u.Sound) {known : Set (Origin × Fact Nat)}
    {facts : Set (Origin × Fact String)} (same : Corresponds (Atom.Names u) known facts) :
    w.Faulty u known ↔ p.Faulty facts := by
  have related {e : RuleEntry} {d : Declaration} (names : e.Names u d) :
      (∃ used, MayUse e.trust known used ∧ e.rule.Fails u (used.map (·.2))) ↔
        ∃ used, MayUse d.trust facts used ∧ d.rule.Breaks (used.map (·.2)) := by
    rw [names.trust]
    exact same.exists_mayUse_iff (fun _ _ => Rule.fails_iff sound names.rule) d.trust
  constructor
  · intro faulty
    obtain ⟨e, he, fault⟩ := faulty
    obtain ⟨d, hd, names⟩ := h.forth e he
    exact ⟨d, hd, (related names).1 fault⟩
  · intro broken
    obtain ⟨d, hd, fault⟩ := broken
    obtain ⟨e, he, names⟩ := h.back d hd
    exact ⟨e, he, (related names).2 fault⟩

theorem faulty_iff (h : w.Reads u p) (sound : u.Sound) :
    w.Faulty u (w.least u) ↔ p.Broken :=
  h.faulty_on_iff sound (h.least sound)

/-- A run comes to its end exactly when the program has no fault and fits the limits. -/
theorem run_eq_ok_iff (h : w.Reads u p) (sound : u.Sound) {limits : RunLimits} :
    (w.run u limits .never).1 = .ok () ↔ ¬ p.Broken ∧ p.Room limits := by
  rw [World.run_eq_ok_iff, h.faulty_iff sound, h.room_iff sound]

end World.Reads

/-- Nothing is left to derive, and no rule is at fault. -/
structure World.Complete [Patterns] (u : Symbols) (w : World) : Prop where
  closed : consequences (w.clauses u) w.facts.pairs ⊆ w.facts.pairs
  sound : ¬ w.Faulty u w.facts.pairs

structure Program.Complete [Patterns] (p : Program) : Prop where
  closed : consequences p.clauses p.facts ⊆ p.facts
  sound : ¬ p.Faulty p.facts

theorem World.Reads.complete_iff [Patterns] {w : World} {p : Program} (h : w.Reads u p)
    (sound : u.Sound) :
    w.Complete u ↔ p.Complete := by
  have derived := h.facts.consequences (h.clauses_forth sound) (h.clauses_back sound)
  have closed := derived.subset_iff (names_biUnique sound) h.facts
  have faulty := h.faulty_on_iff sound h.facts
  exact ⟨fun c => ⟨closed.1 c.closed, mt faulty.2 c.sound⟩,
    fun c => ⟨closed.2 c.closed, mt faulty.1 c.sound⟩⟩

/-- A world is read the same way with every later table. -/
theorem World.Reads.grows {v : Symbols} (grows : u.Grows v) {w : World} {p : Program}
    (h : w.Reads u p) : w.Reads v p := by
  refine ⟨h.facts.grows grows, fun e he => ?_, fun d hd => ?_⟩
  · obtain ⟨d, hd, names⟩ := h.forth e he
    exact ⟨d, hd, names.block, names.trust, names.rule.grows grows⟩
  · obtain ⟨e, he, names⟩ := h.back d hd
    exact ⟨e, he, names.block, names.trust, names.rule.grows grows⟩

variable [Patterns]

namespace World.Ends

variable {start w : World} {limits : RunLimits} {deadline : Deadline}
  {result : Except EvaluationError Unit}

/-- However a run ends, it leaves the facts of some stage. -/
theorem reads {p : Program} (h : start.Ends u limits deadline (result, w)) (reads : start.Reads u p)
    (sound : u.Sound) : ∃ n, w.Reads u { p with facts := p.stage n } := by
  obtain ⟨n, pairs⟩ := h.exists_stage
  refine ⟨n, ?_, ?_, ?_⟩
  · rw [pairs]
    exact reads.stage sound n
  · rw [h.rules]
    exact reads.forth
  · rw [h.rules]
    exact reads.back

theorem complete (h : start.Ends u limits deadline (result, w)) (converged : w.phase = .converged) :
    w.Complete u := by
  constructor
  · rw [clauses_congr h.rules, h.eq_least converged]
    exact least_closed
  · rw [faulty_congr h.rules]
    exact h.sound converged

end World.Ends

/-- Queries are answered as they are over what the stored facts read as. -/
theorem World.hasMatch_eq_answer (sound : u.Sound) {w : World}
    {known : Set (Origin × Fact String)} (facts : Corresponds (Atom.Names u) w.facts.pairs known)
    {r : Rule Nat Nat} {q : Rule String PublicKey} (named : r.Names u q) (trust : Trust) :
    w.hasMatch r trust u .never = answer known trust q := by
  rw [hasMatch_eq_ask, answer,
    facts.exists_mayUse_iff (fun _ _ => Rule.accepts_iff sound named) trust,
    facts.exists_mayUse_iff (fun _ _ => Rule.fails_iff sound named) trust]

/-! Programs that say more, and programs that know more. -/

namespace Program

variable {p q : Program}

/-- More facts, and rules that rely on no less, derive no less. -/
theorem least_subset (facts : p.facts ⊆ q.facts) (rules : ∀ d ∈ p.rules, ∃ e ∈ q.rules,
    e.block = d.block ∧ e.rule = d.rule ∧ ∀ b ∈ d.trust.blocks, b ∈ e.trust.blocks) :
    p.least ⊆ q.least := by
  refine Provenance.least_mono facts fun known x hx => ?_
  obtain ⟨_, ⟨d, hd, rfl⟩, used, may, concludes, tag⟩ := hx
  obtain ⟨e, he, block, rule, wider⟩ := rules d hd
  refine ⟨e.clause, ⟨e, he, rfl⟩, used, fun u hu => ⟨(may u hu).1, ?_⟩, ?_, ?_⟩
  · exact Trust.reads_iff.2 fun b hb => wider b (Trust.reads_iff.1 (may u hu).2 b hb)
  · change e.rule.Derives _ _
    rw [rule]
    exact concludes
  · rw [tag, Clause.tag, Clause.tag, Declaration.clause, Declaration.clause, block]

variable {known : Set (Origin × Fact String)} (more : p.facts ⊆ known) (less : known ⊆ p.least)

include more less

/-- What can be derived may be known from the start. -/
theorem least_of_known : ({ p with facts := known } : Program).least = p.least :=
  Provenance.least_of_between more less

theorem broken_of_known : ({ p with facts := known } : Program).Broken ↔ p.Broken := by
  unfold Broken
  rw [least_of_known more less]

/-- A complete program knows all that can be derived. -/
theorem known_of_complete (h : ({ p with facts := known } : Program).Complete) :
    known = p.least ∧ ¬ p.Broken := by
  have same : known = p.least :=
    (least_of_closed h.closed).symm.trans (least_of_between more less)
  refine ⟨same, fun broken => h.sound ?_⟩
  change p.Faulty known
  rw [same]
  exact broken

end Program

/-! The part of a program that depends on no block outside a set. -/

namespace Program

variable {blocks : Set BlockId} {p : Program} {limits : RunLimits}

def within (blocks : Set BlockId) (p : Program) : Program where
  facts := Provenance.within blocks p.facts
  rules := {d | d ∈ p.rules ∧ d.block ∈ blocks}

theorem clauses_within : (p.within blocks).clauses = declaredIn blocks p.clauses := by
  ext c
  constructor
  · rintro ⟨d, ⟨declared, inside⟩, rfl⟩
    exact ⟨⟨d, declared, rfl⟩, inside⟩
  · rintro ⟨⟨d, declared, rfl⟩, inside⟩
    exact ⟨d, ⟨declared, inside⟩, rfl⟩

theorem stage_within (n : Nat) :
    (p.within blocks).stage n = Provenance.within blocks (p.stage n) := by
  rw [stage, stage, Provenance.stage_within, clauses_within]
  rfl

theorem least_within : (p.within blocks).least = Provenance.within blocks p.least := by
  rw [least, least, Provenance.least_within, clauses_within]
  rfl

theorem broken_of_within (h : (p.within blocks).Broken) : p.Broken := by
  obtain ⟨d, declared, used, may, breaks⟩ := h
  rw [least_within] at may
  exact ⟨d, declared.1, used, fun u hu => ⟨(may u hu).1.1, (may u hu).2⟩, breaks⟩

theorem stage_subset_least (n : Nat) : p.stage n ⊆ p.least := Provenance.stage_subset_least n

/-- A part takes no more room than the whole. -/
theorem room_within (finite : p.least.Finite) (room : p.Room limits) :
    (p.within blocks).Room limits := by
  intro n grows
  have part : Provenance.within blocks (p.stage (n + 1)) ⊆ p.stage (n + 1) := fun _ h => h.1
  have whole : p.stage (n + 1) ≠ p.stage n := by
    intro fixed
    rw [stage_within, stage_within, fixed] at grows
    exact grows rfl
  obtain ⟨facts, iterations⟩ := room n whole
  refine ⟨?_, iterations⟩
  rw [stage_within]
  exact (Set.ncard_le_ncard part (finite.subset (stage_subset_least _))).trans facts

/-- Whoever trusts no other blocks gets the same answers from the part. -/
theorem answer_within {trust : Trust} (inside : ∀ b ∈ trust.blocks, b ∈ blocks)
    (q : Rule String PublicKey) :
    answer (p.within blocks).least trust q = answer p.least trust q := by
  simp only [answer, least_within, mayUse_within inside]

end Program

end Warrant
