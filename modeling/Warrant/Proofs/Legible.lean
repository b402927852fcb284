import Warrant.Proofs.Program

/-! Rules and facts in a table that grows.
What a rule concludes is told by the strings behind the ids, so a later table, in which every id
that was taken in stands for the same string, makes no difference to it. A world is legible in a
table that has all its names; whatever such a world derives, its rules derive in every later table,
and the table can read it. -/

namespace Warrant

open Provenance

/-- The facts can be read with a table. -/
def LegibleFacts (u : Symbols) (known : Set (Origin × Fact Nat)) : Prop :=
  ∀ p ∈ known, ∃ text, p.2.Names u text

/-- The rules can be read with a table. -/
def LegibleRules (u : Symbols) (rules : Set RuleEntry) : Prop :=
  ∀ e ∈ rules, ∃ q, e.rule.Names u q

/-- The rules as clauses, whatever holds them. -/
def clausesOf [Patterns] (u : Symbols) (rules : Set RuleEntry) : Set (Clause (Fact Nat)) :=
  (·.clause u) '' rules

variable {u v : Symbols} {rules : Set RuleEntry} {known : Set (Origin × Fact Nat)}

theorem mem_consequences_of [Patterns] {p : Origin × Fact Nat} :
    p ∈ consequences (clausesOf u rules) known ↔ ∃ e ∈ rules, ∃ used, MayUse e.trust known used ∧
      e.rule.Concludes u (used.map (·.2)) p.2 ∧ p.1 = (e.clause u).tag used := by
  constructor
  · rintro ⟨c, ⟨e, he, rfl⟩, rest⟩
    exact ⟨e, he, rest⟩
  · rintro ⟨e, he, rest⟩
    exact ⟨e.clause u, ⟨e, he, rfl⟩, rest⟩

theorem consequences_of_mono [Patterns] {others : Set RuleEntry} (h : rules ⊆ others)
    (known : Set (Origin × Fact Nat)) :
    consequences (clausesOf u rules) known ⊆ consequences (clausesOf u others) known := by
  intro p hp
  obtain ⟨e, he, rest⟩ := mem_consequences_of.1 hp
  exact mem_consequences_of.2 ⟨e, h he, rest⟩

namespace LegibleFacts

theorem union {more : Set (Origin × Fact Nat)} (legible : LegibleFacts u known)
    (others : LegibleFacts u more) : LegibleFacts u (known ∪ more) := by
  rintro p (hp | hp)
  · exact legible p hp
  · exact others p hp

/-- Facts that are used are the readings of texts. -/
theorem exists_texts (legible : LegibleFacts u known) {trust : Trust}
    {used : List (Origin × Fact Nat)} (may : MayUse trust known used) :
    ∃ texts, List.Forall₂ (Atom.Names u) (used.map (·.2)) texts := by
  induction used with
  | nil => exact ⟨[], .nil⟩
  | cons p rest ih =>
    obtain ⟨text, names⟩ := legible p (may p (List.mem_cons_self ..)).1
    obtain ⟨texts, all⟩ := ih fun q hq => may q (List.mem_cons_of_mem _ hq)
    exact ⟨text :: texts, .cons names all⟩

end LegibleFacts

theorem LegibleRules.union {others : Set RuleEntry} (legible : LegibleRules u rules)
    (more : LegibleRules u others) : LegibleRules u (rules ∪ others) := by
  rintro e (he | he)
  · exact legible e he
  · exact more e he

variable [Patterns]

/-- A rule concludes the same from facts in either of two tables that can read it and them. -/
theorem Rule.concludes_grows_iff (sound : u.Sound) (sound' : v.Sound) (grows : u.Grows v)
    {r : Rule Nat Nat} {q : Rule String PublicKey} (named : r.Names u q) {facts : List (Fact Nat)}
    {texts : List (Fact String)} (given : List.Forall₂ (Atom.Names u) facts texts)
    {fact : Fact Nat} : r.Concludes u facts fact ↔ r.Concludes v facts fact := by
  have named' := named.grows grows
  have given' := given.imp fun _ _ => Atom.Names.grows grows
  constructor
  · intro h
    obtain ⟨text, names, derives⟩ := Rule.derives_of_concludes sound named given h
    obtain ⟨other, names', concludes⟩ := Rule.concludes_of_derives sound' named' given' derives
    rwa [(names.grows grows).inj sound' names']
  · intro h
    obtain ⟨text, names', derives⟩ := Rule.derives_of_concludes sound' named' given' h
    obtain ⟨other, names, concludes⟩ := Rule.concludes_of_derives sound named given derives
    rwa [names'.inj sound' (names.grows grows)]

section Legible

variable (sound : u.Sound) (legible : LegibleRules u rules)

include sound legible

/-- What is derived from legible facts is legible. -/
theorem legible_consequences (facts : LegibleFacts u known) :
    LegibleFacts u (consequences (clausesOf u rules) known) := by
  intro p hp
  obtain ⟨e, he, used, may, concludes, -⟩ := mem_consequences_of.1 hp
  obtain ⟨q, named⟩ := legible e he
  obtain ⟨texts, given⟩ := facts.exists_texts may
  obtain ⟨text, names, -⟩ := Rule.derives_of_concludes sound named given concludes
  exact ⟨text, names⟩

theorem legible_least (facts : LegibleFacts u known) :
    LegibleFacts u (Provenance.least (clausesOf u rules) known) := by
  have stages (n : Nat) : LegibleFacts u (Provenance.stage (clausesOf u rules) known n) := by
    induction n with
    | zero => exact facts
    | succ n ih => exact ih.union (legible_consequences sound legible ih)
  intro p hp
  obtain ⟨n, hp⟩ := mem_least_iff_stage.1 hp
  exact stages n p hp

variable (sound' : v.Sound) (grows : u.Grows v)

include sound' grows

theorem consequences_grows (facts : LegibleFacts u known) :
    consequences (clausesOf u rules) known = consequences (clausesOf v rules) known := by
  ext p
  simp only [mem_consequences_of]
  refine exists_congr fun e => and_congr_right fun he => exists_congr fun used => ?_
  refine and_congr_right fun may => and_congr_left fun _ => ?_
  obtain ⟨q, named⟩ := legible e he
  obtain ⟨texts, given⟩ := facts.exists_texts may
  exact Rule.concludes_grows_iff sound sound' grows named given

theorem least_grows (facts : LegibleFacts u known) :
    Provenance.least (clausesOf u rules) known = Provenance.least (clausesOf v rules) known := by
  have stages (n : Nat) : Provenance.stage (clausesOf u rules) known n =
      Provenance.stage (clausesOf v rules) known n ∧
        LegibleFacts u (Provenance.stage (clausesOf u rules) known n) := by
    induction n with
    | zero => exact ⟨rfl, facts⟩
    | succ n ih =>
      obtain ⟨same, readable⟩ := ih
      have next := consequences_grows sound legible sound' grows readable
      refine ⟨?_, readable.union (legible_consequences sound legible readable)⟩
      rw [Provenance.stage, Provenance.stage, next, same]
  ext p
  simp only [mem_least_iff_stage, (stages _).1]

end Legible

end Warrant
