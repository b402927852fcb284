import Mathlib.Data.List.Forall2
import Mathlib.Data.Set.Card
import Mathlib.Data.Set.Finite.Lattice
import Mathlib.Data.Set.Lattice
import Warrant.Proofs.Ordered
import Warrant.Origin

/-! Derivation with provenance, over any kind of facts.
A `Clause` is what a rule amounts to once names, bindings and tests are left aside: which lists of
facts it concludes which fact from, where it is declared and what it reads. What it concludes
depends on its own block and on every block that the used facts depend on.

`least` is the least set of tagged facts that holds what is asserted and whatever the clauses
conclude from it; `stage` reaches it step by step. The main statement is `least_within`: the part
that depends on no block outside a set `S` is what the statements of `S` alone derive. -/

namespace Warrant.Provenance

structure Clause (φ : Type) where
  block : BlockId
  trust : Trust
  concludes : List φ → φ → Prop

variable {φ ψ : Type}

/-- The blocks that a conclusion from `used` depends on. -/
def Clause.tag (c : Clause φ) (used : List (Origin × φ)) : Origin :=
  (used.foldl (fun (origin : Origin) u => origin.union u.1) OrderedSet.empty).insert c.block

/-- Whether all of `used` is known and readable. -/
def MayUse (trust : Trust) (known : Set (Origin × φ)) (used : List (Origin × φ)) : Prop :=
  ∀ u ∈ used, u ∈ known ∧ trust.reads u.1

def consequences (clauses : Set (Clause φ)) (known : Set (Origin × φ)) : Set (Origin × φ) :=
  {p | ∃ c ∈ clauses, ∃ used, MayUse c.trust known used ∧ c.concludes (used.map (·.2)) p.2 ∧
    p.1 = c.tag used}

/-- The least set that holds `asserted` and all its own consequences. -/
def least (clauses : Set (Clause φ)) (asserted : Set (Origin × φ)) : Set (Origin × φ) :=
  {p | ∀ known, asserted ⊆ known → consequences clauses known ⊆ known → p ∈ known}

/-- What is known after so many steps, each of which adds all consequences at once. -/
def stage (clauses : Set (Clause φ)) (asserted : Set (Origin × φ)) : Nat → Set (Origin × φ)
  | 0 => asserted
  | n + 1 => stage clauses asserted n ∪ consequences clauses (stage clauses asserted n)

/-- The part of a set that depends on nothing outside `blocks`. -/
def within (blocks : Set BlockId) (known : Set (Origin × φ)) : Set (Origin × φ) :=
  {p | p ∈ known ∧ ∀ b ∈ p.1, b ∈ blocks}

def declaredIn (blocks : Set BlockId) (clauses : Set (Clause φ)) : Set (Clause φ) :=
  {c | c ∈ clauses ∧ c.block ∈ blocks}

theorem mem_unions {used : List (Origin × φ)} {origin : Origin} {b : BlockId} :
    b ∈ used.foldl (fun (origin : Origin) u => origin.union u.1) origin ↔
      b ∈ origin ∨ ∃ u ∈ used, b ∈ u.1 := by
  induction used generalizing origin with
  | nil => simp
  | cons u rest ih => simp [ih, or_assoc]

theorem mem_tag {c : Clause φ} {used : List (Origin × φ)} {b : BlockId} :
    b ∈ c.tag used ↔ b = c.block ∨ ∃ u ∈ used, b ∈ u.1 := by
  simp [Clause.tag, mem_unions]

variable {clauses : Set (Clause φ)} {asserted known more : Set (Origin × φ)}

theorem mem_least {p : Origin × φ} : p ∈ least clauses asserted ↔
    ∀ known, asserted ⊆ known → consequences clauses known ⊆ known → p ∈ known := Iff.rfl

theorem mem_within {blocks : Set BlockId} {p : Origin × φ} :
    p ∈ within blocks known ↔ p ∈ known ∧ ∀ b ∈ p.1, b ∈ blocks := Iff.rfl

theorem consequences_mono (h : known ⊆ more) :
    consequences clauses known ⊆ consequences clauses more := by
  rintro p ⟨c, hc, used, may, concludes, tag⟩
  exact ⟨c, hc, used, fun u hu => ⟨h (may u hu).1, (may u hu).2⟩, concludes, tag⟩

theorem stage_subset_succ (n : Nat) : stage clauses asserted n ⊆ stage clauses asserted (n + 1) :=
  Set.subset_union_left

theorem stage_mono {m n : Nat} (h : m ≤ n) : stage clauses asserted m ⊆ stage clauses asserted n :=
  monotone_nat_of_le_succ stage_subset_succ h

/-- Once a step adds nothing, no later step does. -/
theorem stage_fixed {m n : Nat} (fixed : stage clauses asserted (m + 1) = stage clauses asserted m)
    (h : m ≤ n) : stage clauses asserted n = stage clauses asserted m := by
  induction n, h using Nat.le_induction with
  | base => rfl
  | succ n _ ih => rw [stage, ih, ← stage, fixed]

theorem asserted_subset_least : asserted ⊆ least clauses asserted :=
  fun _ h _ base _ => base h

theorem least_closed : consequences clauses (least clauses asserted) ⊆ least clauses asserted := by
  intro p h known base closed
  exact closed (consequences_mono (fun q hq => mem_least.1 hq known base closed) h)

theorem least_of_closed (closed : consequences clauses known ⊆ known) :
    least clauses known = known :=
  Set.Subset.antisymm (fun _ hp => mem_least.1 hp known Set.Subset.rfl closed)
    asserted_subset_least

theorem stage_subset_least (n : Nat) : stage clauses asserted n ⊆ least clauses asserted := by
  induction n with
  | zero => exact asserted_subset_least
  | succ n ih => exact Set.union_subset ih ((consequences_mono ih).trans least_closed)

/-- Finitely many tagged facts that each come up at some stage are all there at one stage. -/
theorem exists_stage {used : List (Origin × φ)}
    (h : ∀ u ∈ used, ∃ n, u ∈ stage clauses asserted n) :
    ∃ n, ∀ u ∈ used, u ∈ stage clauses asserted n := by
  induction used with
  | nil => exact ⟨0, by simp⟩
  | cons u rest ih =>
    obtain ⟨m, hm⟩ := h u (List.mem_cons_self ..)
    obtain ⟨n, hn⟩ := ih fun v hv => h v (List.mem_cons_of_mem _ hv)
    refine ⟨max m n, fun v hv => ?_⟩
    rcases List.mem_cons.1 hv with rfl | hv
    · exact stage_mono (Nat.le_max_left m n) hm
    · exact stage_mono (Nat.le_max_right m n) (hn v hv)

theorem least_eq_iUnion : least clauses asserted = ⋃ n, stage clauses asserted n := by
  refine Set.Subset.antisymm (fun p h => mem_least.1 h _
    (Set.subset_iUnion (stage clauses asserted) 0) ?_)
    (Set.iUnion_subset stage_subset_least)
  rintro q ⟨c, hc, used, may, concludes, tag⟩
  obtain ⟨n, hn⟩ := exists_stage fun u hu => Set.mem_iUnion.1 (may u hu).1
  refine Set.mem_iUnion.2 ⟨n + 1, .inr ⟨c, hc, used, fun u hu => ?_, concludes, tag⟩⟩
  exact ⟨hn u hu, (may u hu).2⟩

theorem mem_least_iff_stage {p : Origin × φ} :
    p ∈ least clauses asserted ↔ ∃ n, p ∈ stage clauses asserted n := by
  rw [least_eq_iUnion, Set.mem_iUnion]

theorem least_eq_stage {n : Nat}
    (fixed : stage clauses asserted (n + 1) = stage clauses asserted n) :
    least clauses asserted = stage clauses asserted n := by
  refine Set.Subset.antisymm (fun p h => ?_) (stage_subset_least n)
  obtain ⟨m, hm⟩ := mem_least_iff_stage.1 h
  rcases Nat.le_total m n with le | le
  · exact stage_mono le hm
  · rwa [stage_fixed fixed le] at hm

theorem least_mono {others : Set (Clause φ)} {base : Set (Origin × φ)} (facts : asserted ⊆ base)
    (h : ∀ known, consequences clauses known ⊆ consequences others known) :
    least clauses asserted ⊆ least others base :=
  fun _ hp => mem_least.2 fun known hb closed =>
    mem_least.1 hp known (facts.trans hb) ((h known).trans closed)

/-- What has been derived may be asserted as well. -/
theorem least_of_between (more : asserted ⊆ known) (less : known ⊆ least clauses asserted) :
    least clauses known = least clauses asserted := by
  refine Set.Subset.antisymm (fun p h => ?_) (least_mono more fun _ => Set.Subset.rfl)
  exact mem_least.1 h _ less least_closed

section Within

variable {blocks : Set BlockId}

/-- A conclusion stays within `blocks` exactly when its clause and all that it uses do. -/
theorem tag_within {c : Clause φ} {used : List (Origin × φ)} :
    (∀ b ∈ c.tag used, b ∈ blocks) ↔ c.block ∈ blocks ∧ ∀ u ∈ used, ∀ b ∈ u.1, b ∈ blocks := by
  simp only [mem_tag]
  constructor
  · exact fun h => ⟨h _ (.inl rfl), fun u hu b hb => h b (.inr ⟨u, hu, hb⟩)⟩
  · rintro ⟨own, others⟩ b (rfl | ⟨u, hu, hb⟩)
    · exact own
    · exact others u hu b hb

theorem consequences_within : within blocks (consequences clauses known) =
    consequences (declaredIn blocks clauses) (within blocks known) := by
  ext p
  constructor
  · rintro ⟨⟨c, hc, used, may, concludes, tag⟩, inside⟩
    rw [tag, tag_within] at inside
    exact ⟨c, ⟨hc, inside.1⟩, used, fun u hu => ⟨⟨(may u hu).1, inside.2 u hu⟩, (may u hu).2⟩,
      concludes, tag⟩
  · rintro ⟨c, hc, used, may, concludes, tag⟩
    refine ⟨⟨c, hc.1, used, fun u hu => ⟨(may u hu).1.1, (may u hu).2⟩, concludes, tag⟩, ?_⟩
    rw [tag, tag_within]
    exact ⟨hc.2, fun u hu => (may u hu).1.2⟩

theorem stage_within (n : Nat) : within blocks (stage clauses asserted n) =
    stage (declaredIn blocks clauses) (within blocks asserted) n := by
  induction n with
  | zero => rfl
  | succ n ih =>
    rw [stage, stage, ← ih, ← consequences_within]
    ext p
    simp only [mem_within, Set.mem_union]
    tauto

theorem least_within : within blocks (least clauses asserted) =
    least (declaredIn blocks clauses) (within blocks asserted) := by
  ext p
  rw [mem_within, mem_least_iff_stage, mem_least_iff_stage]
  simp only [← stage_within, mem_within, exists_and_right]

/-- Whoever trusts no other blocks sees nothing that depends on them. -/
theorem mem_within_of_reads {trust : Trust}
    (inside : ∀ b ∈ trust.blocks, b ∈ blocks) {p : Origin × φ}
    (readable : trust.reads p.1) : p ∈ within blocks known ↔ p ∈ known := by
  rw [mem_within, and_iff_left]
  exact fun b hb => inside b (Trust.reads_iff.1 readable b hb)

theorem mayUse_within {trust : Trust} (inside : ∀ b ∈ trust.blocks, b ∈ blocks)
    {used : List (Origin × φ)} :
    MayUse trust (within blocks known) used ↔ MayUse trust known used := by
  refine forall₂_congr fun u _ => ?_
  constructor
  · rintro ⟨h, readable⟩
    exact ⟨(mem_within_of_reads inside readable).1 h, readable⟩
  · rintro ⟨h, readable⟩
    exact ⟨(mem_within_of_reads inside readable).2 h, readable⟩

end Within

/-! The same derivations over two kinds of facts. -/

section Correspond

variable (R : φ → ψ → Prop)

/-- The same origin and facts that correspond. -/
def SamePair (p : Origin × φ) (q : Origin × ψ) : Prop := p.1 = q.1 ∧ R p.2 q.2

/-- What is known on either side has its counterpart on the other. -/
structure Corresponds (known : Set (Origin × φ)) (facts : Set (Origin × ψ)) : Prop where
  forth : ∀ p ∈ known, ∃ q ∈ facts, SamePair R p q
  back : ∀ q ∈ facts, ∃ p ∈ known, SamePair R p q

/-- Clauses of one block and trust that conclude corresponding facts from corresponding ones. -/
structure Clause.Matches (c : Clause φ) (d : Clause ψ) : Prop where
  block : c.block = d.block
  trust : c.trust = d.trust
  forth : ∀ facts others fact, List.Forall₂ R facts others → c.concludes facts fact →
    ∃ other, R fact other ∧ d.concludes others other
  back : ∀ facts others other, List.Forall₂ R facts others → d.concludes others other →
    ∃ fact, R fact other ∧ c.concludes facts fact

variable {R} {facts : Set (Origin × ψ)}

theorem tag_congr {c : Clause φ} {d : Clause ψ} (block : c.block = d.block)
    {used : List (Origin × φ)} {others : List (Origin × ψ)}
    (h : List.Forall₂ (SamePair R) used others) : c.tag used = d.tag others := by
  have union : ∀ origin : Origin, used.foldl (fun (o : Origin) u => o.union u.1) origin =
      others.foldl (fun (o : Origin) u => o.union u.1) origin := by
    induction h with
    | nil => exact fun _ => rfl
    | cons same _ ih =>
      intro origin
      rw [List.foldl_cons, List.foldl_cons, same.1, ih]
  rw [Clause.tag, Clause.tag, block, union]

theorem facts_of_same {used : List (Origin × φ)} {others : List (Origin × ψ)}
    (h : List.Forall₂ (SamePair R) used others) :
    List.Forall₂ R (used.map (·.2)) (others.map (·.2)) := by
  rw [List.forall₂_map_left_iff, List.forall₂_map_right_iff]
  exact h.imp fun _ _ => And.right

namespace Corresponds

theorem mayUse_forth (h : Corresponds R known facts) {trust : Trust} {used : List (Origin × φ)}
    (may : MayUse trust known used) :
    ∃ others, MayUse trust facts others ∧ List.Forall₂ (SamePair R) used others := by
  induction used with
  | nil => exact ⟨[], nofun, .nil⟩
  | cons u rest ih =>
    obtain ⟨there, readable⟩ := may u (List.mem_cons_self ..)
    obtain ⟨q, hq, same⟩ := h.forth u there
    obtain ⟨others, may, related⟩ := ih fun v hv => may v (List.mem_cons_of_mem _ hv)
    refine ⟨q :: others, List.forall_mem_cons.2 ⟨⟨hq, ?_⟩, may⟩, .cons same related⟩
    rwa [← same.1]

theorem mayUse_back (h : Corresponds R known facts) {trust : Trust} {others : List (Origin × ψ)}
    (may : MayUse trust facts others) :
    ∃ used, MayUse trust known used ∧ List.Forall₂ (SamePair R) used others := by
  induction others with
  | nil => exact ⟨[], nofun, .nil⟩
  | cons q rest ih =>
    obtain ⟨there, readable⟩ := may q (List.mem_cons_self ..)
    obtain ⟨p, hp, same⟩ := h.back q there
    obtain ⟨used, may, related⟩ := ih fun v hv => may v (List.mem_cons_of_mem _ hv)
    refine ⟨p :: used, List.forall_mem_cons.2 ⟨⟨hp, ?_⟩, may⟩, .cons same related⟩
    rwa [same.1]

/-- Whoever may use known facts with some property may use corresponding ones. -/
theorem exists_mayUse_iff (h : Corresponds R known facts) {P : List φ → Prop} {Q : List ψ → Prop}
    (same : ∀ l r, List.Forall₂ R l r → (P l ↔ Q r)) (trust : Trust) :
    (∃ used, MayUse trust known used ∧ P (used.map (·.2))) ↔
      ∃ used, MayUse trust facts used ∧ Q (used.map (·.2)) := by
  constructor
  · intro left
    obtain ⟨used, may, holds⟩ := left
    obtain ⟨others, may, related⟩ := h.mayUse_forth may
    exact ⟨others, may, (same _ _ (facts_of_same related)).1 holds⟩
  · intro right
    obtain ⟨others, may, holds⟩ := right
    obtain ⟨used, may, related⟩ := h.mayUse_back may
    exact ⟨used, may, (same _ _ (facts_of_same related)).2 holds⟩

variable {others : Set (Clause ψ)}

theorem consequences (forth : ∀ c ∈ clauses, ∃ d ∈ others, c.Matches R d)
    (back : ∀ d ∈ others, ∃ c ∈ clauses, c.Matches R d) (h : Corresponds R known facts) :
    Corresponds R (consequences clauses known) (consequences others facts) := by
  constructor
  · rintro p ⟨c, hc, used, may, concludes, tag⟩
    obtain ⟨d, hd, same⟩ := forth c hc
    obtain ⟨uses, may, related⟩ := h.mayUse_forth (same.trust ▸ may)
    obtain ⟨other, there, concludes⟩ := same.forth _ _ _ (facts_of_same related) concludes
    refine ⟨(p.1, other), ⟨d, hd, uses, may, concludes, ?_⟩, rfl, there⟩
    exact tag.trans (tag_congr same.block related)
  · rintro q ⟨d, hd, uses, may, concludes, tag⟩
    obtain ⟨c, hc, same⟩ := back d hd
    obtain ⟨used, may, related⟩ := h.mayUse_back (same.trust.symm ▸ may)
    obtain ⟨fact, there, concludes⟩ := same.back _ _ _ (facts_of_same related) concludes
    refine ⟨(q.1, fact), ⟨c, hc, used, may, concludes, ?_⟩, rfl, there⟩
    exact tag.trans (tag_congr same.block related).symm

theorem of_forall₂ {l : List (Origin × φ)} {r : List (Origin × ψ)}
    (h : List.Forall₂ (SamePair R) l r) : Corresponds R {p | p ∈ l} {q | q ∈ r} := by
  induction h with
  | nil => exact ⟨nofun, nofun⟩
  | @cons p q _ _ first _ ih =>
    constructor
    · intro p' hp
      rcases List.mem_cons.1 hp with rfl | hp
      · exact ⟨q, List.mem_cons_self .., first⟩
      · obtain ⟨q', hq, same⟩ := ih.forth p' hp
        exact ⟨q', List.mem_cons_of_mem _ hq, same⟩
    · intro q' hq
      rcases List.mem_cons.1 hq with rfl | hq
      · exact ⟨p, List.mem_cons_self .., first⟩
      · obtain ⟨p', hp, same⟩ := ih.back q' hq
        exact ⟨p', List.mem_cons_of_mem _ hp, same⟩

theorem union {more : Set (Origin × φ)} {rest : Set (Origin × ψ)} (h : Corresponds R known facts)
    (k : Corresponds R more rest) : Corresponds R (known ∪ more) (facts ∪ rest) := by
  constructor
  · rintro p (hp | hp)
    · obtain ⟨q, hq, same⟩ := h.forth p hp
      exact ⟨q, .inl hq, same⟩
    · obtain ⟨q, hq, same⟩ := k.forth p hp
      exact ⟨q, .inr hq, same⟩
  · rintro q (hq | hq)
    · obtain ⟨p, hp, same⟩ := h.back q hq
      exact ⟨p, .inl hp, same⟩
    · obtain ⟨p, hp, same⟩ := k.back q hq
      exact ⟨p, .inr hp, same⟩

theorem stage (forth : ∀ c ∈ clauses, ∃ d ∈ others, c.Matches R d)
    (back : ∀ d ∈ others, ∃ c ∈ clauses, c.Matches R d) (h : Corresponds R asserted facts)
    (n : Nat) :
    Corresponds R (Provenance.stage clauses asserted n) (Provenance.stage others facts n) := by
  induction n with
  | zero => exact h
  | succ n ih => exact ih.union (ih.consequences forth back)

theorem least (forth : ∀ c ∈ clauses, ∃ d ∈ others, c.Matches R d)
    (back : ∀ d ∈ others, ∃ c ∈ clauses, c.Matches R d) (h : Corresponds R asserted facts) :
    Corresponds R (Provenance.least clauses asserted) (Provenance.least others facts) := by
  constructor
  · intro p hp
    obtain ⟨n, hp⟩ := mem_least_iff_stage.1 hp
    obtain ⟨q, hq, same⟩ := (h.stage forth back n).forth p hp
    exact ⟨q, stage_subset_least n hq, same⟩
  · intro q hq
    obtain ⟨n, hq⟩ := mem_least_iff_stage.1 hq
    obtain ⟨p, hp, same⟩ := (h.stage forth back n).back q hq
    exact ⟨p, stage_subset_least n hp, same⟩

variable (unique : Relator.BiUnique R)

include unique

theorem samePair_biUnique : Relator.BiUnique (SamePair R) := by
  refine ⟨fun p q r h k => ?_, fun p q r h k => ?_⟩
  · exact Prod.ext (h.1.trans k.1.symm) (unique.1 h.2 k.2)
  · exact Prod.ext (h.1.symm.trans k.1) (unique.2 h.2 k.2)

theorem subset_iff {more : Set (Origin × φ)} {rest : Set (Origin × ψ)}
    (h : Corresponds R known facts) (k : Corresponds R more rest) :
    known ⊆ more ↔ facts ⊆ rest := by
  have unique := samePair_biUnique unique
  constructor
  · intro sub q hq
    obtain ⟨p, hp, same⟩ := h.back q hq
    obtain ⟨q', hq', same'⟩ := k.forth p (sub hp)
    rwa [unique.2 same same']
  · intro sub p hp
    obtain ⟨q, hq, same⟩ := h.forth p hp
    obtain ⟨p', hp', same'⟩ := k.back q (sub hq)
    rwa [unique.1 same same']

theorem eq_iff {more : Set (Origin × φ)} {rest : Set (Origin × ψ)}
    (h : Corresponds R known facts) (k : Corresponds R more rest) :
    known = more ↔ facts = rest := by
  rw [Set.Subset.antisymm_iff, Set.Subset.antisymm_iff, h.subset_iff unique k,
    k.subset_iff unique h]

theorem finite (h : Corresponds R known facts) (bounded : known.Finite) : facts.Finite := by
  have unique := samePair_biUnique unique
  have alone (p : Origin × φ) (_ : p ∈ known) : {q | SamePair R p q}.Finite :=
    Set.Subsingleton.finite fun q hq r hr => unique.2 hq hr
  refine (bounded.biUnion alone).subset fun q hq => ?_
  obtain ⟨p, hp, same⟩ := h.back q hq
  exact Set.mem_biUnion hp same

theorem ncard_eq (h : Corresponds R known facts) : known.ncard = facts.ncard := by
  have unique := samePair_biUnique unique
  refine Set.ncard_congr (fun p hp => (h.forth p hp).choose)
    (fun p hp => (h.forth p hp).choose_spec.1) (fun p p' hp hp' same => ?_) fun q hq => ?_
  · have there := (h.forth p hp).choose_spec.2
    rw [same] at there
    exact unique.1 there (h.forth p' hp').choose_spec.2
  · obtain ⟨p, hp, same⟩ := h.back q hq
    exact ⟨p, hp, unique.2 (h.forth p hp).choose_spec.2 same⟩

end Corresponds

end Correspond

end Warrant.Provenance
