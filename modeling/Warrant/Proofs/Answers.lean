import Warrant.Regex.Pattern
import Warrant.Proofs.Loadable
import Warrant.Proofs.Visits

/-! What the first match tells of all of them.
`hasMatch` ends with the first match that passes, `apply` goes through every one and could meet an
expression at fault after it. It does not: a program that passes once is balanced, and a balanced
program is at no fault under any binding (`keeps_ne_error`). So `hasMatch` answers whether `apply`
derives something, with the same error, whatever the order of the facts. -/

namespace Warrant

namespace Join

variable {j : Join} {atoms : List (Atom Nat)} {a : Assignment} {origin : Origin} {used : Bool}
  {l : List Match}

/-- A walk that comes to its end has found what it finds without a deadline. -/
theorem walk_eq_ok (h : j.walk atoms a origin used = .ok l) : l = j.found atoms a origin used := by
  cases deadline : j.deadline with
  | never =>
    rw [walk_never deadline] at h
    exact (Except.ok.inj h).symm
  | passed =>
    cases atoms with
    | nil =>
      have walked := walk_never (j := { j with deadline := .never }) rfl [] a origin used
      exact (Except.ok.inj (walked.symm.trans h)).symm
    | cons atom rest =>
      simp only [walk, deadline] at h
      rw [found]
      cases candidates : j.facts.candidates atom j.trust with
      | nil =>
        rw [candidates] at h
        exact (Except.ok.inj h).symm
      | cons first others =>
        rw [candidates] at h
        cases h

end Join

namespace Atom

/-- An atom has a value when all its variables have. -/
theorem exists_under {σ : Type} {values : σ → Option (Term σ)} {a : Atom σ}
    (h : ∀ v ∈ a.vars, (values v).isSome) : ∃ fact, a.under values = some fact := by
  have each : ∀ t ∈ a.terms, ∃ x, t.under values = some x := by
    intro t ht
    cases t with
    | var v => exact Option.isSome_iff_exists.1 (h v (mem_vars_iff.2 ht))
    | _ => exact ⟨_, rfl⟩
  obtain ⟨terms, made⟩ : ∃ terms, a.terms.mapM (Term.under values) = some terms := by
    choose! value made using each
    refine ⟨a.terms.map value, mapM_eq_some_iff.2 ?_⟩
    exact List.forall₂_map_right_iff.2 (List.forall₂_same.2 made)
  exact ⟨⟨a.name, terms⟩, by rw [under, made]; rfl⟩

end Atom

namespace Rule

variable {r : Rule Nat Nat} {symbols : Symbols} {j : Join} {l : List Match} {m : Match}

theorem candidates_eq_ok (h : r.candidates j = .ok l) :
    l = j.found r.body { declared := bodyVars r.body } .empty false :=
  Join.walk_eq_ok (mapError_eq_ok_iff.1 h)

/-- Every match of a well-formed rule that passes derives a fact. -/
theorem isSome_derive? (wellFormed : r.isWellFormed) (block : BlockId)
    (h : m ∈ j.found r.body { declared := bodyVars r.body } .empty false) :
    (r.derive? block m).isSome := by
  obtain ⟨taken, -, -, binds, -⟩ := binds_of_found h
  have bound (v : Nat) (hv : v ∈ r.head.vars) : (m.binding.get? v).isSome :=
    (binds.domain v).2 (isWellFormed_iff.1 wellFormed v (List.mem_append_left _ hv))
  obtain ⟨fact, made⟩ := Atom.exists_under bound
  rw [derive?, instantiate?_eq, made]
  rfl

/-- An early answer is that of a pass over the whole list, if no element is at fault where another
passes and there is one fault only. -/
theorem firstKept_eq_allKept {α ε : Type} {keep : α → Except ε Bool} {l : List α}
    (peace : ∀ a b e, keep a = .ok true → keep b ≠ .error e)
    {blame : ε} (one : ∀ a e, keep a = .error e → e = blame) :
    firstKept keep l = (allKept keep l).map (!·.isEmpty) := by
  rcases firstKept_cases keep l with ⟨answer, a, ha, passes⟩ | ⟨answer, none⟩ |
    ⟨e, answer, a, ha, fault⟩
  all_goals rw [answer]; cases all : allKept keep l with
  | error d => ?_
  | ok kept => ?_
  · obtain ⟨b, -, blame⟩ := allKept_error all
    exact absurd blame (peace a b d passes)
  · have mem := (mem_allKept all).2 ⟨ha, passes⟩
    cases kept with
    | nil => cases mem
    | cons => rfl
  · obtain ⟨b, hb, blame⟩ := allKept_error all
    cases (none b hb).symm.trans blame
  · have empty : kept = [] := List.eq_nil_iff_forall_not_mem.2 fun b hb => by
      obtain ⟨hb, passes⟩ := (mem_allKept all).1 hb
      cases (none b hb).symm.trans passes
    rw [empty]
    rfl
  · obtain ⟨b, -, other⟩ := allKept_error all
    rw [one a e fault, one b d other]
    rfl
  · obtain ⟨b, fine⟩ := (allKept_eq_ok_iff.1 all).1 a ha
    cases fault.symm.trans fine

theorem keeps_peaceful [Patterns] (m n : Match) (e : EvaluationError)
    (passes : r.keeps symbols m = .ok true) :
    r.keeps symbols n ≠ .error e := by
  intro fault
  obtain ⟨_, blame, -⟩ := mapError_eq_error_iff.1 fault
  exact keeps_ne_error (mapError_eq_ok_iff.1 passes) blame

theorem keeps_error [Patterns] (e : EvaluationError) (h : r.keeps symbols m = .error e) :
    e = .execution .invalidStack := by
  obtain ⟨_, blame, rfl⟩ := mapError_eq_error_iff.1 h
  exact congrArg _ (fault_of_holdsAll blame).1

/-- The walk that looks at each match as it comes and ends with the first that passes. -/
def search [Patterns] (r : Rule Nat Nat) (symbols : Symbols) (j : Join) :
    Except EvaluationError Bool :=
  j.visit (.error (.limit .timeout)) (r.keeps symbols) r.body { declared := bodyVars r.body }
    .empty false

/-- The walk that puts aside what each match that passes derives, and goes on. -/
def gather [Patterns] (r : Rule Nat Nat) (block : BlockId) (symbols : Symbols) (j : Join) :
    StateT (List Entry) (Except EvaluationError) Bool :=
  j.visit (throw (.limit .timeout))
    (fun m => do
      if ← r.keeps symbols m then modify (· ++ (r.derive? block m).toList)
      return false)
    r.body { declared := bodyVars r.body } .empty false

theorem search_eq_hasMatch [Patterns] (r : Rule Nat Nat) (symbols : Symbols) (j : Join) :
    r.search symbols j = r.hasMatch symbols j := by
  have first (l : List Match) : l.anyM (r.keeps symbols) = firstKept (r.keeps symbols) l := by
    induction l with
    | nil => rfl
    | cons m rest ih =>
      rw [List.anyM, ih, firstKept]
      refine bind_congr fun passes => ?_
      cases passes with
      | false => rfl
      | true => rfl
  rw [search, Join.visit_eq_walk _ _ _ _ _ _ fun _ => rfl, hasMatch, candidates, Join.matchesOf]
  cases walk : j.walk r.body { declared := bodyVars r.body } .empty false with
  | ok found => exact first found
  | error limit =>
    rw [Join.walk_error j _ _ _ _ walk]
    rfl

theorem gather_eq_apply [Patterns] (r : Rule Nat Nat) (block : BlockId) (symbols : Symbols)
    (j : Join) :
    (r.gather block symbols j).run [] =
      (r.apply block symbols j).map fun derived => (false, derived) := by
  have all (l : List Match) (seen : List Entry) :
      StateT.run (l.anyM (m := StateT (List Entry) (Except EvaluationError)) fun m => do
        if ← r.keeps symbols m then modify (· ++ (r.derive? block m).toList)
        return false) seen =
      (allKept (r.keeps symbols) l).map fun kept =>
        (false, seen ++ kept.filterMap (r.derive? block)) := by
    induction l generalizing seen with
    | nil => exact congrArg (fun l => Except.ok (false, l)) (List.append_nil seen).symm
    | cons m rest ih =>
      rw [List.anyM, allKept]
      cases r.keeps symbols m with
      | error e => rfl
      | ok passes =>
        cases passes with
        | false =>
          refine (ih seen).trans ?_
          cases allKept (r.keeps symbols) rest with
          | error e => rfl
          | ok others => rfl
        | true =>
          refine (ih (seen ++ (r.derive? block m).toList)).trans ?_
          cases allKept (r.keeps symbols) rest with
          | error e => rfl
          | ok others =>
            refine congrArg (fun l => Except.ok (false, l)) ?_
            cases derived : r.derive? block m with
            | none => simp [derived]
            | some e => simp [derived]
  rw [gather, Join.visit_eq_walk _ _ _ _ _ _ fun _ => rfl, apply, candidates, Join.matchesOf]
  cases walk : j.walk r.body { declared := bodyVars r.body } .empty false with
  | ok found =>
    refine (all found []).trans ?_
    change _ = ((allKept (r.keeps symbols) found).map _).map _
    cases allKept (r.keeps symbols) found with
    | error e => rfl
    | ok kept => rfl
  | error limit =>
    rw [Join.walk_error j _ _ _ _ walk]
    rfl

/-- Whether a rule has a match depends on which facts are stored, not on their order. -/
theorem hasMatch_congr [Patterns] {facts others : FactSet}
    (same : ∀ e, e ∈ others.toList ↔ e ∈ facts.toList) (trust : Trust) (deadline : Deadline) :
    r.hasMatch symbols { facts := others, trust, deadline } =
      r.hasMatch symbols { facts, trust, deadline } := by
  have pairs : others.pairs = facts.pairs := Set.ext fun p => same ⟨p.1, p.2⟩
  have never : World.hasMatch { facts := others } r trust symbols .never =
      World.hasMatch { facts } r trust symbols .never := by
    rw [World.hasMatch_eq_ask, World.hasMatch_eq_ask, pairs]
  cases deadline with
  | never => exact never
  | passed =>
    change World.hasMatch { facts := others } r trust symbols .passed =
      World.hasMatch { facts } r trust symbols .passed
    rw [World.hasMatch_passed, World.hasMatch_passed, pairs, never]

/-- The search that ends at the first match that passes gives the answer of the derivation of
everything: that something is derived, that nothing is, or the same error. An expression at fault
further on is never missed, and the order of the facts makes no difference. -/
theorem hasMatch_eq_apply [Patterns] (wellFormed : r.isWellFormed) (facts : FactSet) (trust : Trust)
    (symbols : Symbols) (deadline : Deadline) (block : BlockId) :
    r.hasMatch symbols { facts, trust, deadline } =
        (r.apply block symbols { facts, trust, deadline }).map (!·.isEmpty) ∧
      r.search symbols { facts, trust, deadline } =
        r.hasMatch symbols { facts, trust, deadline } ∧
      (r.gather block symbols { facts, trust, deadline }).run [] =
        (r.apply block symbols { facts, trust, deadline }).map (fun derived => (false, derived)) ∧
      ∀ others : FactSet, (∀ e, e ∈ others.toList ↔ e ∈ facts.toList) →
        r.hasMatch symbols { facts := others, trust, deadline } =
          r.hasMatch symbols { facts, trust, deadline } := by
  refine ⟨?early, search_eq_hasMatch .., gather_eq_apply .., fun others same =>
    hasMatch_congr same trust deadline⟩
  case early =>
    rw [hasMatch, apply]
    cases candidates : r.candidates { facts, trust, deadline } with
    | error e => rfl
    | ok l =>
      have derives : ∀ m ∈ l, (r.derive? block m).isSome := by
        intro m hm
        exact isSome_derive? wellFormed block (candidates_eq_ok candidates ▸ hm)
      change firstKept _ l = ((allKept _ l).map _).map _
      rw [firstKept_eq_allKept keeps_peaceful fun _ => keeps_error]
      cases all : allKept (r.keeps symbols) l with
      | error e => rfl
      | ok kept =>
        cases kept with
        | nil => rfl
        | cons m rest =>
          have stored : m ∈ l := ((mem_allKept all).1 (List.mem_cons_self ..)).1
          obtain ⟨e, derived⟩ := Option.isSome_iff_exists.1 (derives m stored)
          exact congrArg (fun l : List Entry => Except.ok !l.isEmpty)
            (List.filterMap_cons_some derived).symm

/-- The first fact is one that the expression cannot be asked about, the second passes. -/
theorem hasMatch_eq_apply_division :
    let r : Rule Nat Nat :=
      { head := ⟨1024, [.var 0]⟩, body := [⟨1025, [.var 0]⟩], scopes := []
        expressions := [⟨[.value (.int 4), .value (.var 0), .binary .div, .value (.int 2),
          .binary .equal]⟩] }
    let facts : FactSet := .ofList [⟨.ofList [.block 0], ⟨1025, [.int 0]⟩⟩,
      ⟨.ofList [.authorizer], ⟨1025, [.int 2]⟩⟩]
    let j : Join := { facts, trust := .default }
    r.isWellFormed ∧ r.hasMatch .empty j = .ok true ∧
      (r.apply (.block 0) .empty j).map (!·.isEmpty) = .ok true := by
  intro r facts j
  have wellFormed : r.isWellFormed := by decide
  have found : r.hasMatch .empty j = .ok true := by decide +kernel
  have agree := hasMatch_eq_apply wellFormed facts .default .empty .never (.block 0)
  exact ⟨wellFormed, found, agree.1.symm.trans found⟩

end Rule

end Warrant
