import Warrant.Proofs.Calls

/-! Checks and policies asked one by one.
A hearing is what a decision asks, over any kind of names: checks in order, each with its place and
what its queries rely on, and then policies. `ruling` walks through them with the answers to the
queries and ends at the first error. Where every answer is at hand it comes to `decision`, which
says in terms of the queries that match which checks fail and which policy decides; and it comes
to the same for two hearings whose queries are answered alike. -/

namespace Warrant

/-- A check with its place: what it stands in, and its index there. -/
structure Asked (σ κ : Type) where
  site : BlockId × Nat
  check : Check σ κ
  trust : Rule σ κ → Trust

structure Hearing (σ κ : Type) where
  checks : List (Asked σ κ)
  policies : List (Policy σ κ)
  /-- What the queries of the policies rely on. -/
  trust : Rule σ κ → Trust

/-- The policy that matched, if one did, and the checks that failed. -/
structure Ruling (σ κ : Type) where
  policy : Option MatchedPolicy
  failed : List (Asked σ κ)

namespace Ruling

variable {σ κ : Type}

/-- A ruling by places alone. -/
def outline (r : Ruling σ κ) : Option MatchedPolicy × List (BlockId × Nat) :=
  (r.policy, r.failed.map (·.site))

end Ruling

/-- A policy by its place, as a decision names it. -/
def matchedPolicy {σ κ : Type} (p : Policy σ κ × Nat) : MatchedPolicy :=
  match p.1.kind with
  | .allow => .allow p.2
  | .deny => .deny p.2

/-- Whether a check holds, in terms of which queries match. -/
def Check.Holds {σ κ : Type} (c : Check σ κ) (matched : Rule σ κ → Prop) : Prop :=
  match c.kind with
  | .one => ∃ q ∈ c.queries, matched q
  | .all => ∀ q ∈ c.queries, matched q
  | .reject => ¬ ∃ q ∈ c.queries, matched q

/-- The first that matches, if one does. An error before it ends the walk. -/
def firstOf {α ε : Type} (matched : α → Except ε Bool) : List α → Except ε (Option α)
  | [] => .ok none
  | p :: rest => do if ← matched p then return some p else firstOf matched rest

namespace Hearing

variable {σ κ ε : Type}

/-- The checks that fail and the first policy that matches, given the answers to queries. -/
def ruling (h : Hearing σ κ) (ask : Trust → Rule σ κ → Except ε Bool) :
    Except ε (Ruling σ κ) := do
  let failed ← Rule.allKept
    (fun c => (c.check.passes fun q => ask (c.trust q) q).map not) h.checks
  let first ← firstOf
    (fun p => Rule.firstKept (fun q => ask (h.trust q) q) p.1.queries) h.policies.zipIdx
  return { policy := first.map matchedPolicy, failed }

theorem ruling_eq_ok_iff {h : Hearing σ κ} {ask : Trust → Rule σ κ → Except ε Bool}
    {r : Ruling σ κ} : h.ruling ask = .ok r ↔
      Rule.allKept (fun c => (c.check.passes fun q => ask (c.trust q) q).map not) h.checks =
        .ok r.failed ∧
      (firstOf (fun p => Rule.firstKept (fun q => ask (h.trust q) q) p.1.queries)
        h.policies.zipIdx).map (Option.map matchedPolicy) = .ok r.policy := by
  unfold ruling
  cases Rule.allKept (fun c => (c.check.passes fun q => ask (c.trust q) q).map not) h.checks with
  | error e => exact ⟨nofun, fun both => nomatch both.1⟩
  | ok failed =>
    cases firstOf (fun p => Rule.firstKept (fun q => ask (h.trust q) q) p.1.queries)
        h.policies.zipIdx with
    | error e => exact ⟨nofun, fun both => nomatch both.2⟩
    | ok first =>
      constructor
      · intro same
        cases same
        exact ⟨rfl, rfl⟩
      · intro both
        obtain ⟨policy, checks⟩ := r
        cases both.1
        cases both.2
        rfl

open Classical in
/-- The checks that do not hold and the first policy with a query that matches. -/
noncomputable def decision (h : Hearing σ κ) (matched : Trust → Rule σ κ → Prop) :
    Ruling σ κ where
  policy := (h.policies.zipIdx.find? fun p =>
    ∃ q ∈ p.1.queries, matched (h.trust q) q).map matchedPolicy
  failed := h.checks.filter fun c => ¬ c.check.Holds fun q => matched (c.trust q) q

end Hearing

/-! Where an answer is an error. -/

section Errors

variable {α σ κ ε : Type} {e : ε}

theorem map_eq_error_iff {β : Type} {x : Except ε α} {f : α → β} :
    x.map f = .error e ↔ x = .error e := by
  cases x <;> simp [Except.map]

theorem firstKept_error {keep : α → Except ε Bool} {l : List α}
    (h : Rule.firstKept keep l = .error e) : ∃ a ∈ l, keep a = .error e := by
  rcases Rule.firstKept_cases keep l with ⟨result, -⟩ | ⟨result, -⟩ | ⟨d, result, found⟩
  · cases h.symm.trans result
  · cases h.symm.trans result
  · cases h.symm.trans result
    exact found

theorem Check.passes_error {c : Check σ κ} {ask : Rule σ κ → Except ε Bool}
    (h : c.passes ask = .error e) : ∃ q ∈ c.queries, ask q = .error e := by
  unfold Check.passes at h
  cases kind : c.kind with
  | one =>
    rw [kind] at h
    exact firstKept_error h
  | all =>
    rw [kind] at h
    simpa only [map_eq_error_iff] using firstKept_error (map_eq_error_iff.1 h)
  | reject =>
    rw [kind] at h
    exact firstKept_error (map_eq_error_iff.1 h)

theorem firstOf_error {matched : α → Except ε Bool} {l : List α}
    (h : firstOf matched l = .error e) : ∃ a ∈ l, matched a = .error e := by
  induction l with
  | nil => cases h
  | cons a rest ih =>
    rw [firstOf] at h
    cases first : matched a with
    | error d =>
      rw [first] at h
      cases h
      exact ⟨a, List.mem_cons_self .., first⟩
    | ok b =>
      rw [first] at h
      cases b with
      | true => cases h
      | false =>
        obtain ⟨c, hc, fault⟩ := ih h
        exact ⟨c, List.mem_cons_of_mem _ hc, fault⟩

/-- Whether a rule is among the queries of the checks and policies. -/
def Hearing.Asks (h : Hearing σ κ) (q : Rule σ κ) : Prop :=
  (∃ c ∈ h.checks, q ∈ c.check.queries) ∨ ∃ p ∈ h.policies, q ∈ p.queries

/-- An error in a ruling is one in the answer to a query. -/
theorem Hearing.ruling_error {h : Hearing σ κ} {ask : Trust → Rule σ κ → Except ε Bool}
    (ruled : h.ruling ask = .error e) : ∃ trust q, h.Asks q ∧ ask trust q = .error e := by
  unfold Hearing.ruling at ruled
  cases checked : Rule.allKept
      (fun c => (c.check.passes fun q => ask (c.trust q) q).map not) h.checks with
  | error d =>
    rw [checked] at ruled
    cases ruled
    obtain ⟨c, hc, failed⟩ := Rule.allKept_error checked
    obtain ⟨q, hq, fault⟩ := Check.passes_error (map_eq_error_iff.1 failed)
    exact ⟨_, q, .inl ⟨c, hc, hq⟩, fault⟩
  | ok failed =>
    cases matched : firstOf
        (fun p => Rule.firstKept (fun q => ask (h.trust q) q) p.1.queries) h.policies.zipIdx with
    | error d =>
      rw [checked, matched] at ruled
      cases ruled
      obtain ⟨p, hp, failed⟩ := firstOf_error matched
      obtain ⟨q, hq, fault⟩ := firstKept_error failed
      exact ⟨_, q, .inr ⟨p.1, List.fst_mem_of_mem_zipIdx hp, hq⟩, fault⟩
    | ok first =>
      rw [checked, matched] at ruled
      cases ruled

end Errors

/-! Where the answers are at hand. -/

/-- An answer that is there and right. -/
def Tells {ε : Type} (x : Except ε Bool) (p : Prop) : Prop := x = .ok true ∧ p ∨ x = .ok false ∧ ¬ p

namespace Tells

variable {α ε σ κ : Type} {l : List α} {x : Except ε Bool} {p : Prop}

theorem eq_true_iff (h : Tells x p) : x = .ok true ↔ p := by
  rcases h with ⟨rfl, yes⟩ | ⟨rfl, no⟩
  · exact iff_of_true rfl yes
  · exact iff_of_false nofun no

theorem exists_eq (h : Tells x p) : ∃ b, x = .ok b := by
  rcases h with ⟨rfl, -⟩ | ⟨rfl, -⟩
  · exact ⟨true, rfl⟩
  · exact ⟨false, rfl⟩

theorem not (h : Tells x p) : Tells (x.map not) (¬ p) := by
  rcases h with ⟨rfl, yes⟩ | ⟨rfl, no⟩
  · exact .inr ⟨rfl, not_not_intro yes⟩
  · exact .inl ⟨rfl, no⟩

theorem firstKept {keep : α → Except ε Bool} {p : α → Prop}
    (h : ∀ a ∈ l, Tells (keep a) (p a)) : Tells (Rule.firstKept keep l) (∃ a ∈ l, p a) := by
  rcases Rule.firstKept_cases keep l with
    ⟨result, a, ha, kept⟩ | ⟨result, none⟩ | ⟨e, result, a, ha, fault⟩
  · exact .inl ⟨result, a, ha, (h a ha).eq_true_iff.1 kept⟩
  · refine .inr ⟨result, ?_⟩
    rintro ⟨a, ha, yes⟩
    cases (none a ha).symm.trans ((h a ha).eq_true_iff.2 yes)
  · obtain ⟨b, answer⟩ := (h a ha).exists_eq
    cases fault.symm.trans answer

theorem passes {c : Check σ κ} {ask : Rule σ κ → Except ε Bool} {matched : Rule σ κ → Prop}
    (h : ∀ q ∈ c.queries, Tells (ask q) (matched q)) : Tells (c.passes ask) (c.Holds matched) := by
  unfold Check.passes Check.Holds
  cases c.kind with
  | one => exact firstKept h
  | all =>
    have some := (firstKept fun q hq => (h q hq).not).not
    simpa using some
  | reject => exact (firstKept h).not

open Classical in
theorem allKept {keep : α → Except ε Bool} {p : α → Prop} (h : ∀ a ∈ l, Tells (keep a) (p a)) :
    Rule.allKept keep l = .ok (l.filter fun a => p a) := by
  refine Rule.allKept_eq_ok_iff.2 ⟨fun a ha => (h a ha).exists_eq, ?_⟩
  exact List.filter_congr fun a ha => decide_eq_decide.2 (h a ha).eq_true_iff.symm

open Classical in
theorem firstOf {matched : α → Except ε Bool} {p : α → Prop}
    (h : ∀ a ∈ l, Tells (matched a) (p a)) : firstOf matched l = .ok (l.find? fun a => p a) := by
  induction l with
  | nil => rfl
  | cons a rest ih =>
    have later := ih fun b hb => h b (List.mem_cons_of_mem _ hb)
    rw [Warrant.firstOf, later, List.find?_cons]
    rcases h a (List.mem_cons_self ..) with ⟨answer, yes⟩ | ⟨answer, no⟩
    · rw [answer, decide_eq_true yes]
      rfl
    · rw [answer, decide_eq_false no]
      rfl

end Tells

theorem tells_ask {accepted failed : Prop} (h : failed → accepted) :
    Tells (ask accepted failed) accepted := by
  unfold ask
  by_cases yes : accepted
  · rw [if_pos yes]
    exact .inl ⟨rfl, yes⟩
  · rw [if_neg yes, if_neg (mt h yes)]
    exact .inr ⟨rfl, yes⟩

theorem Hearing.ruling_eq_decision {σ κ ε : Type} {h : Hearing σ κ}
    (ask : Trust → Rule σ κ → Except ε Bool) (matched : Trust → Rule σ κ → Prop)
    (checks : ∀ c ∈ h.checks, ∀ q ∈ c.check.queries,
      Tells (ask (c.trust q) q) (matched (c.trust q) q))
    (policies : ∀ p ∈ h.policies, ∀ q ∈ p.queries,
      Tells (ask (h.trust q) q) (matched (h.trust q) q)) :
    h.ruling ask = .ok (h.decision matched) := by
  have failed := Tells.allKept fun c hc => (Tells.passes (checks c hc)).not
  have first := Tells.firstOf fun (p : Policy σ κ × Nat) (hp : p ∈ h.policies.zipIdx) =>
    Tells.firstKept (policies p.1 (List.fst_mem_of_mem_zipIdx hp))
  rw [ruling, failed, first, decision]
  refine congrArg Except.ok ?_
  congr!

/-! Where the answers are the same. -/

section Congruence

variable {α γ ε σ κ τ μ : Type} {l : List α} {r : List γ}

theorem firstKept_congr {keep : α → Except ε Bool} {keep' : γ → Except ε Bool}
    (h : List.Forall₂ (fun a c => keep a = keep' c) l r) :
    Rule.firstKept keep l = Rule.firstKept keep' r := by
  induction h with
  | nil => rfl
  | cons same _ ih => simp only [Rule.firstKept, same, ih]

theorem firstOf_congr {β : Type} {matched : α → Except ε Bool} {matched' : γ → Except ε Bool}
    {f : α → β} {g : γ → β}
    (h : List.Forall₂ (fun a c => matched a = matched' c ∧ f a = g c) l r) :
    (firstOf matched l).map (Option.map f) = (firstOf matched' r).map (Option.map g) := by
  induction h with
  | nil => rfl
  | cons same _ ih =>
    simp only [firstOf, ← same.1]
    cases matched _ with
    | error e => rfl
    | ok b =>
      cases b with
      | true => exact congrArg (fun x => Except.ok (some x)) same.2
      | false => exact ih

theorem allKept_congr {β : Type} {keep : α → Except ε Bool} {keep' : γ → Except ε Bool}
    {f : α → β} {g : γ → β} (h : List.Forall₂ (fun a c => keep a = keep' c ∧ f a = g c) l r) :
    (Rule.allKept keep l).map (List.map f) = (Rule.allKept keep' r).map (List.map g) := by
  induction h with
  | nil => rfl
  | @cons a c as cs same _ ih =>
    simp only [Rule.allKept, ← same.1]
    cases keep a with
    | error e => rfl
    | ok b =>
      generalize Rule.allKept keep as = x at ih ⊢
      generalize Rule.allKept keep' cs = y at ih ⊢
      cases x with
      | error e =>
        cases y with
        | error d => exact ih
        | ok out => cases ih
      | ok kept =>
        cases y with
        | error d => cases ih
        | ok out =>
          have later : kept.map f = out.map g := Except.ok.inj ih
          cases b with
          | true => exact congrArg Except.ok (congrArg₂ List.cons same.2 later)
          | false => exact ih

end Congruence

/-! The hearing of an authorizer. -/

def FailedCheck.site : FailedCheck → BlockId × Nat
  | .block i j _ => (.block i, j)
  | .authorizer j _ => (.authorizer, j)

/-- What is told of a check that failed. -/
def Asked.told (u : Symbols) (c : Asked Nat Nat) : FailedCheck :=
  match c.site with
  | (.block i, j) => .block i j (u.renderCheck c.check)
  | (.authorizer, j) => .authorizer j (u.renderCheck c.check)

/-- A question without the way in which it is told. -/
def Authorizer.Question.asked (q : Authorizer.Question) : Asked Nat Nat :=
  { site := (q.failure "").site, check := q.check, trust := q.trust }

/-- The answer that a ruling comes to. -/
def Ruling.result (u : Symbols) (r : Ruling Nat Nat) : Except AuthorizerError Nat :=
  let failed := r.failed.map (Asked.told u)
  match r.policy with
  | some (.allow i) =>
    if failed = [] then .ok i else .error (.refused (.unauthorized (.allow i) failed))
  | some (.deny i) => .error (.refused (.unauthorized (.deny i) failed))
  | none => .error (.refused (.noMatchingPolicy failed))

namespace Authorizer

/-- The checks and policies of the authorizer and its trust, as they are asked. -/
structure Heard where
  trust : Trust
  checks : List (Check Nat Nat)
  policies : List (Policy Nat Nat)

/-- What `authorize` takes into the table once the world has run. -/
def heard (a : Authorizer) : Heard × Authorizer :=
  let (trust, a) := a.defaultTrust
  let (checks, a) := a.intern (a.checks.mapM Check.intern)
  let (policies, a) := a.intern (a.policies.mapM Policy.intern)
  ({ trust, checks, policies }, a)

/-- The checks block by block, and then those of the authorizer. -/
def hears (a : Authorizer) (heard : Heard) : Hearing Nat Nat where
  checks := ((a.blocks.getD []).zipIdx.flatMap fun (b, i) => b.checks.zipIdx.map fun (check, j) =>
      { site := (.block i, j), check
        trust := fun q => .ofScopes q.scopes b.trust (.block i) a.owners }) ++
    heard.checks.zipIdx.map fun (check, j) =>
      { site := (.authorizer, j), check, trust := a.trustOf heard.trust }
  policies := heard.policies
  trust := a.trustOf heard.trust

variable {a : Authorizer} {deadline : Deadline}

theorem verdict_eq_result (u : Symbols) (r : Ruling Nat Nat) :
    (verdict (r.failed.map (Asked.told u)) r.policy).mapError .refused = r.result u := by
  obtain ⟨policy, failed⟩ := r
  rcases policy with _ | ⟨i | i⟩
  · rfl
  · simp only [verdict, Ruling.result, List.isEmpty_iff]
    split
    · rfl
    · rfl
  · rfl

variable [Patterns]

theorem failedChecks_eq {questions : List Question}
    (told : ∀ q ∈ questions, ∀ u : Symbols, q.failure (u.renderCheck q.check) = q.asked.told u) :
    a.failedChecks deadline questions =
      (Rule.allKept (fun c => (c.check.passes fun q =>
        a.world.hasMatch q (c.trust q) a.symbols deadline).map not)
        (questions.map Question.asked)).map (List.map (Asked.told a.symbols)) := by
  induction questions with
  | nil => rfl
  | cons q rest ih =>
    have later := ih fun p hp => told p (List.mem_cons_of_mem _ hp)
    generalize answer :
      (q.check.passes fun r => a.world.hasMatch r (q.trust r) a.symbols deadline) = verdict
    have same : (q.asked.check.passes fun r =>
      a.world.hasMatch r (q.asked.trust r) a.symbols deadline) = verdict := answer
    simp only [failedChecks, later, List.map_cons, Rule.allKept, answer, same]
    cases verdict with
    | error e => rfl
    | ok passed =>
      generalize Rule.allKept _ (rest.map Question.asked) = others
      cases others with
      | error e => rfl
      | ok failed =>
        cases passed with
        | true => rfl
        | false =>
          exact congrArg (fun first => Except.ok (first :: failed.map (Asked.told a.symbols)))
            (told q (List.mem_cons_self ..) a.symbols)

theorem firstPolicy_eq (trust : Trust) (policies : List (Policy Nat Nat × Nat)) :
    a.firstPolicy deadline trust policies =
      (firstOf (fun p => Rule.firstKept
        (fun q => a.world.hasMatch q (a.trustOf trust q) a.symbols deadline) p.1.queries)
        policies).map (Option.map matchedPolicy) := by
  induction policies with
  | nil => rfl
  | cons p rest ih =>
    rw [firstPolicy, firstOf, ih]
    cases Rule.firstKept
        (fun q => a.world.hasMatch q (a.trustOf trust q) a.symbols deadline) p.1.queries with
    | error e => rfl
    | ok b =>
      cases b with
      | true => rfl
      | false => rfl

theorem conclude_eq (a : Authorizer) (deadline : Deadline) (heard : Heard) :
    a.conclude deadline heard.trust heard.checks heard.policies =
      ((a.hears heard).ruling fun trust q =>
        a.world.hasMatch q trust a.symbols deadline).mapError .evaluation >>=
        Ruling.result a.symbols := by
  have asked : (a.blockQuestions ++ a.ownQuestions heard.trust heard.checks).map Question.asked =
      (a.hears heard).checks := by
    simp only [List.map_append, blockQuestions, ownQuestions, List.map_flatMap, List.map_map]
    rfl
  have told : ∀ q ∈ a.blockQuestions ++ a.ownQuestions heard.trust heard.checks,
      ∀ u : Symbols, q.failure (u.renderCheck q.check) = q.asked.told u := by
    intro q hq u
    rcases List.mem_append.1 hq with hq | hq
    · obtain ⟨⟨b, i⟩, -, hq⟩ := List.mem_flatMap.1 hq
      obtain ⟨⟨check, j⟩, -, rfl⟩ := List.mem_map.1 hq
      rfl
    · obtain ⟨⟨check, j⟩, -, rfl⟩ := List.mem_map.1 hq
      rfl
  have matched : a.firstPolicy deadline heard.trust heard.policies.zipIdx =
      (firstOf (fun p => Rule.firstKept
        (fun q => a.world.hasMatch q ((a.hears heard).trust q) a.symbols deadline) p.1.queries)
        (a.hears heard).policies.zipIdx).map (Option.map matchedPolicy) := firstPolicy_eq ..
  rw [conclude, Hearing.ruling]
  simp only [failedChecks_eq told, asked, matched]
  change _ = Except.bind _ _
  generalize Rule.allKept _ (a.hears heard).checks = failed
  cases failed with
  | error e => rfl
  | ok failed =>
    generalize firstOf _ _ = first
    cases first with
    | error e => rfl
    | ok first => exact verdict_eq_result a.symbols ⟨first.map matchedPolicy, failed⟩

/-- An evaluation: the world runs, and once it has come to its end something is asked. -/
def evaluate {α : Type} (a : Authorizer) (limits : RunLimits)
    (ask : Authorizer → Except AuthorizerError α × Authorizer) :
    Except AuthorizerError α × Authorizer :=
  match a.saturate limits with
  | (.error e, b) => (.error (.evaluation e), b)
  | (.ok (), b) => ask b

/-- What `authorize` asks over the world as it stands. -/
def concluded (limits : RunLimits) (b : Authorizer) : Except AuthorizerError Nat × Authorizer :=
  (b.heard.2.conclude limits.deadline b.heard.1.trust b.heard.1.checks b.heard.1.policies,
    b.heard.2)

/-- What `query` asks over the world as it stands. -/
def answered (r : Rule String PublicKey) (limits : RunLimits) (b : Authorizer) :
    Except AuthorizerError (List (Fact String)) × Authorizer :=
  let (rule, b) := b.intern r.intern
  let (trust, b) := b.defaultTrust
  let answer : Except AuthorizerError (List (Fact String)) := do
    let found ← (b.world.query rule .authorizer (b.trustOf trust rule) b.symbols
      limits.deadline).mapError .evaluation
    let facts := (found.toList.map (·.fact)).eraseDups
    (facts.mapM (Atom.resolve b.symbols)).mapError .ofTransfer
  (answer, b)

theorem authorize_eq_evaluate (a : Authorizer) (limits : RunLimits) :
    a.authorize limits = a.evaluate limits (concluded limits) := by
  unfold authorize evaluate
  generalize a.saturate limits = ended
  obtain ⟨result, b⟩ := ended
  cases result with
  | error e => rfl
  | ok => rfl

theorem query_eq_evaluate (a : Authorizer) {r : Rule String PublicKey} (valid : r.validate = .ok ())
    (limits : RunLimits) : a.query r limits = a.evaluate limits (answered r limits) := by
  unfold query evaluate
  rw [valid]
  generalize a.saturate limits = ended
  obtain ⟨result, b⟩ := ended
  cases result with
  | error e => rfl
  | ok => rfl

theorem query_of_invalid {r : Rule String PublicKey} (invalid : r.validate ≠ .ok ())
    (limits : RunLimits) : (a.query r limits).2 = a := by
  unfold query
  cases tested : r.validate with
  | error e => rfl
  | ok => exact absurd tested invalid

/-- An evaluation that no limit and no fault ends has let the world come to its end. -/
theorem saturate_of_evaluate {α : Type} {limits : RunLimits}
    {ask : Authorizer → Except AuthorizerError α × Authorizer}
    (complete : ∀ e, (a.evaluate limits ask).1 ≠ .error (.evaluation e)) :
    (a.saturate limits).1 = .ok () := by
  unfold evaluate at complete
  generalize a.saturate limits = ended at complete ⊢
  obtain ⟨result, b⟩ := ended
  cases result with
  | error e => exact absurd rfl (complete e)
  | ok => rfl

/-- What is asked after the world has run is taken into the table and nowhere else. -/
theorem evaluate_world {α : Type} {limits : RunLimits}
    {ask : Authorizer → Except AuthorizerError α × Authorizer}
    (still : ∀ b, (ask b).2.world = b.world) :
    (a.evaluate limits ask).2.world = (a.saturate limits).2.world := by
  unfold evaluate
  generalize a.saturate limits = ended
  obtain ⟨result, b⟩ := ended
  cases result with
  | error e => rfl
  | ok => exact still b

theorem authorize_world (a : Authorizer) (limits : RunLimits) :
    (a.authorize limits).2.world = (a.saturate limits).2.world := by
  rw [authorize_eq_evaluate]
  exact evaluate_world fun _ => rfl

/-- What the first call of `authorize` asks. -/
def hearing (a : Authorizer) : Hearing Nat Nat := a.ready.heard.2.hears a.ready.heard.1

/-- The table that it asks with. -/
def table (a : Authorizer) : Symbols := a.ready.heard.2.symbols

/-- The first call of `authorize` lets the world run and then asks. -/
theorem authorize_eq (fresh : a.Unevaluated) (limits : RunLimits) : (a.authorize limits).1 =
    let ended := a.ready.world.run a.ready.symbols limits limits.deadline
    match ended.1 with
    | .error e => .error (.evaluation e)
    | .ok () =>
      (a.hearing.ruling fun trust q =>
        ended.2.hasMatch q trust a.table limits.deadline).mapError .evaluation >>=
        Ruling.result a.table := by
  unfold authorize
  rw [saturate_eq fresh]
  simp only
  generalize a.ready.world.run a.ready.symbols limits limits.deadline = ended
  obtain ⟨result, final⟩ := ended
  cases result with
  | error e => rfl
  | ok =>
    let asking : Authorizer := { a.ready.heard.2 with world := final }
    exact asking.conclude_eq limits.deadline a.ready.heard.1

end Authorizer

/-- The decision in an answer, if it is one: the policy that matched and the checks that failed. -/
def decided? : Except AuthorizerError Nat → Option (Option MatchedPolicy × List FailedCheck)
  | .ok i => some (some (.allow i), [])
  | .error (.refused (.unauthorized policy failed)) => some (some policy, failed)
  | .error (.refused (.noMatchingPolicy failed)) => some (none, failed)
  | .error _ => none

theorem decided?_result (u : Symbols) (r : Ruling Nat Nat) :
    decided? (r.result u) = some (r.policy, r.failed.map (Asked.told u)) := by
  obtain ⟨policy, failed⟩ := r
  rcases policy with _ | ⟨i | i⟩
  · rfl
  · by_cases none : failed.map (Asked.told u) = []
    · simp only [Ruling.result, none, if_true]
      rfl
    · simp only [Ruling.result, none, if_false]
      rfl
  · rfl

/-- The decision by places alone. -/
def outlined (answer : Except AuthorizerError Nat) :
    Option (Option MatchedPolicy × List (BlockId × Nat)) :=
  (decided? answer).map fun d => (d.1, d.2.map FailedCheck.site)

theorem site_told (u : Symbols) (c : Asked Nat Nat) : (c.told u).site = c.site := by
  obtain ⟨⟨id, j⟩, check, trust⟩ := c
  cases id with
  | block i => rfl
  | authorizer => rfl

theorem result_eq_ok_iff {u : Symbols} {r : Ruling Nat Nat} {i : Nat} :
    r.result u = .ok i ↔ r.outline = (some (.allow i), []) := by
  obtain ⟨policy, failed⟩ := r
  rcases policy with _ | ⟨j | j⟩
  · simp [Ruling.result, Ruling.outline]
  · by_cases none : failed = []
    · simp [Ruling.result, Ruling.outline, none]
    · simp [Ruling.result, Ruling.outline, none]
  · simp [Ruling.result, Ruling.outline]

theorem outlined_result (u : Symbols) (r : Ruling Nat Nat) :
    outlined (r.result u) = some r.outline := by
  have sites : (r.failed.map (Asked.told u)).map FailedCheck.site = r.failed.map (·.site) := by
    rw [List.map_map]
    exact List.map_congr_left fun c _ => site_told u c
  rw [outlined, decided?_result, Option.map_some, sites]
  rfl

theorem outlined_ruling (u : Symbols) (asked : Except EvaluationError (Ruling Nat Nat)) :
    outlined (asked.mapError AuthorizerError.evaluation >>= Ruling.result u) =
      (asked.map Ruling.outline).toOption := by
  cases asked with
  | error e => rfl
  | ok r => exact outlined_result u r

/-- A request is allowed exactly when a policy that allows matches and no check fails. -/
theorem Authorizer.authorize_eq_ok_iff [Patterns] {a : Authorizer} (fresh : a.Unevaluated)
    {limits : RunLimits} {i : Nat} : (a.authorize limits).1 = .ok i ↔
      outlined (a.authorize limits).1 = some (some (.allow i), []) := by
  rw [authorize_eq fresh]
  generalize a.ready.world.run a.ready.symbols limits limits.deadline = ended
  obtain ⟨result, final⟩ := ended
  cases result with
  | error e => exact ⟨nofun, nofun⟩
  | ok =>
    simp only
    generalize a.hearing.ruling _ = ruling
    cases ruling with
    | error e => exact ⟨nofun, nofun⟩
    | ok r =>
      change r.result a.table = _ ↔ outlined (r.result a.table) = _
      rw [outlined_result, result_eq_ok_iff, Option.some.injEq]

end Warrant
