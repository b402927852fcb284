import Warrant.Proofs.Listing

/-! What a query answers.
The world runs to its end first; the answer is then what the rule concludes from what is stored,
read with the table, each fact once. Different facts in the table read differently, so nothing is
lost or repeated on the way out, and whatever a fact can be found by, it is told once. A query adds
to the table only, and the second time it finds all that it needs there: the world has nothing left
to do, and the answer is the same. -/

namespace Warrant

open Interning Provenance

/-- What is stored, read with a table. -/
def World.texts (u : Symbols) (w : World) : Set (Origin × Fact String) :=
  {p | ∃ f, (p.1, f) ∈ w.facts.pairs ∧ f.resolve u = .ok p.2}

section Texts

variable {u : Symbols} {w : World}

theorem LegibleFacts.corresponds (legible : LegibleFacts u w.facts.pairs) :
    Corresponds (Atom.Names u) w.facts.pairs (w.texts u) where
  forth p hp := by
    obtain ⟨text, names⟩ := legible p hp
    exact ⟨(p.1, text), ⟨p.2, hp, Atom.resolve_of_names names⟩, rfl, names⟩
  back q hq := by
    obtain ⟨f, hf, resolves⟩ := hq
    obtain ⟨text, names⟩ := legible _ hf
    obtain rfl : text = q.2 := Except.ok.inj ((Atom.resolve_of_names names).symm.trans resolves)
    exact ⟨(q.1, f), hf, rfl, names⟩

/-- Facts that are written out once each make a list in which nothing comes twice. -/
theorem mem_resolved (sound : u.Sound) {l : List (Fact Nat)} {list : List (Fact String)}
    (legible : ∀ g ∈ l, ∃ text, g.Names u text)
    (h : l.eraseDups.mapM (Atom.resolve u) = .ok list) :
    list.Nodup ∧ ∀ f, f ∈ list ↔ ∃ g ∈ l, g.Names u f := by
  have names {g : Fact Nat} (hg : g ∈ l.eraseDups) : g.Names u (g.read u) := by
    obtain ⟨text, names⟩ := legible g (List.mem_eraseDups.1 hg)
    rwa [names.read_eq]
  have read : l.eraseDups.mapM (Atom.resolve u) = pure (l.eraseDups.map (Atom.read u)) := by
    refine mapM_eq_pure (List.forall₂_map_right_iff.2 (List.forall₂_same.2 fun g hg => ?_))
    exact Atom.resolve_of_names (names hg)
  obtain rfl : l.eraseDups.map (Atom.read u) = list := Except.ok.inj (read.symm.trans h)
  constructor
  · refine (nodup_eraseDups l).map_on fun g hg g' hg' equal => ?_
    exact (names hg).inj sound (equal ▸ names hg')
  · intro f
    simp only [List.mem_map, List.mem_eraseDups]
    constructor
    · rintro ⟨g, hg, rfl⟩
      exact ⟨g, hg, names (List.mem_eraseDups.2 hg)⟩
    · rintro ⟨g, hg, named⟩
      exact ⟨g, hg, named.read_eq⟩

variable [Patterns] (sound : u.Sound) (legible : LegibleFacts u w.facts.pairs) {r : Rule Nat Nat}
  {q : Rule String PublicKey} (named : r.Names u q) {block : BlockId} {trust : Trust}
  {deadline : Deadline} {found : FactSet} (h : w.query r block trust u deadline = .ok found)

include sound legible named h

theorem World.legible_found : ∀ g ∈ found.toList.map (·.fact), ∃ text, g.Names u text := by
  intro g hg
  obtain ⟨used, may, concludes⟩ := (Authorizer.mem_query h).1 hg
  obtain ⟨texts, given⟩ := legible.exists_texts may
  obtain ⟨text, names, -⟩ := Rule.derives_of_concludes sound named given concludes
  exact ⟨text, names⟩

/-- What a query finds reads as what the rule derives from the readings of what is stored. -/
theorem World.names_found_iff {f : Fact String} :
    (∃ g ∈ found.toList.map (·.fact), g.Names u f) ↔
      ∃ used, MayUse trust (w.texts u) used ∧ q.Derives (used.map (·.2)) f := by
  have same := legible.corresponds
  constructor
  · rintro ⟨g, hg, names⟩
    obtain ⟨used, may, concludes⟩ := (Authorizer.mem_query h).1 hg
    obtain ⟨texts, may, related⟩ := same.mayUse_forth may
    obtain ⟨text, names', derives⟩ :=
      Rule.derives_of_concludes sound named (facts_of_same related) concludes
    obtain rfl : f = text := names.read_eq.symm.trans names'.read_eq
    exact ⟨texts, may, derives⟩
  · rintro ⟨texts, may, derives⟩
    obtain ⟨used, may, related⟩ := same.mayUse_back may
    obtain ⟨g, names, concludes⟩ :=
      Rule.concludes_of_derives sound named (facts_of_same related) derives
    exact ⟨g, (Authorizer.mem_query h).2 ⟨used, may, concludes⟩, names⟩

end Texts

namespace Authorizer

variable {a b : Authorizer}

/-! What is kept by every step. -/

namespace Traced

variable {told : Set (Origin × Fact Nat)} {ever : Set RuleEntry}

theorem exists_step [Patterns] (h : a.Traced told ever) (x : Step) :
    ∃ more others, (a.step x).Traced more others := by
  have call (c : Call) : ∃ more others, (a.after c).Traced more others := by
    obtain ⟨more, next, -⟩ := h.call c
    exact ⟨_, _, next⟩
  cases x with
  | act y =>
    obtain ⟨more, next, -⟩ := h.act y
    exact ⟨_, _, next⟩
  | decide kind =>
    rw [step, addDecision_eq]
    exact call _
  | clock now =>
    rw [step, setTime_eq]
    exact call _
  | limit limits => exact ⟨_, _, h.of_world rfl h.sound (.refl _)⟩

theorem exists_steps [Patterns] (h : a.Traced told ever) (xs : List Step) :
    ∃ more others, (a.steps xs).Traced more others := by
  induction xs generalizing a told ever with
  | nil => exact ⟨_, _, h⟩
  | cons x rest ih =>
    obtain ⟨more, others, next⟩ := h.exists_step x
    exact ih next

end Traced

/-! One answer. -/

section Answer

variable {told : Set (Origin × Fact Nat)} {ever : Set RuleEntry} {r : Rule String PublicKey}
  {limits : RunLimits} {list : List (Fact String)}

/-- An answer holds, once each, what the rule derives from what is stored. -/
theorem Traced.mem_answered [Patterns] (h : a.Traced told ever)
    (fits : (answered r limits a).2.symbols.Fits) (ok : (answered r limits a).1 = .ok list) :
    let asking := (a.intern r.intern).2
    let trust := asking.defaultTrust.2.trustOf asking.defaultTrust.1 (a.intern r.intern).1
    list.Nodup ∧ ∀ f, f ∈ list ↔ ∃ used,
      MayUse trust (a.world.texts (answered r limits a).2.symbols) used ∧
        (r.rename id id).Derives (used.map (·.2)) f := by
  intro asking trust
  obtain ⟨sound₁, grows₁, lasting⟩ := ensures_internRule r a.symbols h.sound
  obtain ⟨sound, grows₂, -⟩ := ensures_all ensures_internScope a.scopes _ sound₁
  set u := (answered r limits a).2.symbols
  have named : (a.intern r.intern).1.Names u (r.rename id id) := lasting u sound fits grows₂
  have legible := h.stored sound fits (grows₁.trans grows₂)
  have asked : (answered r limits a).1 =
      ((a.world.query (a.intern r.intern).1 .authorizer trust u limits.deadline).mapError
        .evaluation >>= fun found =>
          ((found.toList.map (·.fact)).eraseDups.mapM (Atom.resolve u)).mapError .ofTransfer) := rfl
  rw [asked] at ok
  cases query : a.world.query (a.intern r.intern).1 .authorizer trust u limits.deadline with
  | error e =>
    rw [query] at ok
    cases ok
  | ok found =>
    rw [query] at ok
    obtain ⟨nodup, members⟩ := mem_resolved sound
      (World.legible_found sound legible named query) (Rule.mapError_eq_ok_iff.1 ok)
    exact ⟨nodup, fun f => (members f).trans (World.names_found_iff sound legible named query)⟩

end Answer

/-! Asking again. -/

theorem intern_again {α : Type} {x : StateM Symbols α} {number : Symbols → Option α}
    (enters : Enters x number) {t : Symbols} (fits : b.symbols.Fits)
    (later : (x t).2.Grows b.symbols) : b.intern x = ((x t).1, b) := by
  rw [intern, show x.run b.symbols = _ from enters.again fits later]

theorem defaultTrust_again (scopes : b.scopes = a.scopes) (owners : b.owners = a.owners)
    (fits : b.symbols.Fits) (later : a.defaultTrust.2.symbols.Grows b.symbols) :
    b.defaultTrust = (a.defaultTrust.1, b) := by
  have again := intern_again (enters_mapM enters_scope a.scopes) fits later
  rw [defaultTrust, scopes, again]
  change (Trust.ofScopes _ .default .authorizer b.owners, b) = _
  rw [owners]
  rfl

/-- Where nothing waits and the trust is what it was, a world that has come to its end is left as
it is. -/
theorem saturate_again [Patterns] {trust : Trust} (pending : b.pending = [])
    (converged : b.world.phase = .converged) (known : b.defaultTrust = (trust, b))
    (trusts : ∀ e ∈ b.world.rules, e.block = .authorizer → e.trust = b.trustOf trust e.rule)
    (limits : RunLimits) : b.saturate limits = (.ok (), b) := by
  have same := World.updateTrust_of_same trusts
  have ready : b.pending.foldl (load trust) { b with pending := [] } = b := by
    obtain ⟨⟩ := b
    cases pending
    rfl
  simp only [saturate, known, ready, same, converged, if_true]

/-- What is asked of the same authorizer again finds all its names in the table. -/
theorem answered_again [Patterns] {r : Rule String PublicKey} {limits : RunLimits}
    (fits : (answered r limits a).2.symbols.Fits) :
    answered r limits (answered r limits a).2 = answered r limits a := by
  set b := (answered r limits a).2
  have scopes := (enters_mapM enters_scope a.scopes).grows (a.intern r.intern).2.symbols
  have rule : b.intern r.intern = ((a.intern r.intern).1, b) :=
    intern_again (enters_rule r) fits scopes
  have trust : b.defaultTrust = ((a.intern r.intern).2.defaultTrust.1, b) :=
    defaultTrust_again rfl rfl fits (.refl _)
  unfold answered
  simp only [rule, trust]
  rfl

/-- After a complete evaluation there is nothing left to do, whatever has been asked since. -/
theorem saturate_settled [Patterns] {limits : RunLimits}
    (saturated : (a.saturate limits).1 = .ok ())
    (same : b = { (a.saturate limits).2 with symbols := b.symbols }) (fits : b.symbols.Fits)
    (later : (a.saturate limits).2.symbols.Grows b.symbols) (more : RunLimits) :
    b.saturate more = (.ok (), b) := by
  have state := saturate_state a limits
  have pending : b.pending = [] := by rw [same, state, ready_eq]
  have scopes : b.scopes = a.scopes := by rw [same, state, ready_scopes]
  have owners : b.owners = a.owners := by rw [same, state, ready_owners]
  have world : b.world = (a.saturate limits).2.world := by rw [same]
  have converged : b.world.phase = .converged := by
    rw [world]
    rcases a.saturate_cases limits with ⟨converged, -, still⟩ | ends
    · rw [still]
      exact converged
    · rw [saturated] at ends
      exact ends.phase_of_ok
  have taken : a.defaultTrust.2.symbols.Grows a.ready.symbols := by
    rw [ready_symbols]
    exact (enters_mapM enters_rule a.pending).grows _
  rw [saturate_symbols] at later
  have known := defaultTrust_again scopes owners fits (taken.trans later)
  refine saturate_again pending converged known (fun e he own => ?_) more
  rw [world, saturate_rules] at he
  rw [trustOf, owners]
  exact begun_trust e he own

/-- Where there is an answer, a deadline has made no difference to it. -/
theorem answered_never [Patterns] {r : Rule String PublicKey} {limits more : RunLimits}
    {list : List (Fact String)} (ok : (answered r limits a).1 = .ok list)
    (never : more.deadline = .never) : answered r more a = answered r limits a := by
  have free : answered r more a = answered r {} a := by
    unfold answered
    rw [never, deadline_default]
  rcases answered_limited_or_eq r limits a with ⟨limit, limited⟩ | same
  · cases ok.symm.trans limited
  · exact free.trans same.symm

/-- A query that has an answer has let the world come to its end. -/
theorem query_eq_answered [Patterns] {r : Rule String PublicKey} {limits : RunLimits}
    {list : List (Fact String)} (ok : (a.query r limits).1 = .ok list) :
    r.validate = .ok () ∧ (a.saturate limits).1 = .ok () ∧
      a.query r limits = answered r limits (a.saturate limits).2 := by
  have valid : r.validate = .ok () := by
    cases tested : r.validate with
    | ok => rfl
    | error e =>
      rw [query, tested] at ok
      cases ok
  rw [query_eq_evaluate a valid] at ok ⊢
  have saturated := saturate_of_evaluate fun e failed => nomatch ok.symm.trans failed
  refine ⟨valid, saturated, ?_⟩
  unfold evaluate
  generalize a.saturate limits = ended at saturated
  obtain ⟨result, s⟩ := ended
  cases saturated
  rfl

section Query

variable [Patterns] {told : Set (Origin × Fact Nat)} {ever : Set RuleEntry}
  {r : Rule String PublicKey}
  {limits : RunLimits} {list : List (Fact String)} (h : a.Traced told ever)
  (fits : (a.query r limits).2.symbols.Fits) (ok : (a.query r limits).1 = .ok list)

include h fits ok

/-- The answer to a query in terms of the token whose keys the authorizer knows. -/
theorem Traced.mem_query_answer {t : Token}
    (owners : ∀ u : Symbols, u.Sound → a.symbols.Grows u → a.owners.Signs u t.signed) :
    list.Nodup ∧ ∀ f, f ∈ list ↔ ∃ used : List (Origin × Fact String),
      (∀ p ∈ used, p ∈ (a.query r limits).2.world.texts (a.query r limits).2.symbols ∧
        ∀ i ∈ p.1, i ∈ t.relied some .authorizer r.scopes a.scopes) ∧
      (r.rename id id).Derives (used.map (·.2)) f := by
  obtain ⟨-, -, asked⟩ := query_eq_answered ok
  have before := h.saturate limits
  have state := saturate_state a limits
  have scopes : (a.saturate limits).2.scopes = a.scopes := by rw [state, ready_scopes]
  have knows (u : Symbols) (su : u.Sound) (later : (a.saturate limits).2.symbols.Grows u) :
      (a.saturate limits).2.owners.Signs u t.signed := by
    rw [state, ready_owners]
    rw [saturate_symbols] at later
    exact owners u su ((ready_grows h.sound).2.trans later)
  rw [asked] at fits ok ⊢
  obtain ⟨nodup, members⟩ := before.mem_answered fits ok
  have relies := members_query before.sound knows r
  rw [scopes] at relies
  refine ⟨nodup, fun f => (members f).trans ?_⟩
  refine exists_congr fun used => and_congr_left fun _ => forall₂_congr fun p _ => ?_
  refine and_congr_right fun _ => Trust.reads_iff.trans (forall₂_congr fun i _ => ?_)
  rw [← relies]
  exact Iff.rfl

/-- The same query once more. -/
theorem Traced.query_again {more : RunLimits} (never : more.deadline = .never) :
    (a.query r limits).2.query r more = a.query r limits := by
  obtain ⟨valid, saturated, asked⟩ := query_eq_answered ok
  have later := (h.query valid limits).1
  rw [asked] at fits ok later ⊢
  have settled := saturate_settled saturated rfl fits later more
  have same := answered_again fits
  rw [query_eq_evaluate _ valid, Authorizer.evaluate, settled]
  change answered r more _ = _
  rw [answered_never (same ▸ ok) never, same]

end Query

/-- An answer holds each fact that the rule derives once, however many ways there are to derive it:
with facts that are stored when the world has come to its end, all of which can be read, and that
depend on nothing but what the rule relies on. The sets of the rule are in order there. The query
stores nothing besides what the rules of the world derive, and asking again finds nothing to do and
gives the same answer, unless a deadline has passed. The table must stay below the limit for
variables. -/
theorem answers_of_query [Patterns] (initial : RunLimits) (xs : List Step)
    (r : Rule String PublicKey) (limits : RunLimits) (list : List (Fact String)) :
    let a := (ofLimits initial).steps xs
    let t : Token := ⟨tokenBlocks ((ofLimits initial).acceptedCalls xs)⟩
    let b := (a.query r limits).2
    b.symbols.Fits → (a.query r limits).1 = .ok list →
      list.Nodup ∧
      (∀ f, f ∈ list ↔ ∃ used : List (Origin × Fact String),
        (∀ p ∈ used, p ∈ b.world.texts b.symbols ∧
          ∀ i ∈ p.1, i ∈ t.relied some .authorizer r.scopes a.scopes) ∧
        (r.rename id id).Derives (used.map (·.2)) f) ∧
      (∀ e ∈ b.world.facts.toList, ∃ text, e.fact.resolve b.symbols = .ok text) ∧
      b.world = (a.saturate limits).2.world ∧
      b.world.facts.pairs = least (b.world.clauses b.symbols) a.world.facts.pairs ∧
      ∀ more : RunLimits, more.deadline = .never → b.query r more = (.ok list, b) := by
  intro a t b fits ok
  obtain ⟨told, ever, traced⟩ := (Traced.initial initial).exists_steps xs
  have recorded := (Recorded.initial initial).steps Symbols.sound_empty xs
  obtain ⟨valid, saturated, asked⟩ := query_eq_answered ok
  obtain ⟨later, after⟩ := traced.query valid limits
  have world : b.world = (a.saturate limits).2.world := by
    change (a.query r limits).2.world = _
    rw [asked]
    rfl
  have answer := traced.mem_query_answer fits ok recorded.owners
  refine ⟨answer.1, answer.2, fun e he => ?_, world, ?_, fun more never => ?_⟩
  · obtain ⟨text, names⟩ := after.stored after.sound fits (.refl _) e.pair he
    exact ⟨text, Atom.resolve_of_names names⟩
  · rw [world]
    rw [saturate_symbols] at later
    exact traced.facts_of_saturate saturated after.sound fits later
  · rw [traced.query_again fits ok never, ← ok]

/-- The same right stated by the issuer, by a third party and by the authorizer, with a rule that
copies it, asked for with every other right. -/
theorem answers_of_query_request :
    let signer : PublicKey := ⟨.ed25519, [7]⟩
    let fact (name text : String) : Fact String := ⟨name, [.str text]⟩
    let atom (name term : String) : Atom String := ⟨name, [.var term]⟩
    let issuer : BlockDraft := { facts := [fact "right" "one", fact "right" "two"] }
    let party : BlockDraft := { facts := [fact "right" "one"] }
    let copy : Rule String PublicKey :=
      { head := atom "member" "f", body := [atom "right" "f"], expressions := [], scopes := [] }
    let xs : List Step := [.act (.call (.fact (fact "right" "one"))),
      .act (.call (.token ⟨[issuer.build none, party.build (some signer)]⟩)),
      .act (.call (.rule copy))]
    let r : Rule String PublicKey :=
      { head := atom "found" "f", body := [atom "right" "f", atom "member" "g"], expressions := []
        scopes := [.authority, .key signer] }
    let a := (ofLimits {}).steps xs
    let b := (a.query r {}).2
    let list := [fact "found" "one", fact "found" "two"]
    (a.query r {}).1 = .ok list ∧ b.world.facts.size = 7 ∧ list.Nodup ∧
      b.query r { maxFacts := 0 } = (.ok list, b) := by
  intro signer fact atom issuer party copy xs r
  have fits : (((ofLimits {}).steps xs).query r {}).2.symbols.Fits := by decide +kernel
  have ok : (((ofLimits {}).steps xs).query r {}).1 =
      .ok [fact "found" "one", fact "found" "two"] := by decide +kernel
  have never : ({ maxFacts := 0 } : RunLimits).deadline = .never := by decide
  have all := answers_of_query {} xs r {} _ fits ok
  dsimp only
  exact ⟨ok, by decide +kernel, all.1, all.2.2.2.2.2 _ never⟩

end Authorizer

end Warrant
