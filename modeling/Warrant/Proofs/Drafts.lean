import Warrant.Proofs.Acceptance
import Warrant.Proofs.Decision
import Warrant.Proofs.Readback

/-! From a draft into an authorizer.
A draft takes in statements that pass a test by name. The block made of it numbers its names, and
the authorizer that loads the block tests it by number and numbers it again. Nothing is lost on the
way: a block made of a draft is always accepted where there is no token yet, and what is then stored
under its place reads back as what the draft was told. -/

namespace Warrant

open Interning

/-- What can be done with a draft. -/
inductive DraftStep where
  | fact (f : Fact String)
  | rule (r : Rule String PublicKey)
  | check (c : Check String PublicKey)
  | scope (s : Scope PublicKey)
  | context (text : String)

/-- Whether all sets that come with a step are in order. -/
def DraftStep.InOrder : DraftStep → Prop
  | .fact f => ∀ t ∈ f.terms, t.InOrder
  | .rule r => ∀ t ∈ r.terms, t.InOrder
  | .check c => ∀ q ∈ c.queries, ∀ t ∈ q.terms, t.InOrder
  | .scope _ => True
  | .context _ => True

/-- The test that a statement has to pass. -/
def DraftStep.validate : DraftStep → Except StatementError Unit
  | .fact f => f.validateFact
  | .rule r => r.validate
  | .check c => c.validate
  | .scope _ | .context _ => .ok ()

@[simp] def DraftStep.fact? : DraftStep → Option (Fact String)
  | .fact f => some f
  | _ => none

@[simp] def DraftStep.rule? : DraftStep → Option (Rule String PublicKey)
  | .rule r => some r
  | _ => none

@[simp] def DraftStep.check? : DraftStep → Option (Check String PublicKey)
  | .check c => some c
  | _ => none

@[simp] def DraftStep.scope? : DraftStep → Option (Scope PublicKey)
  | .scope s => some s
  | _ => none

@[simp] def DraftStep.context? : DraftStep → Option String
  | .context text => some text
  | _ => none

namespace BlockDraft

variable {d : BlockDraft} {x : DraftStep}

def attempt (d : BlockDraft) : DraftStep → Except StatementError BlockDraft
  | .fact f => d.addFact f
  | .rule r => d.addRule r
  | .check c => d.addCheck c
  | .scope s => .ok (d.addScope s)
  | .context text => .ok (d.setContext text)

/-- The draft after a step, which is the one before if the step is refused. -/
def step (d : BlockDraft) (x : DraftStep) : BlockDraft :=
  match d.attempt x with
  | .ok e => e
  | .error _ => d

/-- What comes of steps. -/
def ofSteps (xs : List DraftStep) : BlockDraft := xs.foldl step {}

/-- The statements of the steps that pass their test, in the order of the steps, and the last
context. -/
def ofPassed (xs : List DraftStep) : BlockDraft :=
  let passed := xs.filter (·.validate.isOk)
  { facts := passed.filterMap DraftStep.fact?
    rules := passed.filterMap DraftStep.rule?
    checks := passed.filterMap DraftStep.check?
    scopes := passed.filterMap DraftStep.scope?
    context := (passed.filterMap DraftStep.context?).getLast? }

/-- The draft with its sets in order. -/
def ordered (d : BlockDraft) : BlockDraft :=
  { d with
    facts := d.facts.map (Atom.rename id)
    rules := d.rules.map (Rule.rename id id)
    checks := d.checks.map (Check.rename id id) }

theorem tested_eq_ok_iff {x : Except StatementError Unit} {e : BlockDraft} :
    (x >>= fun _ => pure d) = .ok e ↔ x = .ok () ∧ d = e := by
  cases x with
  | error => exact iff_of_false nofun nofun
  | ok => exact ⟨fun h => ⟨rfl, Except.ok.inj h⟩, fun h => congrArg _ h.2⟩

theorem tested_eq_error_iff {x : Except StatementError Unit} {e : StatementError} :
    (x >>= fun _ => pure d) = .error e ↔ x = .error e := by
  cases x with
  | error =>
    constructor
    · rintro ⟨⟩
      rfl
    · rintro ⟨⟩
      rfl
  | ok => exact iff_of_false nofun nofun

/-- A step is refused if its statement does not pass its test, and for no other reason. -/
theorem attempt_eq_error_iff {e : StatementError} :
    d.attempt x = .error e ↔ x.validate = .error e := by
  cases x with
  | fact => exact tested_eq_error_iff
  | rule => exact tested_eq_error_iff
  | check => exact tested_eq_error_iff
  | scope => exact iff_of_false nofun nofun
  | context => exact iff_of_false nofun nofun

/-- What a step can do: add one statement that passes its test at the end, or nothing if it does
not pass. -/
inductive Moved (d : BlockDraft) : DraftStep → BlockDraft → Prop where
  | refused {x : DraftStep} {e : StatementError} (invalid : x.validate = .error e) : Moved d x d
  | fact {f : Fact String} (valid : f.validateFact = .ok ()) :
    Moved d (.fact f) { d with facts := d.facts ++ [f] }
  | rule {r : Rule String PublicKey} (valid : r.validate = .ok ()) :
    Moved d (.rule r) { d with rules := d.rules ++ [r] }
  | check {c : Check String PublicKey} (valid : c.validate = .ok ()) :
    Moved d (.check c) { d with checks := d.checks ++ [c] }
  | scope (s : Scope PublicKey) : Moved d (.scope s) { d with scopes := d.scopes ++ [s] }
  | context (text : String) : Moved d (.context text) { d with context := some text }

theorem moved_step (d : BlockDraft) (x : DraftStep) : d.Moved x (d.step x) := by
  unfold step
  cases attempted : d.attempt x with
  | error => exact .refused (attempt_eq_error_iff.1 attempted)
  | ok e =>
    cases x with
    | fact f =>
      obtain ⟨valid, rfl⟩ := tested_eq_ok_iff.1 attempted
      exact .fact valid
    | rule r =>
      obtain ⟨valid, rfl⟩ := tested_eq_ok_iff.1 attempted
      exact .rule valid
    | check c =>
      obtain ⟨valid, rfl⟩ := tested_eq_ok_iff.1 attempted
      exact .check valid
    | scope s =>
      cases attempted
      exact .scope s
    | context text =>
      cases attempted
      exact .context text

theorem ofPassed_concat_of_error {xs : List DraftStep} {e : StatementError}
    (invalid : x.validate = .error e) : ofPassed (xs ++ [x]) = ofPassed xs := by
  have dropped : (xs ++ [x]).filter (·.validate.isOk) = xs.filter (·.validate.isOk) := by
    rw [List.filter_append, List.filter_singleton, invalid]
    exact List.append_nil _
  rw [ofPassed, dropped]
  rfl

theorem filter_concat_of_ok (xs : List DraftStep) (valid : x.validate = .ok ()) :
    (xs ++ [x]).filter (·.validate.isOk) = xs.filter (·.validate.isOk) ++ [x] := by
  rw [List.filter_append, List.filter_singleton, valid]
  rfl

/-- A draft holds the statements of its steps that pass their test, in order, and no others. -/
theorem ofSteps_eq_ofPassed (xs : List DraftStep) : ofSteps xs = ofPassed xs := by
  induction xs using List.reverseRecOn with
  | nil => rfl
  | append_singleton xs x ih =>
    have moved := moved_step (ofPassed xs) x
    rw [ofSteps, List.foldl_concat, ← ofSteps, ih]
    generalize (ofPassed xs).step x = d at moved
    cases moved with
    | refused invalid => exact (ofPassed_concat_of_error invalid).symm
    | fact valid =>
      have last := filter_concat_of_ok xs (x := .fact _) valid
      simp [ofPassed, last]
    | rule valid =>
      have last := filter_concat_of_ok xs (x := .rule _) valid
      simp [ofPassed, last]
    | check valid =>
      have last := filter_concat_of_ok xs (x := .check _) valid
      simp [ofPassed, last]
    | scope s =>
      have last := filter_concat_of_ok xs (x := .scope s) rfl
      simp [ofPassed, last]
    | context text =>
      have last := filter_concat_of_ok xs (x := .context text) rfl
      simp [ofPassed, last]

/-- What holds of the statements of a draft. -/
structure All (d : BlockDraft) (fact : Fact String → Prop) (rule : Rule String PublicKey → Prop) :
    Prop where
  facts : ∀ f ∈ d.facts, fact f
  rules : ∀ r ∈ d.rules, rule r
  checks : ∀ c ∈ d.checks, ∀ q ∈ c.queries, rule q

/-- Only what passes its test gets into a draft, and nothing but what it is told. -/
theorem all_ofSteps {fact : Fact String → Prop} {rule : Rule String PublicKey → Prop}
    {xs : List DraftStep}
    (facts : ∀ f, .fact f ∈ xs → f.validateFact = .ok () → fact f)
    (rules : ∀ r, .rule r ∈ xs → r.validate = .ok () → rule r)
    (checks : ∀ c, .check c ∈ xs → ∀ q ∈ c.queries, q.validate = .ok () → rule q) :
    (ofSteps xs).All fact rule := by
  induction xs using List.reverseRecOn with
  | nil => exact ⟨nofun, nofun, nofun⟩
  | append_singleton xs x ih =>
    have before := ih (fun f hf => facts f (List.mem_append_left _ hf))
      (fun r hr => rules r (List.mem_append_left _ hr))
      (fun c hc => checks c (List.mem_append_left _ hc))
    have last : x ∈ xs ++ [x] := List.mem_append_right _ (List.mem_singleton_self x)
    have moved := moved_step (ofSteps xs) x
    rw [ofSteps, List.foldl_concat, ← ofSteps]
    generalize (ofSteps xs).step x = d at moved
    cases moved with
    | refused => exact before
    | fact valid =>
      refine ⟨?_, before.rules, before.checks⟩
      refine List.forall_mem_append.2 ⟨before.facts, ?_⟩
      exact List.forall_mem_singleton.2 (facts _ last valid)
    | rule valid =>
      refine ⟨before.facts, ?_, before.checks⟩
      refine List.forall_mem_append.2 ⟨before.rules, ?_⟩
      exact List.forall_mem_singleton.2 (rules _ last valid)
    | check valid =>
      refine ⟨before.facts, before.rules, List.forall_mem_append.2 ⟨before.checks, ?_⟩⟩
      refine List.forall_mem_singleton.2 fun q hq => checks _ last q hq ?_
      exact forM_eq_ok_iff.1 valid q hq
    | scope => exact ⟨before.facts, before.rules, before.checks⟩
    | context => exact ⟨before.facts, before.rules, before.checks⟩

/-- All statements have passed their test. -/
def Tested (d : BlockDraft) : Prop :=
  d.All (fun f => f.validateFact = .ok ()) fun r => r.validate = .ok ()

theorem tested_ofSteps (xs : List DraftStep) : (ofSteps xs).Tested :=
  all_ofSteps (fun _ _ => id) (fun _ _ => id) fun _ _ _ _ => id

/-- Sets that are in order stay what they are. -/
theorem ordered_ofSteps {xs : List DraftStep} (h : ∀ x ∈ xs, x.InOrder) :
    (ofSteps xs).ordered = ofSteps xs := by
  have all : (ofSteps xs).All (fun f => ∀ t ∈ f.terms, t.isWellFormed ∧ t.InOrder)
      fun r => ∀ t ∈ r.terms, t.isWellFormed ∧ t.InOrder := by
    refine all_ofSteps (fun f hf valid t ht => ⟨?_, h _ hf t ht⟩)
      (fun r hr valid t ht => ⟨?_, h _ hr t ht⟩) fun c hc q hq valid t ht => ⟨?_, h _ hc q hq t ht⟩
    · exact (Atom.validateFact_eq_ok_iff.1 valid t ht).2
    · exact (Rule.validate_eq_ok_iff.1 valid).1 t ht
    · exact (Rule.validate_eq_ok_iff.1 valid).1 t ht
  rw [ordered, map_eq_self fun f hf => Atom.rename_id (all.facts f hf),
    map_eq_self fun r hr => Rule.rename_id (all.rules r hr),
    map_eq_self fun c hc => Check.rename_id (all.checks c hc)]

end BlockDraft

/-! The block of a draft. -/

theorem Term.isWellFormed_intern (t : Term String) (s : Symbols) (formed : t.isWellFormed) :
    (t.intern s).1.isWellFormed := by
  have plain (x : Term String) (s : Symbols) (plain : x.isPlain) : (x.intern s).1.isPlain := by
    cases x with
    | var => cases plain
    | set => cases plain
    | _ => rfl
  cases t with
  | set l =>
    have all : ∀ x ∈ (l.mapM Term.intern s).1, x.isPlain :=
      all_mapM plain l s (List.all_eq_true.1 formed)
    refine List.all_eq_true.2 fun x hx => all x ?_
    have there : x ∈ (Term.mapAllM Symbols.internVariable Symbols.intern l s).1 :=
      Sorted.mem_ofList.1 hx
    rwa [Term.mapAllM_eq_mapM] at there
  | _ => rfl

theorem Term.isVar_intern (t : Term String) (s : Symbols) : (t.intern s).1.isVar = t.isVar := by
  cases t with
  | _ => rfl

/-- A tested fact holds no variable in a table either. -/
theorem Atom.isGround_intern {f : Fact String} (valid : f.validateFact = .ok ()) (s : Symbols) :
    (f.intern s).1.isGround := by
  refine List.all_eq_true.2 (all_mapM (P := fun t => t.isVar = false ∧ t.isWellFormed)
    (fun t s h => ?_) f.terms _ (validateFact_eq_ok_iff.1 valid))
  exact Term.isGround_of_isWellFormed ((t.isVar_intern s).trans h.1) (t.isWellFormed_intern s h.2)

/-- Where a first step comes to a result, the next goes on with it. -/
theorem run_bind_of_ok {ε α β : Type} {x : ExceptT ε (StateM Symbols) α}
    {f : α → ExceptT ε (StateM Symbols) β} {s t : Symbols} {a : α} (h : x.run s = (.ok a, t)) :
    (x >>= f).run s = (f a).run t := by
  rw [Symbols.run_bind_eq, h]
  rfl

theorem Atom.convert_run {f : Fact String} (valid : f.validateFact = .ok ()) (s : Symbols) :
    f.convert.run s = (.ok (f.intern s).1, (f.intern s).2) := by
  have step : f.convert.run s =
      (if (f.intern s).1.isGround then pure (f.intern s).1
        else throw (.invalidFact f.display) : ExceptT StatementError (StateM Symbols) _).run
          (f.intern s).2 := by
    unfold convert
    rw [valid]
    rfl
  rw [step, if_pos (isGround_intern valid s)]
  rfl

theorem Atom.convertAll_run {l : List (Fact String)} (valid : ∀ f ∈ l, f.validateFact = .ok ())
    (s : Symbols) :
    (l.mapM convert).run s = (.ok (l.mapM Atom.intern s).1, (l.mapM Atom.intern s).2) := by
  induction l generalizing s with
  | nil => rfl
  | cons f rest ih =>
    obtain ⟨here, later⟩ := List.forall_mem_cons.1 valid
    rw [List.mapM_cons, run_bind_of_ok (convert_run here s), run_bind_of_ok (ih later _),
      List.mapM_cons]
    rfl

namespace BlockDraft

variable {d : BlockDraft} {key : Option PublicKey}

/-- Building a block of tested statements never fails. -/
theorem Tested.tryBuild_eq (h : d.Tested) (key : Option PublicKey) :
    d.tryBuild key = .ok (d.build key) := by
  -- only facts are tested on their way, so nothing else can fail
  change ((d.facts.mapM Atom.convert >>= _).run Symbols.empty).1.map _ = _
  rw [run_bind_of_ok (Atom.convertAll_run h.facts .empty)]
  rfl

/-- The block of a draft is the draft in its own table. -/
theorem names_build (fits : (d.build key).symbols.Fits) :
    (d.build key).symbols.Sound ∧
      List.Forall₂ (Atom.Names (d.build key).symbols) (d.build key).facts d.ordered.facts ∧
      List.Forall₂ (Rule.Names (d.build key).symbols) (d.build key).rules d.ordered.rules ∧
      List.Forall₂ (Check.Names (d.build key).symbols) (d.build key).checks d.ordered.checks ∧
      List.Forall₂ (Scope.Names (d.build key).symbols) (d.build key).scopes d.scopes := by
  obtain ⟨sound₁, -, facts⟩ := ensures_all ensures_internAtom d.facts .empty Symbols.sound_empty
  obtain ⟨sound₂, grows₂, rules⟩ := ensures_all ensures_internRule d.rules _ sound₁
  obtain ⟨sound₃, grows₃, checks⟩ := ensures_all ensures_internCheck d.checks _ sound₂
  obtain ⟨sound₄, grows₄, scopes⟩ := ensures_all ensures_internScope d.scopes _ sound₃
  have scopes := scopes _ sound₄ fits (.refl _)
  rw [map_eq_self fun s _ => Scope.rename_id s] at scopes
  exact ⟨sound₄, facts _ sound₄ fits (grows₂.trans (grows₃.trans grows₄)),
    rules _ sound₄ fits (grows₃.trans grows₄), checks _ sound₄ fits grows₄, scopes⟩

/-- What a draft says, in the name of who signs it. -/
def text (d : BlockDraft) (key : Option PublicKey) : BlockText where
  facts := d.facts
  rules := d.rules
  checks := d.checks
  scopes := d.scopes
  owner := key

theorem text_build (fits : (d.build key).symbols.Fits) :
    (d.build key).text = d.ordered.text key := by
  obtain ⟨-, facts, rules, checks, scopes⟩ := names_build fits
  have facts := map_eq_of_forall₂ (facts.imp fun _ _ => Atom.Names.read_eq)
  have rules := map_eq_of_forall₂ (rules.imp fun _ _ => Rule.Names.rename_eq)
  have checks := map_eq_of_forall₂ (checks.imp fun _ _ => Check.Names.rename_eq)
  have scopes := map_eq_of_forall₂ (scopes.imp fun _ _ => Scope.Names.rename_eq)
  rw [Block.text, rules, checks, scopes]
  exact congrArg (fun facts => ({ d.ordered.text key with facts } : BlockText)) facts

/-- The tests by name and those by number agree. -/
theorem Tested.loadable_build (h : d.Tested) (fits : (d.build key).symbols.Fits) :
    (d.build key).Loadable := by
  obtain ⟨sound, facts, rules, checks, scopes⟩ := names_build fits
  have rule {q : Rule Nat Nat} {r : Rule String PublicKey} (valid : r.validate = .ok ())
      (named : q.Names (d.build key).symbols (r.rename id id)) :
      q.Resolves (d.build key).symbols ∧ q.Bound (d.build key).symbols := by
    have usable := Rule.usable_of_validate sound named valid
    have same : q.Names (d.build key).symbols
        (q.rename (d.build key).symbols.textOf (d.build key).symbols.keyOf) :=
      named.rename_eq.symm ▸ named
    exact ⟨usable.resolves, (Rule.isWellFormed_of_names sound same).1 usable.bound⟩
  refine ⟨fun s hs => ?_, fun f hf => ?_, fun q hq => ?_, fun c hc q hq => ?_⟩
  · obtain ⟨_, -, named⟩ := exists_of_forall₂ scopes hs
    exact Scope.resolves_of_names named
  · obtain ⟨s, valid, named⟩ := exists_of_forall₂ (List.forall₂_map_right_iff.1 facts) hf
    have storable := Atom.storable_of_validate named (h.facts s valid)
    have same : f.Names (d.build key).symbols (f.read (d.build key).symbols) := by
      rw [named.read_eq]
      exact named
    exact ⟨storable.resolves, (isGround_of_names storable.resolves same).1 storable.ground⟩
  · obtain ⟨r, hr, named⟩ := exists_of_forall₂ (List.forall₂_map_right_iff.1 rules) hq
    exact rule (h.rules r hr) named
  · obtain ⟨c', hc', named⟩ := exists_of_forall₂ (List.forall₂_map_right_iff.1 checks) hc
    obtain ⟨r, hr, named⟩ := exists_of_forall₂ (List.forall₂_map_right_iff.1 named.queries) hq
    exact rule (h.checks c' hc' r hr) named

/-- The version of a block is one that can be evaluated. -/
theorem version_build (d : BlockDraft) (key : Option PublicKey) :
    3 ≤ (d.build key).version ∧ (d.build key).version ≤ 5 := by
  have bounds (b : Block) : 3 ≤ b.requiredVersion ∧ b.requiredVersion ≤ 5 := by
    unfold Block.requiredVersion
    dsimp only
    split
    · decide
    split
    · decide
    · decide
  exact bounds _

end BlockDraft

/-! What an authorizer makes of it. -/

/-- The parts of a numbered list that belong to one number. -/
theorem filter_flatMap_zipIdx {α β : Type} {l : List α} {f : α × Nat → List β} {test : β → Bool}
    {a : α} {n k : Nat} (there : l[k]? = some a)
    (own : ∀ c j, ∀ b ∈ f (c, j), test b = decide (j = n + k)) :
    ((l.zipIdx n).flatMap f).filter test = f (a, n + k) := by
  induction l generalizing n k with
  | nil => cases there
  | cons c rest ih =>
    rw [List.zipIdx_cons, List.flatMap_cons, List.filter_append]
    cases k with
    | zero =>
      cases there
      have here : (f (a, n)).filter test = f (a, n) :=
        List.filter_eq_self.2 fun b hb => by simp [own a n b hb]
      have others : ((rest.zipIdx (n + 1)).flatMap f).filter test = [] := by
        refine List.filter_eq_nil_iff.2 fun b hb => ?_
        obtain ⟨⟨c', j⟩, place, hb⟩ := List.mem_flatMap.1 hb
        have later := (List.mem_zipIdx place).1
        simp only [own c' j b hb, decide_eq_true_eq]
        omega
      rw [here, others, List.append_nil]
      rfl
    | succ k =>
      have here : (f (c, n)).filter test = [] :=
        List.filter_eq_nil_iff.2 fun b hb => by simp [own c n b hb]
      have place : n + (k + 1) = n + 1 + k := by omega
      rw [here, List.nil_append, place]
      exact ih there fun c j b hb => place ▸ own c j b hb

/-- What is there of a block is a draft: the facts that depend on it, its rules and its checks read
as those of the draft, and rely on what these say. -/
structure BlockDraft.StandsIn (d : BlockDraft) (signed : PublicKey → List BlockId) (i : Nat)
    (b : Authorizer) : Prop where
  facts : ∀ f, (∃ e ∈ b.world.facts.toList, .block i ∈ e.origin ∧
    Atom.resolve b.symbols e.fact = .ok f) ↔ f ∈ d.facts
  origins : ∀ e ∈ b.world.facts.toList, .block i ∈ e.origin →
    e.origin = .singleton (.block i) ∧ ∃ f, Atom.resolve b.symbols e.fact = .ok f
  rules : (b.world.rules.filter (·.block = .block i)).mapM (fun e => e.rule.resolve b.symbols) =
    .ok d.rules
  trusts : (b.world.rules.filter (·.block = .block i)).map (·.trust) = d.rules.map fun r =>
    .written signed r.scopes (.written signed d.scopes .default (.block i)) (.block i)
  checks : ∃ loaded, (b.blocks.getD [])[i]? = some loaded ∧
    loaded.checks.mapM (Check.resolve b.symbols) = .ok d.checks ∧
    loaded.trust = .written signed d.scopes .default (.block i)

section Loaded

variable {t : Token} {i : Nat} {b : Block}

theorem getElem?_texts (there : t.blocks[i]? = some b) :
    (t.blocks.map Block.text)[i]? = some b.text := by
  rw [List.getElem?_map, there]
  rfl

theorem mem_entries_token {p : Origin × Fact String} :
    p ∈ (({} : Session).add (.token t)).entries ↔
      ∃ i b, t.blocks[i]? = some b ∧ p.1 = .singleton (.block i) ∧ p.2 ∈ b.text.facts := by
  rw [Session.entries]
  change p ∈ _ ++ [] ↔ _
  rw [List.append_nil, List.mem_flatMap]
  constructor
  · rintro ⟨⟨text, i⟩, place, written⟩
    have there : (t.blocks.map Block.text)[i]? = some text := List.mem_zipIdx_iff_getElem?.1 place
    rw [List.getElem?_map, Option.map_eq_some_iff] at there
    obtain ⟨b, there, rfl⟩ := there
    obtain ⟨f, hf, rfl⟩ := List.mem_map.1 written
    exact ⟨i, b, there, rfl, hf⟩
  · rintro ⟨i, b, there, origin, hf⟩
    exact ⟨(b.text, i), List.mem_zipIdx_iff_getElem?.2 (getElem?_texts there),
      List.mem_map.2 ⟨p.2, hf, Prod.ext origin.symm rfl⟩⟩

theorem blockRules_token (there : t.blocks[i]? = some b) :
    (({} : Session).add (.token t)).blockRules.filter (·.block = .block i) =
      b.text.rules.map fun rule =>
        { block := .block i, rule
          trust := .written (({} : Session).add (.token t)).signed rule.scopes
            (.ofBlock (({} : Session).add (.token t)).signed b.text i) (.block i) } := by
  rw [Session.blockRules]
  refine (filter_flatMap_zipIdx (getElem?_texts there) fun text j d hd => ?_).trans ?_
  · obtain ⟨r, -, rfl⟩ := List.mem_map.1 hd
    simp
  · rw [Nat.zero_add]

end Loaded

namespace Authorizer

variable {a c : Authorizer} {t : Token} {facts : List Entry} {rules : List RuleEntry}
  {d : BlockDraft} {key : Option PublicKey} {i : Nat} {b : Block}

/-- Nothing belongs to a block before there is a token. -/
theorem Orderly.free_of_blocks (h : a.Orderly) (free : a.blocks = none) (i : Nat) :
    (∀ p ∈ a.world.facts.pairs, .block i ∉ p.1) ∧ ∀ e ∈ a.world.rules, e.block ≠ .block i := by
  have among : ¬ (BlockId.block i).Among a.count := by
    rintro (own | ⟨j, bound, -⟩)
    · cases own
    · rw [count, free] at bound
      exact absurd bound (Nat.not_lt_zero j)
  exact ⟨fun p hp hb => among ((h.facts p hp).among _ hb),
    fun e he same => among (same ▸ (h.rules e he).2)⟩

namespace Takes

variable (takes : a.Takes t c facts rules) (there : t.blocks[i]? = some b)

include takes there

/-- What depends on a block afterwards is one of its facts. -/
theorem exists_text (h : a.Orderly) (free : a.blocks = none) {e : Entry}
    (he : e ∈ c.world.facts.toList) (depends : .block i ∈ e.origin) :
    e.origin = .singleton (.block i) ∧ ∃ f ∈ b.text.facts, Atom.Names c.symbols e.fact f := by
  have stored : e.pair ∈ c.world.facts.pairs := he
  rw [takes.world, FactSet.pairs_insertAll] at stored
  rcases stored with old | new
  · exact absurd depends ((h.free_of_blocks free i).1 _ old)
  · obtain ⟨⟨origin, f⟩, hq, same, named⟩ := exists_of_forall₂ takes.facts (List.mem_map.2 new)
    obtain ⟨j, other, place, rfl, hf⟩ := mem_entries_token.1 hq
    have origin : e.origin = .singleton (.block j) := same
    rw [origin, OrderedSet.mem_singleton] at depends
    cases depends
    cases there.symm.trans place
    exact ⟨origin, f, hf, named⟩

theorem exists_stored {f : Fact String} (hf : f ∈ b.text.facts) :
    ∃ e ∈ c.world.facts.toList, .block i ∈ e.origin ∧ Atom.Names c.symbols e.fact f := by
  have written : (OrderedSet.singleton (.block i), f) ∈ (({} : Session).add (.token t)).entries :=
    mem_entries_token.2 ⟨i, b, there, rfl, hf⟩
  obtain ⟨p, hp, same, named⟩ := exists_of_forall₂ takes.facts.flip written
  obtain ⟨e, he, rfl⟩ := List.mem_map.1 hp
  have stored : e.pair ∈ c.world.facts.pairs := by
    rw [takes.world, FactSet.pairs_insertAll]
    exact .inr ⟨e, he, rfl⟩
  have origin : e.origin = .singleton (.block i) := same
  exact ⟨e, stored, origin ▸ OrderedSet.mem_singleton.2 rfl, named⟩

/-- The rules of a block afterwards are its rules. -/
theorem names_rules (h : a.Orderly) (free : a.blocks = none) :
    List.Forall₂ (fun e r => e.rule.Names c.symbols r ∧
        e.trust = .written (signers (t.blocks.map Block.text) 0) r.scopes
          (.ofBlock (signers (t.blocks.map Block.text) 0) b.text i) (.block i))
      (c.world.rules.filter (·.block = .block i)) b.text.rules := by
  have old : a.world.rules.filter (·.block = .block i) = [] :=
    List.filter_eq_nil_iff.2 fun e he => by simp [(h.free_of_blocks free i).2 e he]
  have new : (c.world.rules.filter (·.block = .block i)) = rules.filter (·.block = .block i) := by
    rw [takes.world, List.filter_append, old, List.nil_append]
  have named := List.rel_filter (p := fun e : RuleEntry => decide (e.block = .block i))
    (q := fun d : Declaration => decide (d.block = .block i)) ?_ takes.rules
  · rw [blockRules_token there, List.forall₂_map_right_iff] at named
    rw [new]
    exact named.imp fun _ _ same => ⟨same.rule, same.trust⟩
  · intro e d same
    simp only [decide_eq_true_eq, same.block]

theorem names_checks : ∃ loaded, (c.blocks.getD [])[i]? = some loaded ∧
    List.Forall₂ (Check.Names c.symbols) loaded.checks b.text.checks ∧
    loaded.trust = .ofBlock (signers (t.blocks.map Block.text) 0) b.text i := by
  obtain ⟨blocks, same, named⟩ := takes.blocks
  have place : (t.blocks.map Block.text).zipIdx[i]? = some (b.text, i) := by
    rw [List.getElem?_zipIdx, getElem?_texts there, Nat.zero_add]
    rfl
  obtain ⟨bound, text⟩ := List.getElem?_eq_some_iff.1 place
  have inside : i < blocks.length := named.length_eq ▸ bound
  have names := named.get inside bound
  rw [List.get_eq_getElem, List.get_eq_getElem, text] at names
  rw [same]
  exact ⟨blocks[i], List.getElem?_eq_getElem inside, names.checks, names.trust⟩

end Takes

/-- A draft stands where its block has been taken in. -/
theorem Takes.standsIn (takes : a.Takes t c facts rules) (h : a.Orderly) (free : a.blocks = none)
    (there : t.blocks[i]? = some (d.build key)) (room : (d.build key).symbols.Fits) :
    d.ordered.StandsIn (signers (t.blocks.map Block.text) 0) i c := by
  -- what the block says is what the draft says, so the names are those of the draft
  have stored (e : Entry) := takes.exists_text there h free (e := e)
  have written (f : Fact String) := takes.exists_stored there (f := f)
  have named := takes.names_rules there h free
  have asked := takes.names_checks there
  rw [BlockDraft.text_build room] at stored written named asked
  refine ⟨fun f => ⟨?_, fun hf => ?_⟩, fun e he depends => ?_, ?_, ?_, ?_⟩
  · rintro ⟨e, he, depends, reads⟩
    obtain ⟨-, g, hg, same⟩ := stored e he depends
    rw [Atom.resolve_of_names same] at reads
    cases reads
    exact hg
  · obtain ⟨e, he, depends, same⟩ := written f hf
    exact ⟨e, he, depends, Atom.resolve_of_names same⟩
  · obtain ⟨origin, f, hf, same⟩ := stored e he depends
    exact ⟨origin, f, Atom.resolve_of_names same⟩
  · exact mapM_eq_pure (named.imp fun _ _ both => Rule.resolve_of_names both.1)
  · exact map_eq_map_of_forall₂ named fun _ _ both => both.2
  · obtain ⟨loaded, place, checks, trust⟩ := asked
    exact ⟨loaded, place, mapM_eq_pure (checks.imp fun _ _ => Check.resolve_of_names), trust⟩

/-- A step is refused exactly if its statement does not pass its test, and a draft holds the
statements that pass, in the order of the steps. A block made of a draft is one that an authorizer
takes in, whatever the draft has been told and whoever signs it. A token of such blocks is accepted
wherever there is no token yet, and in what is there then the statements that passed stand at the
place of their block. Its sets are in order there; a draft that was told them in order is the same
as before. -/
theorem addToken_of_drafts [Patterns] {parts : List (List DraftStep × Option PublicKey)}
    (room : ∀ p ∈ parts, ((BlockDraft.ofSteps p.1).build p.2).symbols.Fits) :
    (∀ (d : BlockDraft) x e, d.attempt x = .error e ↔ x.validate = .error e) ∧
    (∀ p ∈ parts, BlockDraft.ofSteps p.1 = .ofPassed p.1 ∧
      (BlockDraft.ofSteps p.1).tryBuild p.2 = .ok ((BlockDraft.ofSteps p.1).build p.2)) ∧
    ∀ limits xs, let a := (ofLimits limits).steps xs
      let t : Token := ⟨parts.map fun p => (BlockDraft.ofSteps p.1).build p.2⟩
      a.blocks = none → (a.worked (.act (.call (.token t)))).Fits →
        ∃ b, a.addToken t = .ok b ∧ (b.blocks.getD []).length = parts.length ∧
          ∀ (i : Nat) p, parts[i]? = some p →
            (BlockDraft.ofPassed p.1).ordered.StandsIn (signers (t.blocks.map Block.text) 0) i b ∧
            ((∀ x ∈ p.1, x.InOrder) → (BlockDraft.ofPassed p.1).ordered = .ofPassed p.1) := by
  have tested (p : List DraftStep × Option PublicKey) := BlockDraft.tested_ofSteps p.1
  refine ⟨fun _ _ _ => BlockDraft.attempt_eq_error_iff, fun p _ => ?_, ?_⟩
  · exact ⟨BlockDraft.ofSteps_eq_ofPassed p.1, (tested p).tryBuild_eq p.2⟩
  intro limits xs a t free fits
  have sound : a.symbols.Sound := (steps_table Symbols.sound_empty xs).1
  have supported : unsupported? t = none :=
    unsupported?_eq_none_iff.2 (List.forall_mem_map.2 fun p _ => BlockDraft.version_build _ _)
  have loadable : t.Loadable :=
    List.forall_mem_map.2 fun p hp => (tested p).loadable_build (room p hp)
  obtain ⟨b, accepted⟩ : ∃ b, a.addToken t = .ok b := by
    refine (addToken_isOk_iff sound fun _ _ => ?_).2 ⟨free, supported, loadable⟩
    rwa [worked, free, supported] at fits
  rw [worked_of_accepted accepted] at fits
  obtain ⟨facts, rules, takes⟩ := takes_of_addToken sound accepted fits
  have orderly : a.Orderly := (Orderly.initial limits).steps xs (takes.symbols.2.fits fits)
  refine ⟨b, accepted, ?_, fun i p place => ?_⟩
  · obtain ⟨loaded, same, named⟩ := takes.blocks
    rw [same, Option.getD_some, named.length_eq, List.length_zipIdx, List.length_map,
      List.length_map]
  · have there : t.blocks[i]? = some ((BlockDraft.ofSteps p.1).build p.2) := by
      rw [List.getElem?_map, place]
      rfl
    rw [← BlockDraft.ofSteps_eq_ofPassed]
    have stands := takes.standsIn orderly free there (room p (List.mem_of_getElem? place))
    exact ⟨stands, BlockDraft.ordered_ofSteps⟩

/-- A draft that refuses one fact of two, and one of a third party that refuses one check of two.
The table of the authorizer has the strings of its set the other way round. -/
theorem addToken_of_drafts_refused :
    let right (t : Term String) : Fact String := ⟨"right", [t]⟩
    let member : Rule String PublicKey :=
      { head := right (.var "f"), body := [⟨"owner", [.var "f"]⟩], expressions := []
        scopes := [.key ⟨.ed25519, [1]⟩] }
    let unwanted : Check String PublicKey := .ofBody .reject [right (.str "one")]
    let nested : Check String PublicKey := .ofBody .one [right (.set [.var "f"])]
    let issuer : List DraftStep :=
      [.fact (right (.str "two")), .fact (right (.var "f")), .rule member]
    let party : List DraftStep :=
      [.scope .previous, .fact (right (.set [.str "one", .str "two"])), .check unwanted,
        .check nested]
    let parts := [(issuer, none), (party, some ⟨.ed25519, [1]⟩)]
    let xs : List Step := [.act (.call (.rule member)), .act (.authorize {})]
    ∃ b, ((ofLimits {}).steps xs).addToken
        ⟨parts.map fun p => (BlockDraft.ofSteps p.1).build p.2⟩ = .ok b ∧
      (BlockDraft.ofSteps issuer).facts = [right (.str "two")] ∧
      (BlockDraft.ofSteps party).checks = [unwanted] ∧
      (b.world.rules.filter (·.block = .block 0)).mapM (fun e => e.rule.resolve b.symbols) =
        .ok [member] ∧
      (∃ loaded, (b.blocks.getD [])[1]? = some loaded ∧
        loaded.checks.mapM (Check.resolve b.symbols) = .ok [unwanted]) ∧
      ∀ f, (∃ e ∈ b.world.facts.toList, .block 1 ∈ e.origin ∧
        Atom.resolve b.symbols e.fact = .ok f) ↔ f = right (.set [.str "one", .str "two"]) := by
  intro right member unwanted nested issuer party parts xs
  have room : ∀ p ∈ parts, ((BlockDraft.ofSteps p.1).build p.2).symbols.Fits := by decide +kernel
  have fits : (((ofLimits {}).steps xs).worked (.act (.call (.token
      ⟨parts.map fun p => (BlockDraft.ofSteps p.1).build p.2⟩)))).Fits := by decide +kernel
  obtain ⟨-, drafted, loaded⟩ := addToken_of_drafts room
  obtain ⟨b, accepted, -, stands⟩ := loaded {} xs (by decide +kernel) fits
  obtain ⟨first, -⟩ := stands 0 _ rfl
  obtain ⟨second, -⟩ := stands 1 _ rfl
  have issued := (drafted (issuer, none) (.head _)).1
  have signed := (drafted (party, some ⟨.ed25519, [1]⟩) (.tail _ (.head _))).1
  have told : (BlockDraft.ofPassed party).ordered.facts =
      [right (.set [.str "one", .str "two"])] := by decide +kernel
  obtain ⟨block, place, checks, -⟩ := second.checks
  have asked : (BlockDraft.ofPassed party).ordered.checks = [unwanted] := by decide +kernel
  rw [issued, signed]
  refine ⟨b, accepted, by decide +kernel, by decide +kernel, first.rules, ?_, fun f => ?_⟩
  · exact ⟨block, place, asked ▸ checks⟩
  · rw [second.facts f, told, List.mem_singleton]

end Authorizer

end Warrant
