import Warrant.Proofs.Keys
import Warrant.Proofs.Steps

/-! Which blocks a statement relies on.
`Token.relied` says it in terms of the token as it was written: a statement relies on its own block
and on the authorizer, and on what its scopes grant, failing these on what the scopes of its block
or of the authorizer grant, failing these on the first block. Keys count by their value: a scope
that names a key grants every block that was signed with it, whatever the tables of the blocks hold
and in whatever order token, rules and scopes came. The trust that an authorizer works with is that
set at every evaluation (`Authorizer.Relies`). -/

namespace Warrant

open Interning Keyed

/-- The blocks in a trust, as a set. -/
def Trust.members (trust : Trust) : Set BlockId := {b | b ∈ trust.blocks}

namespace Token

/-- The blocks that were signed with a key. -/
def signed (t : Token) : PublicKey → List BlockId := signers (t.blocks.map Block.text) 0

/-- What a scope grants to something declared in `current`; `named` tells which key it names. -/
def grants {κ : Type} (t : Token) (named : κ → Option PublicKey) (current : BlockId) :
    Scope κ → Set BlockId
  | .authority => {.block 0}
  | .previous => {b | ∃ i j, b = .block i ∧ i ≤ j ∧ current = .block j}
  | .key k => {b | ∃ i block owner, b = .block i ∧ t.blocks[i]? = some block ∧
      block.externalKey = some owner ∧ named k = some owner}

/-- What scopes grant together. -/
def grant {κ : Type} (t : Token) (named : κ → Option PublicKey) (current : BlockId)
    (scopes : List (Scope κ)) : Set BlockId :=
  {b | ∃ s ∈ scopes, b ∈ t.grants named current s}

/-- What something declared in `current` with scopes `own` relies on, where scopes `default` hold
for whatever has none of its own. -/
def relied {κ : Type} (t : Token) (named : κ → Option PublicKey) (current : BlockId)
    (own default : List (Scope κ)) : Set BlockId :=
  {current, .authorizer} ∪
    if own ≠ [] then t.grant named current own
    else if default ≠ [] then t.grant named current default
    else {.block 0}

/-- What the rules of the blocks rely on, block by block. -/
def ruleTrusts (t : Token) : List (BlockId × Set BlockId) :=
  t.blocks.zipIdx.flatMap fun (b, i) => b.rules.map fun r =>
    (.block i, t.relied (b.symbols.keys[·]?) (.block i) r.scopes b.scopes)

/-- What the queries of the blocks' checks rely on, check by check. -/
def checkTrusts (t : Token) : List (List (Set BlockId)) :=
  t.blocks.zipIdx.flatMap fun (b, i) => b.checks.map fun c => c.queries.map fun q =>
    t.relied (b.symbols.keys[·]?) (.block i) q.scopes b.scopes

theorem mem_signed {t : Token} {key : PublicKey} {b : BlockId} : b ∈ t.signed key ↔
    ∃ i block, b = .block i ∧ t.blocks[i]? = some block ∧ block.externalKey = some key := by
  simp only [signed, signers, List.mem_map, List.mem_filter, List.mem_zipIdx_iff_getElem?,
    List.getElem?_map, Option.map_eq_some_iff, decide_eq_true_eq]
  constructor
  · rintro ⟨⟨text, i⟩, ⟨⟨block, there, rfl⟩, owner⟩, rfl⟩
    exact ⟨i, block, rfl, there, owner⟩
  · rintro ⟨i, block, rfl, there, owner⟩
    exact ⟨(block.text, i), ⟨⟨block, there, rfl⟩, owner⟩, rfl⟩

theorem mem_grants_key {κ : Type} {t : Token} {named : κ → Option PublicKey} {current b : BlockId}
    {k : κ} : b ∈ t.grants named current (.key k) ↔
      ∃ owner, named k = some owner ∧ b ∈ t.signed owner := by
  simp only [grants, mem_signed, Set.mem_ofPred_eq]
  grind

end Token

section Members

variable {κ : Type} {t : Token} {named : κ → Option PublicKey} {current : BlockId} {u : Symbols}
  {owners : KeyOwners} {scopes others : List (Scope Nat)} {own default : List (Scope κ)}

/-- A scope by id grants what it grants as it was written. -/
theorem mem_granted (agree : owners.Signs u t.signed) {c : Scope Nat} {s : Scope κ}
    (marked : c.Marked named u s) {b : BlockId} :
    b ∈ Trust.granted owners current c ↔ b ∈ t.grants named current s := by
  cases c with
  | authority =>
    cases s with
    | authority => exact List.mem_singleton
    | previous => cases marked
    | key k => cases marked
  | previous =>
    cases s with
    | authority => cases marked
    | previous =>
      cases current with
      | block j =>
        simp only [Trust.granted, Token.grants, List.mem_map, List.mem_range, Set.mem_ofPred_eq]
        grind
      | authorizer => simp [Trust.granted, Token.grants]
    | key k => cases marked
  | key i =>
    cases s with
    | authority => cases marked
    | previous => cases marked
    | key k =>
      obtain ⟨owner, name, known⟩ := marked
      rw [Token.mem_grants_key, Trust.granted, agree i owner known]
      simp [name]

theorem mem_flatMap_granted (agree : owners.Signs u t.signed)
    (marked : List.Forall₂ (Scope.Marked named u) scopes own) {b : BlockId} :
    b ∈ scopes.flatMap (Trust.granted owners current) ↔ b ∈ t.grant named current own := by
  induction marked with
  | nil => simp [Token.grant]
  | @cons c s _ _ first _ ih =>
    have here : b ∈ Trust.granted owners current c ↔ b ∈ t.grants named current s :=
      mem_granted agree first
    simp only [Token.grant, Set.mem_ofPred_eq, List.mem_cons, exists_eq_or_imp] at ih ⊢
    rw [List.flatMap_cons, List.mem_append, here, ih]

/-- The trust of something with scopes of its own, or with a default. -/
theorem mem_members_ofScopes (agree : owners.Signs u t.signed)
    (marked : List.Forall₂ (Scope.Marked named u) scopes own) (default : Trust) {b : BlockId} :
    b ∈ (Trust.ofScopes scopes default current owners).members ↔
      b = current ∨ b = .authorizer ∨
        if own ≠ [] then b ∈ t.grant named current own else b ∈ default.members := by
  have empty : scopes.isEmpty = true ↔ own = [] := by
    cases marked with
    | nil => simp
    | cons => simp
  unfold Trust.ofScopes
  by_cases none : own = []
  · rw [if_pos (empty.2 none), if_neg (not_not_intro none)]
    simp [Trust.members, or_assoc]
  · rw [if_neg (mt empty.1 none), if_pos none, ← mem_flatMap_granted agree marked]
    simp [Trust.members, or_assoc]

/-- The trust of something whose scopes, and those that hold where it has none, are taken into a
table. -/
theorem members_ofScopes (agree : owners.Signs u t.signed)
    (marked : List.Forall₂ (Scope.Marked named u) scopes own)
    (defaults : List.Forall₂ (Scope.Marked named u) others default) :
    (Trust.ofScopes scopes (.ofScopes others .default current owners) current owners).members =
      t.relied named current own default := by
  ext b
  have first : b ∈ Trust.default.members ↔ b = .block 0 ∨ b = .authorizer := by
    simp [Trust.members, Trust.default]
  rw [mem_members_ofScopes agree marked, mem_members_ofScopes agree defaults, first, Token.relied]
  simp only [Set.mem_union, Set.mem_insert_iff, Set.mem_singleton_iff]
  split
  · rw [or_assoc]
  · split
    · tauto
    · simp only [Set.mem_singleton_iff]
      tauto

end Members

/-! A token on its way into an authorizer. -/

/-- What does not look at places comes to the same without them. -/
theorem map_zipIdx_eq_map {α β : Type} {f : α × Nat → β} {g : α → β}
    (h : ∀ a i, f (a, i) = g a) (l : List α) : l.zipIdx.map f = l.map g := by
  have first : f = g ∘ Prod.fst := funext fun p => h p.1 p.2
  rw [first, ← List.map_map, List.zipIdx_map_fst]

/-- What a block with its place became: its rules, and the queries of its checks, rely on what they
were written to rely on. -/
structure TransferredBlock.Relies (t : Token) (owners : KeyOwners) (out : TransferredBlock)
    (p : Block × Nat) : Prop where
  rules : out.rules.map (fun r => r.1.members) = p.1.rules.map fun r =>
    t.relied (p.1.symbols.keys[·]?) (.block p.2) r.scopes p.1.scopes
  checks : (out.loaded.checks.map fun c => c.queries.map fun q =>
      (Trust.ofScopes q.scopes out.loaded.trust (.block p.2) owners).members) =
    p.1.checks.map fun c => c.queries.map fun q =>
      t.relied (p.1.symbols.keys[·]?) (.block p.2) q.scopes p.1.scopes

namespace Loading

theorem marks_owners (blocks : List Block) (index : Nat) (found : KeyOwners) :
    Marks (owners blocks index found) fun u owners => ∀ id key, u.keys[id]? = some key →
      owners.get id = found.get id ++ signers (blocks.map Block.text) index key := by
  induction blocks generalizing index found with
  | nil => exact marks_pure fun _ _ _ _ _ => (List.append_nil _).symm
  | cons b rest ih =>
    unfold owners
    split
    · rename_i unsigned
      refine marks_mono (ih (index + 1) found) fun u _ owners holds id key known => ?_
      rw [holds id key known, signers_of_unsigned unsigned]
    · rename_i owner signed
      have taken : Marks (ExceptT.lift (Symbols.internKey owner) : Loading Nat) fun u i =>
          u.keys[i]? = some owner := by
        intro v sound
        obtain ⟨sound, grows, there⟩ := sound.internKey owner
        refine ⟨sound, grows, fun i same u _ later => later.key? ?_⟩
        cases same
        exact there
      refine marks_bind taken fun place => ?_
      refine marks_mono (ih (index + 1) _) fun u sound owners holds there id key known => ?_
      rw [holds id key known, get_add_signers sound signed there known]

variable (t : Token)

theorem marks_still {α : Type} {x : Loading α} (still : ∀ t, (x.run t).2 = t) :
    Marks x fun _ _ => True :=
  marks_of_ensures (ensures_still still)

theorem marks_blockRule (owners : KeyOwners) (index : Nat) (trust : Trust) (source : Symbols)
    (r : Rule Nat Nat) :
    Marks (do
      let r ← ofTransfer (r.transfer source)
      checkRule index r
      return (Trust.ofScopes r.scopes trust (.block index) owners, r) : Loading _) fun u out =>
        ∃ scopes, List.Forall₂ (Scope.Marked (source.keys[·]?) u) scopes r.scopes ∧
          out.1 = .ofScopes scopes trust (.block index) owners :=
  marks_bind (marks_ofTransfer (marks_transferRule source r)) fun q =>
    marks_bind (marks_still (checkRule_still index q)) fun _ =>
      marks_pure fun _ _ _ marked => ⟨q.scopes, marked, rfl⟩

theorem marks_block (owners : KeyOwners) (index : Nat) (b : Block) :
    Marks (block owners index b) fun u out => owners.Signs u t.signed →
      out.Relies t owners (b, index) := by
  unfold block
  refine marks_bind (marks_ofTransfer
    (marks_mapM fun s _ => marks_transferScope b.symbols s)) fun scopes => ?_
  refine marks_bind (marks_of_ensures (ensures_ofTransfer
    (ensures_all (ensures_transferFact b.symbols) b.facts))) fun facts => ?_
  refine marks_bind
    (marks_mapM fun r _ => marks_blockRule owners index _ b.symbols r) fun rules => ?_
  refine marks_bind (marks_ofTransfer
    (marks_mapM fun c _ => marks_transferCheck b.symbols c)) fun checks => ?_
  refine marks_bind (marks_still (checkRules_still index _)) fun _ => marks_pure ?_
  intro u _ _ checks rules _ scopes agree
  constructor
  · refine map_eq_map_of_forall₂ rules fun out r marked => ?_
    obtain ⟨own, marked, same⟩ := marked
    rw [same]
    exact members_ofScopes agree marked scopes
  · refine map_eq_map_of_forall₂ checks fun c d queries => ?_
    exact map_eq_map_of_forall₂ queries fun q r marked => members_ofScopes agree marked scopes

theorem marks_blocks (owners : KeyOwners) (blocks : List Block) (index : Nat) :
    Marks (Loading.blocks owners blocks index) fun u out => owners.Signs u t.signed →
      List.Forall₂ (TransferredBlock.Relies t owners) out (blocks.zipIdx index) := by
  induction blocks generalizing index with
  | nil => exact marks_pure fun _ _ _ => .nil
  | cons b rest ih =>
    refine marks_bind (marks_block t owners index b) fun first => ?_
    refine marks_bind (ih (index + 1)) fun others => marks_pure ?_
    exact fun _ _ later first agree => .cons (first agree) (later agree)

/-- A token in the table of a session. -/
theorem marks_token : Marks (Loading.token t) fun u out =>
    out.1.Signs u t.signed ∧
      List.Forall₂ (TransferredBlock.Relies t out.1) out.2 t.blocks.zipIdx := by
  refine marks_bind (marks_owners t.blocks 0 {}) fun owners => ?_
  refine marks_bind (marks_blocks t owners t.blocks 0) fun blocks => marks_pure ?_
  exact fun _ _ blocks agree => ⟨agree, blocks agree⟩

end Loading

/-! What an authorizer relies on. -/

/-- What the rules of blocks rely on, in their order. -/
def World.blockTrusts (w : World) : List (BlockId × Set BlockId) :=
  (w.rules.filter (·.block ≠ .authorizer)).map fun e => (e.block, e.trust.members)

namespace Authorizer

/-- What the queries of a check rely on. -/
def Question.trusts (q : Question) : List (Set BlockId) :=
  q.check.queries.map fun r => (q.trust r).members

/-- What an authorizer that holds a token keeps of it. -/
structure Bears (t : Token) (a : Authorizer) : Prop where
  sound : a.symbols.Sound
  loaded : a.blocks ≠ none
  owners : ∀ u : Symbols, u.Sound → a.symbols.Grows u → a.owners.Signs u t.signed
  rules : a.world.blockTrusts = t.ruleTrusts
  checks : a.blockQuestions.map Question.trusts = t.checkTrusts

/-- The rules of the authorizer that are in its world, in the order in which they came, and
nothing but them before there is a token. -/
structure Declares (a : Authorizer) : Prop where
  sound : a.symbols.Sound
  rules : ∀ u : Symbols, u.Sound → a.symbols.Grows u → List.Forall₂
    (fun e r => List.Forall₂ (Scope.Marked some u) e.rule.scopes r.scopes)
    (a.world.rules.filter (·.block = .authorizer)) a.rules
  alone : a.blocks = none → ∀ e ∈ a.world.rules, e.block = .authorizer

/-- What an authorizer works with at an evaluation, whatever its limits: the trust of every rule in
the world while it runs, then that of every query that `authorize` asks, and that of a rule given
to `query`. -/
structure Relies [Patterns] (t : Token) (a : Authorizer) (limits : RunLimits) : Prop where
  blockRules : (a.saturate limits).2.world.blockTrusts = t.ruleTrusts
  rules : (((a.saturate limits).2.world.rules.filter (·.block = .authorizer)).map
      fun e => e.trust.members) =
    (a.rules ++ a.pending).map fun r => t.relied some .authorizer r.scopes a.scopes
  blockChecks : (a.saturate limits).2.heard.2.blockQuestions.map Question.trusts = t.checkTrusts
  checks : let asking := (a.saturate limits).2.heard
    (asking.2.ownQuestions asking.1.trust asking.1.checks).map Question.trusts =
      a.checks.map fun c => c.queries.map fun q => t.relied some .authorizer q.scopes a.scopes
  policies : let asking := (a.saturate limits).2.heard
    (asking.1.policies.map fun p => p.queries.map fun q =>
        (asking.2.trustOf asking.1.trust q).members) =
      a.policies.map fun p => p.queries.map fun q => t.relied some .authorizer q.scopes a.scopes
  query : ∀ r : Rule String PublicKey,
    let asking := (a.saturate limits).2.intern r.intern
    (asking.2.defaultTrust.2.trustOf asking.2.defaultTrust.1 asking.1).members =
      t.relied some .authorizer r.scopes a.scopes

end Authorizer

/-! What an evaluation does to the rules. -/

namespace Authorizer

variable {a b : Authorizer} {t : Token}

/-- An evaluation does not touch the rules of blocks. -/
theorem blockTrusts_saturate [Patterns] (a : Authorizer) (limits : RunLimits) :
    (a.saturate limits).2.world.blockTrusts = a.world.blockTrusts := by
  rw [World.blockTrusts, World.blockTrusts, saturate_rules, begun_foreign]

/-- The pending rules as they are moved into the world. -/
theorem marked_ownEntries (sound : a.symbols.Sound) {u : Symbols} (later : u.Sound)
    (grows : a.ready.symbols.Grows u) : List.Forall₂
      (fun e r => List.Forall₂ (Scope.Marked some u) e.rule.scopes r.scopes)
      a.ownEntries a.pending := by
  obtain ⟨sound, -, -⟩ := marks_internScopes a.scopes a.symbols sound
  obtain ⟨-, -, marked⟩ := marks_internRules a.pending _ sound
  rw [ready_symbols] at grows
  exact List.forall₂_map_left_iff.2 (marked u later grows)

namespace Declares

theorem initial (limits : RunLimits) : (ofLimits limits).Declares where
  sound := Symbols.sound_empty
  rules _ _ _ := .nil
  alone _ := nofun

theorem of_same (h : a.Declares) (sound : b.symbols.Sound) (grows : a.symbols.Grows b.symbols)
    (world : b.world.rules = a.world.rules) (rules : b.rules = a.rules)
    (blocks : b.blocks = a.blocks) : b.Declares := by
  refine ⟨sound, fun u su later => ?_, fun free => ?_⟩
  · rw [world, rules]
    exact h.rules u su (grows.trans later)
  · rw [world]
    exact h.alone (blocks ▸ free)

theorem token (h : a.Declares) {symbols : Symbols} (sound : symbols.Sound)
    (grows : a.symbols.Grows symbols) (owners : KeyOwners) (blocks : List TransferredBlock) :
    ({ a with
      symbols, owners
      blocks := some (blocks.map (·.loaded))
      world := a.world.addBlocks blocks } : Authorizer).Declares := by
  refine ⟨sound, fun u su later => ?_, nofun⟩
  rw [World.filter_own_addBlocks]
  exact h.rules u su (grows.trans later)

variable [Patterns]

theorem evaluated (h : a.Declares) (limits : RunLimits) {symbols : Symbols} (sound : symbols.Sound)
    (grows : a.ready.symbols.Grows symbols) :
    ({ (a.saturate limits).2 with symbols } : Authorizer).Declares := by
  have older := (ready_grows h.sound).2
  have state := saturate_state a limits
  have rules : (a.saturate limits).2.rules = a.rules ++ a.pending := by
    rw [state, ready_eq]
  have blocks : (a.saturate limits).2.blocks = a.blocks := by
    rw [state, ready_eq]
  refine ⟨sound, fun u su later => ?_, fun free e he => ?_⟩
  · have later := grows.trans later
    simp only [saturate_rules, begun_own, rules, List.forall₂_map_left_iff]
    exact List.rel_append (h.rules u su (older.trans later)) (marked_ownEntries h.sound su later)
  · simp only [saturate_rules] at he
    obtain ⟨d, hd, renews⟩ := begun_of_ready e he
    rw [ready_rules] at hd
    rw [renews.block]
    rcases List.mem_append.1 hd with old | new
    · exact h.alone (blocks ▸ free) d old
    · exact ownEntries_own d new

theorem moved (h : a.Declares) {c : Option Call} (step : a.Moved c b) : b.Declares := by
  obtain ⟨sound, grows⟩ := step.table h.sound
  cases step with
  | still limits => exact h.of_same sound grows rfl rfl rfl
  | @statement c valid =>
    cases c with
    | token t => exact valid.elim
    | _ => exact h.of_same sound grows rfl rfl rfl
  | token free run => exact h.token sound grows _ _
  | evaluated limits later older => exact h.evaluated limits later older

theorem step (h : a.Declares) (x : Step) : (a.step x).Declares := by
  rcases moved_step h.sound x with moved | ⟨c, e, -, -, same⟩
  · exact h.moved moved
  · rw [same]
    exact h

theorem steps (h : a.Declares) (xs : List Step) : (a.steps xs).Declares := by
  induction xs generalizing a with
  | nil => exact h
  | cons x rest ih => exact ih (h.step x)

end Declares

/-! What statements rely on, wherever the keys of the table grant what the token says. -/

section Owners

variable (sound : a.symbols.Sound)
  (owners : ∀ u : Symbols, u.Sound → a.symbols.Grows u → a.owners.Signs u t.signed)

include sound owners

/-- What a statement of the authorizer relies on once it and the scopes of the authorizer are in the
table. -/
theorem members_trustOf {u : Symbols} (later : u.Sound) (grows : a.defaultTrust.2.symbols.Grows u)
    {r : Rule Nat Nat} {own : List (Scope PublicKey)}
    (marked : List.Forall₂ (Scope.Marked some u) r.scopes own) :
    (a.trustOf a.defaultTrust.1 r).members = t.relied some .authorizer own a.scopes := by
  obtain ⟨-, taken, defaults⟩ := marks_internScopes a.scopes a.symbols sound
  exact members_ofScopes (owners u later (taken.trans grows)) marked (defaults u later grows)

/-- The trust of a rule that is given to `query`. -/
theorem members_query (r : Rule String PublicKey) :
    let asking := a.intern r.intern
    (asking.2.defaultTrust.2.trustOf asking.2.defaultTrust.1 asking.1).members =
      t.relied some .authorizer r.scopes a.scopes := by
  obtain ⟨sound, grows, rule⟩ := marks_internRule r a.symbols sound
  obtain ⟨sound', grows', -⟩ := marks_internScopes a.scopes _ sound
  have later (u : Symbols) (su : u.Sound) (after : (a.intern r.intern).2.symbols.Grows u) :
      (a.intern r.intern).2.owners.Signs u t.signed := owners u su (grows.trans after)
  exact members_trustOf sound later sound' (.refl _) (rule _ sound' grows')

end Owners

namespace Bears

theorem of_same (h : a.Bears t) (sound : b.symbols.Sound) (grows : a.symbols.Grows b.symbols)
    (world : b.world.blockTrusts = a.world.blockTrusts) (owners : b.owners = a.owners)
    (blocks : b.blocks = a.blocks) : b.Bears t := by
  have questions : b.blockQuestions = a.blockQuestions := by
    rw [blockQuestions, blockQuestions, blocks, owners]
  refine ⟨sound, blocks ▸ h.loaded, fun u su later => ?_, world ▸ h.rules, questions ▸ h.checks⟩
  rw [owners]
  exact h.owners u su (grows.trans later)

/-- Rules and checks of the blocks of a token that has just been accepted. -/
theorem of_token (h : a.Declares) (accepted : a.addToken t = .ok b) : b.Bears t := by
  obtain ⟨free, -, owners, blocks, symbols, run, rfl⟩ := addToken_eq_ok accepted
  obtain ⟨sound, grows, marked⟩ := Loading.marks_token t a.symbols h.sound
  rw [show (Loading.token t).run a.symbols = _ from run] at sound grows marked
  obtain ⟨-, relies⟩ := marked _ rfl symbols sound (.refl _)
  refine ⟨sound, nofun, fun u su later => (marked _ rfl u su later).1, ?_, ?_⟩
  · have own : a.world.rules.filter (·.block ≠ .authorizer) = [] :=
      List.filter_eq_nil_iff.2 fun e he => by simp [h.alone free e he]
    rw [World.blockTrusts, World.filter_foreign_addBlocks, own, List.nil_append, World.blockRules,
      List.map_flatMap, Token.ruleTrusts, ← List.forall₂_eq_eq_eq]
    refine forall₂_flatMap_zipIdx relies fun out block i relied => ?_
    rw [List.forall₂_eq_eq_eq, List.map_map]
    have trusts := congrArg (List.map (Prod.mk (BlockId.block i))) relied.rules
    rw [List.map_map, List.map_map] at trusts
    exact trusts
  · have kept : List.Forall₂ (fun (b : LoadedBlock) (p : Block × Nat) =>
        (b.checks.map fun c => c.queries.map fun q =>
            (Trust.ofScopes q.scopes b.trust (.block p.2) owners).members) =
          p.1.checks.map fun c => c.queries.map fun q =>
            t.relied (p.1.symbols.keys[·]?) (.block p.2) q.scopes p.1.scopes)
        (blocks.map (·.loaded)) t.blocks.zipIdx :=
      List.forall₂_map_left_iff.2 (relies.imp fun _ _ h => h.checks)
    rw [blockQuestions, List.map_flatMap, Token.checkTrusts, ← List.forall₂_eq_eq_eq]
    refine forall₂_flatMap_zipIdx kept fun b block i relied => ?_
    rw [List.forall₂_eq_eq_eq]
    refine Eq.trans ?_ relied
    rw [List.map_map]
    exact map_zipIdx_eq_map (fun _ _ => rfl) b.checks

theorem moved [Patterns] (h : a.Bears t) {c : Option Call} (step : a.Moved c b) : b.Bears t := by
  obtain ⟨sound, grows⟩ := step.table h.sound
  cases step with
  | still limits => exact h.of_same sound grows rfl rfl rfl
  | @statement c valid =>
    cases c with
    | token t => exact valid.elim
    | _ => exact h.of_same sound grows rfl rfl rfl
  | token free run => exact absurd free h.loaded
  | evaluated limits later older =>
    have state := saturate_state a limits
    refine h.of_same sound grows (blockTrusts_saturate a limits) ?_ ?_
    · change (a.saturate limits).2.owners = a.owners
      rw [state, ready_owners]
    · change (a.saturate limits).2.blocks = a.blocks
      rw [state, ready_blocks]

theorem step [Patterns] (h : a.Bears t) (x : Step) : (a.step x).Bears t := by
  rcases moved_step h.sound x with moved | ⟨c, e, -, -, same⟩
  · exact h.moved moved
  · rw [same]
    exact h

theorem steps [Patterns] (h : a.Bears t) (xs : List Step) : (a.steps xs).Bears t := by
  induction xs generalizing a with
  | nil => exact h
  | cons x rest ih => exact ih (h.step x)

theorem saturate [Patterns] (h : a.Bears t) (limits : RunLimits) :
    (a.saturate limits).2.Bears t := by
  have symbols := saturate_symbols a limits
  have table := (ready_grows h.sound).1
  exact h.moved (.evaluated limits (symbols ▸ table) (symbols ▸ .refl _))

/-- The trust of the queries that a decision asks of the authorizer's checks and policies. -/
theorem trusts_heard (h : a.Bears t) :
    ((a.heard.2.ownQuestions a.heard.1.trust a.heard.1.checks).map Question.trusts =
      a.checks.map fun c => c.queries.map fun q => t.relied some .authorizer q.scopes a.scopes) ∧
    (a.heard.1.policies.map fun p => p.queries.map fun q =>
        (a.heard.2.trustOf a.heard.1.trust q).members) =
      a.policies.map fun p => p.queries.map fun q =>
        t.relied some .authorizer q.scopes a.scopes := by
  obtain ⟨sound, -, -⟩ := marks_internScopes a.scopes a.symbols h.sound
  obtain ⟨sound, grows, checks⟩ :=
    marks_mapM (fun c _ => marks_internCheck c) _ sound (l := a.checks)
  obtain ⟨sound, grows', policies⟩ :=
    marks_mapM (fun p _ => marks_internPolicy p) _ sound (l := a.policies)
  constructor
  · have places : (a.heard.2.ownQuestions a.heard.1.trust a.heard.1.checks).map Question.trusts =
        a.heard.1.checks.map fun c => c.queries.map fun q =>
          (a.heard.2.trustOf a.heard.1.trust q).members := by
      rw [ownQuestions, List.map_map]
      exact map_zipIdx_eq_map (fun _ _ => rfl) _
    rw [places]
    refine map_eq_map_of_forall₂ (checks _ sound grows') fun c d queries => ?_
    exact map_eq_map_of_forall₂ queries fun q r marked =>
      members_trustOf h.sound h.owners sound (grows.trans grows') marked
  · refine map_eq_map_of_forall₂ (policies _ sound (.refl _)) fun c d queries => ?_
    exact map_eq_map_of_forall₂ queries fun q r marked =>
      members_trustOf h.sound h.owners sound (grows.trans grows') marked

/-- The trust of the authorizer's rules while the world runs. -/
theorem trusts_rules [Patterns] (h : a.Bears t) (declares : a.Declares) (limits : RunLimits) :
    (((a.saturate limits).2.world.rules.filter (·.block = .authorizer)).map
      fun e => e.trust.members) =
    (a.rules ++ a.pending).map fun r => t.relied some .authorizer r.scopes a.scopes := by
  obtain ⟨sound, older⟩ := ready_grows h.sound
  obtain ⟨taken, -, -⟩ := marks_internScopes a.scopes a.symbols h.sound
  obtain ⟨-, grows, -⟩ := marks_internRules a.pending _ taken
  have table : a.defaultTrust.2.symbols.Grows a.ready.symbols := ready_symbols a ▸ grows
  have marked := List.rel_append (declares.rules _ sound older)
    (marked_ownEntries h.sound sound (.refl _))
  rw [saturate_rules, begun_own, List.map_map]
  exact map_eq_map_of_forall₂ marked fun e r marked =>
    members_trustOf h.sound h.owners sound table marked

/-- The trust of everything in an evaluation. -/
theorem relies [Patterns] (h : a.Bears t) (declares : a.Declares) (limits : RunLimits) :
    a.Relies t limits := by
  have saturated := h.saturate limits
  have state := saturate_state a limits
  have scopes : (a.saturate limits).2.scopes = a.scopes := by rw [state, ready_scopes]
  have checks : (a.saturate limits).2.checks = a.checks := by rw [state, ready_checks]
  have policies : (a.saturate limits).2.policies = a.policies := by rw [state, ready_policies]
  refine ⟨saturated.rules, h.trusts_rules declares limits, saturated.checks, ?_, ?_, fun r => ?_⟩
  · rw [← scopes, ← checks]
    exact saturated.trusts_heard.1
  · rw [← scopes, ← policies]
    exact saturated.trusts_heard.2
  · rw [← scopes]
    exact members_query saturated.sound saturated.owners r

end Bears

/-- From the time when it has accepted a token an authorizer relies, in every evaluation, on what
the token and the scopes of the authorizer say, wherever the token came among the other steps. -/
theorem relies_of_token [Patterns] (limits : RunLimits) (before later : List Step) (t : Token)
    (accepted : ((ofLimits limits).steps before).addToken t = .ok b) (within : RunLimits) :
    (b.steps later).Relies t within := by
  have start := (Declares.initial limits).steps before
  have bears : b.Bears t := .of_token start accepted
  have declares : b.Declares := start.moved (c := some (.token t)) <| by
    obtain ⟨free, -, owners, blocks, symbols, run, rfl⟩ := addToken_eq_ok accepted
    exact .token free run
  exact (bears.steps later).relies (declares.steps later) within

/-- A rule of the authorizer that names a key and has been evaluated, then a token with a block
that was signed with the key and a first block that holds it twice, then a scope. -/
theorem relies_of_token_request :
    let signer : PublicKey := ⟨.ed25519, [7]⟩
    let copy : Rule String PublicKey :=
      { head := ⟨"member", [.var "f"]⟩, body := [⟨"right", [.var "f"]⟩], expressions := []
        scopes := [.key signer] }
    let first : Block :=
      { symbols := { strings := ["f"], keys := [signer, signer] }, facts := []
        rules := [{ head := ⟨6, []⟩, body := [], expressions := [], scopes := [.key 1] }]
        checks := [], scopes := [], context := none, externalKey := none, version := 4 }
    let second : Block :=
      { symbols := { strings := ["one"] }, facts := [⟨6, [.str 1024]⟩], rules := [], checks := []
        scopes := [.previous], context := none, externalKey := some signer, version := 4 }
    let t : Token := ⟨[first, second]⟩
    let later : List Step := [.act (.call (.scope .authority)), .clock 1]
    t.ruleTrusts = [(.block 0, {.block 0, .authorizer, .block 1})] ∧
      ∃ b, ((ofLimits {}).steps [.act (.call (.rule copy)), .act (.authorize {})]).addToken t =
        .ok b ∧ (b.steps later).Relies t {} := by
  intro signer copy first second t later
  constructor
  · have signed : t.signed signer = [.block 1] := by decide
    have relied : t.relied (first.symbols.keys[·]?) (.block 0) [.key 1] [] =
        {.block 0, .authorizer, .block 1} := by
      ext b
      have granted : b ∈ t.grants (first.symbols.keys[·]?) (.block 0) (.key 1) ↔ b = .block 1 := by
        rw [Token.mem_grants_key]
        simp [first, signed]
      simp [Token.relied, Token.grant, granted, or_assoc]
    exact congrArg (fun s => [(BlockId.block 0, s)]) relied
  · have ok : (((ofLimits {}).steps [.act (.call (.rule copy)), .act (.authorize {})]).addToken
        t).isOk = true := by decide +kernel
    cases accepted : ((ofLimits {}).steps
        [.act (.call (.rule copy)), .act (.authorize {})]).addToken t with
    | error e =>
      rw [accepted] at ok
      cases ok
    | ok b => exact ⟨b, rfl, relies_of_token {} _ later t accepted {}⟩

end Authorizer

end Warrant
