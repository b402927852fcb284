import Warrant.Block
import Warrant.Dump
import Warrant.Json.Decode

/-! Blocks and dumps as JSON.
The items are read over any kind of names: numbers in a block, strings where people write them. -/

namespace Warrant.Wire

open Json Decoder

/-- How deep a text may nest that is read as one value. -/
def depthLimit : Nat := 127

/-- How names, variables and keys of one naming are read. -/
structure Names (σ κ : Type) where
  name : Decoder σ
  var : Decoder σ
  key : Decoder κ

def algorithm : Decoder Algorithm := oneOf [("Ed25519", .ed25519), ("Secp256r1", .secp256r1)]

def publicKey : Decoder PublicKey := fun depth v => do
  let [a, b] ← record ["algorithm", "bytes"] depth v | none
  return ⟨← required algorithm depth a, ← required (list byte) depth b⟩

/-- Ids below `2 ^ 64`, and below `2 ^ 32` those of variables. -/
def interned : Names Nat Nat := ⟨nat UInt64.size, nat UInt32.size, nat UInt64.size⟩

def written : Names String PublicKey := ⟨string, string, publicKey⟩

variable {σ κ : Type} [Ord σ] (names : Names σ κ)

/-- The recursion is on the depth that is left. -/
def term : Decoder (Term σ)
  | 0, _ => none
  | depth + 1, v => do
    let (choice, some (_, content)) ← choice (depth + 1) v | none
    match choice with
    | "Variable" => names.var.map .var depth content
    | "Integer" => int64.map .int depth content
    | "Str" => names.name.map .str depth content
    | "Date" => (nat UInt64.size).map (.date <| .ofNat ·) depth content
    | "Bytes" => (list byte).map .bytes depth content
    | "Bool" => bool.map .bool depth content
    | "Set" =>
      match depth, content with
      | depth + 1, .arr vs => (vs.mapM (term depth)).map (.set <| Sorted.ofList ·)
      | _, _ => none
    | _ => none

def atom : Decoder (Atom σ) := fun depth v => do
  let [name, terms] ← record ["name", "terms"] depth v | none
  return ⟨← required names.name depth name, ← required (list (term names)) depth terms⟩

def fact : Decoder (Fact σ) := fun depth v => do
  let [a] ← record ["predicate"] depth v | none
  required (atom names) depth a

def unary : Decoder Unary :=
  oneOf [("Negate", .negate), ("Parens", .parens), ("Length", .length)]

def binary : Decoder Binary :=
  oneOf [("LessThan", .lessThan), ("GreaterThan", .greaterThan), ("LessOrEqual", .lessOrEqual),
    ("GreaterOrEqual", .greaterOrEqual), ("Equal", .equal), ("NotEqual", .notEqual),
    ("Contains", .contains), ("Prefix", .startsWith), ("Suffix", .endsWith), ("Regex", .regex),
    ("Add", .add), ("Sub", .sub), ("Mul", .mul), ("Div", .div), ("And", .and), ("Or", .or),
    ("Intersection", .intersection), ("Union", .union), ("BitwiseAnd", .bitAnd),
    ("BitwiseOr", .bitOr), ("BitwiseXor", .bitXor)]

def op : Decoder (Op σ) := fun depth v => do
  let (choice, some (depth, content)) ← choice depth v | none
  match choice with
  | "Value" => (term names).map .value depth content
  | "Unary" => unary.map .unary depth content
  | "Binary" => binary.map .binary depth content
  | _ => none

def expression : Decoder (Expression σ) := fun depth v => do
  let [ops] ← record ["ops"] depth v | none
  return ⟨← required (list (op names)) depth ops⟩

def scope : Decoder (Scope κ) := fun depth v => do
  match ← choice depth v with
  | ("PublicKey", some (depth, content)) => return .key (← names.key depth content)
  | _ => oneOf [("Authority", .authority), ("Previous", .previous)] depth v

def rule : Decoder (Rule σ κ) := fun depth v => do
  let [head, body, expressions, scopes] ← record ["head", "body", "expressions", "scopes"] depth v
    | none
  return {
    head := ← required (atom names) depth head
    body := ← required (list (atom names)) depth body
    expressions := ← required (list (expression names)) depth expressions
    scopes := ← required (list (scope names)) depth scopes }

def checkKind : Decoder CheckKind := oneOf [("One", .one), ("All", .all), ("Reject", .reject)]

def check : Decoder (Check σ κ) := fun depth v => do
  let [queries, kind] ← record ["queries", "kind"] depth v | none
  return { queries := ← required (list (rule names)) depth queries
           kind := ← required checkKind depth kind }

def policyKind : Decoder PolicyKind := oneOf [("Allow", .allow), ("Deny", .deny)]

def policy : Decoder (Policy σ κ) := fun depth v => do
  let [queries, kind] ← record ["queries", "kind"] depth v | none
  return { queries := ← required (list (rule names)) depth queries
           kind := ← required policyKind depth kind }

/-- The keys of a table, which stand in a record of their own. -/
def keys : Decoder (List PublicKey) := fun depth v => do
  let [keys] ← record ["keys"] depth v | none
  required (list publicKey) depth keys

/-- A table as it is, repetitions included. -/
def symbols : Decoder Symbols := fun depth v => do
  let [strings, publicKeys] ← record ["symbols", "public_keys"] depth v | none
  return { strings := ← required (list string) depth strings
           keys := ← required keys depth publicKeys }

def block : Decoder Block := fun depth v => do
  let [table, facts, rules, checks, scopes, context, externalKey, version] ←
    record ["symbols", "facts", "rules", "checks", "scopes", "context", "external_key",
      "version"] depth v | none
  return {
    symbols := ← required symbols depth table
    facts := ← required (list (fact interned)) depth facts
    rules := ← required (list (rule interned)) depth rules
    checks := ← required (list (check interned)) depth checks
    scopes := ← required (list (scope interned)) depth scopes
    context := ← missing string depth context
    externalKey := ← missing publicKey depth externalKey
    version := ← required (nat UInt32.size) depth version }

/-- The block that a text holds. -/
def readBlock? (text : String) : Option Block := (read? text).bind (block depthLimit)

/-- A group of statements, under the name that such statements go by. -/
def group (statements : String) : Decoder Group := fun depth v => do
  let [origin, items] ← record ["origin", statements] depth v | none
  return ⟨← required string depth origin, ← required (list string) depth items⟩

def dump : Decoder Dump := fun depth v => do
  let [facts, rules, checks, policies, iterations] ←
    record ["facts", "rules", "checks", "policies", "iterations"] depth v | none
  return {
    facts := ← required (list (group "facts")) depth facts
    rules := ← required (list (group "rules")) depth rules
    checks := ← required (list (group "checks")) depth checks
    policies := ← required (list string) depth policies
    iterations := ← required (nat UInt64.size) depth iterations }

/-- The dump that a text holds. -/
def readDump? (text : String) : Option Dump := (read? text).bind (dump depthLimit)

def ofStrings (strings : List String) : Json := .arr (strings.map .str)

def ofGroup (statements : String) (g : Group) : Json :=
  .obj [("origin", .str g.origin), (statements, ofStrings g.statements)]

def ofDump (d : Dump) : Json :=
  .obj [("facts", .arr (d.facts.map (ofGroup "facts"))),
    ("rules", .arr (d.rules.map (ofGroup "rules"))),
    ("checks", .arr (d.checks.map (ofGroup "checks"))),
    ("policies", ofStrings d.policies),
    ("iterations", .int d.iterations)]

/-- The text of a dump, from which `readDump?` gets it back. -/
def writeDump (d : Dump) : String := (ofDump d).render

end Warrant.Wire
