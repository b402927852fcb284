import Warrant.Rule
import Warrant.Text.Quoted
import Warrant.Text.Timestamp

/-! The text of items whose names are in a symbol table.
An id that the table does not hold is written as `<id?>`, so that everything has a text. -/

namespace Warrant

def PublicKey.label (key : PublicKey) : String :=
  key.algorithm.name ++ "/" ++ Text.hex key.bytes

namespace Symbols

/-- What stands for an id that is not known. -/
def unknown (id : Nat) : String := "<" ++ toString id ++ "?>"

def textOf (t : Symbols) (id : Nat) : String := (t.text? id).getD (unknown id)

mutual

def renderTerm (t : Symbols) : Term Nat → String
  | .var v => "$" ++ t.textOf v
  | .int i => toString i.toInt
  | .str s => Text.quote (t.textOf s)
  | .date d => Text.timestamp d.toNat
  | .bytes b => "hex:" ++ Text.hex b
  | .bool b => if b then "true" else "false"
  | .set elements => "[" ++ ", ".intercalate (renderTerms t elements) ++ "]"

def renderTerms (t : Symbols) : List (Term Nat) → List String
  | [] => []
  | a :: rest => renderTerm t a :: renderTerms t rest

end

def renderAtom (t : Symbols) (a : Atom Nat) : String :=
  t.textOf a.name ++ "(" ++ ", ".intercalate (t.renderTerms a.terms) ++ ")"

def renderExpression? (t : Symbols) (e : Expression Nat) : Option String := e.render? t.renderTerm

def renderExpression (t : Symbols) (e : Expression Nat) : String :=
  (t.renderExpression? e).getD "<invalid expression>"

def renderScope (t : Symbols) : Scope Nat → String
  | .authority => "authority"
  | .previous => "previous"
  | .key k => (t.keys[k]?.map PublicKey.label).getD (unknown k)

/-- The atoms and expressions, `true` if there are none, and then the scopes. -/
def renderBody (t : Symbols) (r : Rule Nat Nat) : String :=
  let parts := r.body.map t.renderAtom ++ r.expressions.map t.renderExpression
  let parts := if parts.isEmpty then ["true"] else parts
  let scopes :=
    if r.scopes.isEmpty then "" else " trusting " ++ ", ".intercalate (r.scopes.map t.renderScope)
  ", ".intercalate parts ++ scopes

def renderRule (t : Symbols) (r : Rule Nat Nat) : String :=
  t.renderAtom r.head ++ " <- " ++ t.renderBody r

def renderCheck (t : Symbols) (c : Check Nat Nat) : String :=
  let opening := match c.kind with
    | .one => "check if "
    | .all => "check all "
    | .reject => "reject if "
  opening ++ " or ".intercalate (c.queries.map t.renderBody)

end Symbols

end Warrant
