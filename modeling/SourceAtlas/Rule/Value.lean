import SourceAtlas.Text.Basic

/-!
# Values of constant rules

A constant rule computes its value once per file from an expression: a quoted text, a single
token, two operands joined by an operator, or any other text. `parse` and `print` are inverse on
the expressions that parsing yields, up to white space around an operator.
-/

namespace SourceAtlas

inductive ValueOp where
  /-- `A + B`: one after the other. -/
  | concat
  /-- `A - B`: the first without the first occurrence of the second. -/
  | remove
  deriving DecidableEq, Repr

namespace ValueOp

def ofToken? (token : Text) : Option ValueOp :=
  if token = ['+'] then some .concat else if token = ['-'] then some .remove else none

def token : ValueOp → Text
  | .concat => ['+']
  | .remove => ['-']

def apply : ValueOp → Text → Text → Text
  | .concat, lhs, rhs => lhs ++ rhs
  | .remove, lhs, rhs => if rhs.isEmpty then lhs else Text.removeFirst rhs lhs

end ValueOp

inductive ValueExpr where
  /-- A quoted text, without its quotes. -/
  | literal (text : Text)
  /-- A single token, usually the name of a variable in bars. -/
  | token (text : Text)
  | binary (lhs : Text) (op : ValueOp) (rhs : Text)
  /-- Any other text, taken as a whole. -/
  | other (text : Text)
  deriving DecidableEq, Repr

namespace ValueExpr

/-- What stands between the quotes of a text that starts and ends in a double quote. -/
def unquote? (t : Text) : Option Text :=
  match t with
  | '"' :: rest => if rest.getLast? = some '"' then some rest.dropLast else none
  | _ => none

def parse (raw : Text) : ValueExpr :=
  let raw := Text.trim raw
  match unquote? raw with
  | some inner => .literal inner
  | none =>
    match Text.words raw with
    | [single] => .token single
    | [lhs, op, rhs] =>
      match ValueOp.ofToken? op with
      | some op => .binary lhs op rhs
      | none => .other raw
    | _ => .other raw

def print : ValueExpr → Text
  | literal text => '"' :: text ++ ['"']
  | token text | other text => text
  | binary lhs op rhs => lhs ++ ' ' :: op.token ++ ' ' :: rhs

/-- The value of an expression whose operands stand for what `resolve` makes of them. -/
def evaluate (resolve : Text → Text) : ValueExpr → Text
  | literal text | token text | other text => resolve text
  | binary lhs op rhs => op.apply (resolve lhs) (resolve rhs)

end ValueExpr

end SourceAtlas
