import Stencil.Expr.Parser
import Stencil.Template.Rejection

/-! # The tree of a template

A sum that begins with the empty text is a concatenation; everything else is a single leaf. -/
namespace Stencil

/-- A text, or an expression to be evaluated. -/
inductive Leaf
  | literal (s : Text)
  | sub (e : Expr)

inductive Tree
  | leaf (l : Leaf)
  | concat (parts : List Leaf)

def Leaf.ofExpr : Expr → Leaf
  | .literal (.text s) => .literal s
  | e => .sub e

/-- The operand that a sum begins with and those that follow it, in order. -/
def Expr.summands : Expr → Expr × List Expr
  | .binary .add l r => ((summands l).1, (summands l).2 ++ [r])
  | e => (e, [])

def Tree.ofExpr (e : Expr) : Tree :=
  match e.summands with
  | (.literal (.text []), p :: ps) => .concat ((p :: ps).map Leaf.ofExpr)
  | _ => .leaf (.ofExpr e)

/-- A source in the brackets that let it run over lines. -/
def bracketed (source : Text) : Text := '[' :: source ++ ['\n', ']']

/-- The tree of a source. It is read as the elements of a list: one element stands for itself, and
several elements or a spread one make a tuple. -/
def Tree.ofSource (source : Text) : Except Rejection Tree :=
  match Parser.parse? (bracketed source) with
  | none => .error .malformed
  | some (.list []) => .error .empty
  | some (.list [.spread e]) => .ok (ofExpr (.tuple [.spread e]))
  | some (.list [e]) => .ok (ofExpr e)
  | some (.list es) => .ok (ofExpr (.tuple es))
  | some _ => .error (.unbalanced source)

end Stencil
