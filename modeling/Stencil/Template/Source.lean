import Stencil.Template.Piece
import Stencil.Template.Pipeline
import Stencil.Template.Scoping

/-! # The expression that pieces are put together to

A single piece is itself. More of them become a chain that begins with the empty text, so that its
sums join texts. -/
namespace Stencil.Source

/-- The expression of an interpolation. -/
def code? (d : Dialect) (s : Text) : Option Text :=
  Scoping.scoped? Scoping.scopeName (Pipeline.expand d.separator s)

/-- What a piece contributes; an interpolation among others stands in parentheses. -/
def fragment? (d : Dialect) (alone : Bool) : Piece → Option Text
  | .literal s => some (Text.Quoted.encode s)
  | .interpolation s => (code? d s).map fun c => if alone then c else '(' :: c ++ [')']

def plusSign : Text := " + ".toList

/-- The expression of the pieces; there is none only if a placeholder stands for nothing. -/
def ofPieces? (d : Dialect) : List Piece → Option Text
  | [p] => fragment? d true p
  | ps => (ps.mapM (fragment? d false)).map fun fs => Text.join plusSign (['\'', '\''] :: fs)

end Stencil.Source
