import Stencil.Text.Quoted
import Stencil.Expr.Syntax

/-! # Why an expression is not accepted -/
namespace Stencil

inductive Rejection
  /-- The grammar does not read it. -/
  | malformed
  | empty
  /-- Its brackets close those that it was put in. -/
  | unbalanced (source : Text)
  | construct (kind : String)
  | foreignName (name : Text)
  | hiddenMember (name : Text)
  deriving DecidableEq

namespace Rejection

/-- Is it a matter of grammar, and not of what templates may use? -/
def isGrammatical : Rejection → Bool
  | malformed | empty | unbalanced _ => true
  | construct _ | foreignName _ | hiddenMember _ => false

/-- The reason in words; the grammar's own refusals have none. -/
def reason? : Rejection → Option Text
  | malformed => none
  | empty => some "empty expression".toList
  | unbalanced s => some ("invalid syntax: ".toList ++ Text.Quoted.encode s)
  | construct k => some ("不允许的语法: ".toList ++ k.toList)
  | foreignName n => some ("不允许的名称: ".toList ++ n)
  | hiddenMember n => some ("不允许访问属性: ".toList ++ n)

end Rejection
end Stencil
