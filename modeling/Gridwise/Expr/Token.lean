import Gridwise.Expr

/-!
# Expressions as stack programs

A tree can be written as the list of its nodes in traversal order. Run on a stack, such a
list pushes a leaf for every leaf token and applies every operator token to the top of
the stack; one more token repeats the top, so that a program can name a subtree twice.
-/

namespace Gridwise

/-- One step of a stack program. -/
inductive Token where
  | constant (value : Int32)
  | var (name : String)
  | unary (op : String)
  | binary (op : String)
  | repeatTop
  deriving DecidableEq

namespace Token

/-- The effect of one token on a stack of trees, the top first; an operator needs its
    operands there, and the upper one of two is the right one. -/
def apply : Token → List Expr → Option (List Expr)
  | .constant value, stack => some (.constant value :: stack)
  | .var name, stack => some (.var name :: stack)
  | .unary op, arg :: stack => some (.unary op arg :: stack)
  | .binary op, right :: left :: stack => some (.binary op left right :: stack)
  | .repeatTop, top :: stack => some (top :: top :: stack)
  | _, _ => none

/-- Runs a program from a given stack. -/
def run : List Token → List Expr → Option (List Expr)
  | [], stack => some stack
  | token :: rest, stack => (token.apply stack).bind (run rest)

theorem run_append (first second : List Token) (stack : List Expr) :
    run (first ++ second) stack = (run first stack).bind (run second) := by
  induction first generalizing stack with
  | nil => rfl
  | cons token rest ih =>
      cases applied : token.apply stack with
      | none => simp [run, applied]
      | some next => simp [run, applied, ih]

end Token

namespace Expr

/-- The tree a program builds from the empty stack, if it leaves exactly one. -/
def ofTokens? (tokens : List Token) : Option Expr :=
  match Token.run tokens [] with
  | some [e] => some e
  | _ => none

/-- Appends one token to the record of a traversal. -/
def note (token : Token) : StateM (List Token) Unit := modify (token :: ·)

/-- The traversal that notes one token per node, latest first. -/
def noting : Expr → StateM (List Token) Unit :=
  foldM (fun value => note (.constant value)) (fun name => note (.var name))
    (fun op _ => note (.unary op)) (fun op _ _ => note (.binary op))

/-- The nodes of a tree in the order in which a traversal meets them. -/
def tokens (e : Expr) : List Token := (e.noting.run []).2.reverse

end Expr

end Gridwise
