import Gridwise.Decimal
import Gridwise.Expr

/-!
# Written expressions

Every operation is written inside one pair of parentheses, a unary operator before its
operand and a binary one between its operands, without blanks. Constants stand in
decimal, a negative one with its sign, and names stand as they are.
-/

namespace Gridwise

namespace Expr

/-- The written form in front of a text that follows it. -/
def charsOnto : Expr → List Char → List Char
  | .constant value, rest => Decimal.chars value.toInt ++ rest
  | .var name, rest => name.toList ++ rest
  | .unary op arg, rest => '(' :: (op.toList ++ arg.charsOnto (')' :: rest))
  | .binary op left right, rest =>
      '(' :: left.charsOnto (op.toList ++ right.charsOnto (')' :: rest))

/-- The written form of an expression. -/
def chars (e : Expr) : List Char := e.charsOnto []

/-- The written form as a string. -/
def render (e : Expr) : String := String.ofList e.chars

/-- The written form shown together with the name of its type. -/
def labelled (e : Expr) : String := "Expr(" ++ e.render ++ ")"

theorem charsOnto_append (e : Expr) (front back : List Char) :
    e.charsOnto (front ++ back) = e.charsOnto front ++ back := by
  induction e generalizing front with
  | constant | var => simp [charsOnto]
  | unary op arg ih => simp [charsOnto, ← ih]
  | binary op left right ihLeft ihRight => simp [charsOnto, ← ihLeft, ← ihRight]

theorem charsOnto_eq (e : Expr) (rest : List Char) : e.charsOnto rest = e.chars ++ rest := by
  simpa [chars] using charsOnto_append e [] rest

theorem chars_constant (value : Int32) :
    (Expr.constant value).chars = Decimal.chars value.toInt := by
  simp [chars, charsOnto]

theorem chars_var (name : String) : (Expr.var name).chars = name.toList := by
  simp [chars, charsOnto]

theorem chars_unary (op : String) (arg : Expr) :
    (Expr.unary op arg).chars = '(' :: (op.toList ++ arg.chars ++ [')']) := by
  rw [chars, charsOnto, charsOnto_eq]; simp

theorem chars_binary (op : String) (left right : Expr) :
    (Expr.binary op left right).chars =
      '(' :: (left.chars ++ op.toList ++ right.chars ++ [')']) := by
  rw [chars, charsOnto, charsOnto_eq, charsOnto_eq]; simp

theorem toList_render (e : Expr) : e.render.toList = e.chars := String.toList_ofList

end Expr

end Gridwise
