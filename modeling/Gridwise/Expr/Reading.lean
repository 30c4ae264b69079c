import Gridwise.Decimal
import Gridwise.Expr
import Gridwise.Text.Quoted
import Gridwise.Word

/-!
# Reading written expressions

The reader is a pushdown automaton that looks at each character once. Its stack holds the
parentheses that are still open, and its focus says what stands at the place being read.
A minus sign has three meanings: it begins a constant where an operand is due, it is an
operator after an operand, and directly after an opening parenthesis it is the sign of a
constant if a digit follows and a unary operator otherwise. A constant that carries a
sign and fills its parentheses alone, as in `(-5)`, is read as the negation of the
positive one. Whether a text can still be completed is decided at the first character
that cannot go on, and errors give that place as a count of bytes.
-/

namespace Gridwise

/-- Why a signed row of digits is no 32-bit word. -/
inductive NumeralError where
  | tooLarge
  | tooSmall
  | noDigits
  deriving DecidableEq

/-- The wording of a numeral error. -/
def NumeralError.message : NumeralError → String
  | .tooLarge => "number too large to fit in target type"
  | .tooSmall => "number too small to fit in target type"
  | .noDigits => "invalid digit found in string"

/-- A row of digits, latest first, after an optional minus sign. -/
structure Numeral where
  negative : Bool
  digits : List Char
  deriving DecidableEq

namespace Numeral

/-- The numeral with one more digit. -/
def push (numeral : Numeral) (digit : Char) : Numeral :=
  { numeral with digits := digit :: numeral.digits }

/-- The characters of the numeral in reading order. -/
def chars (numeral : Numeral) : List Char :=
  if numeral.negative then '-' :: numeral.digits.reverse else numeral.digits.reverse

/-- The integer that the numeral denotes. -/
def toInt (numeral : Numeral) : Int :=
  let magnitude : Int := Nat.ofDigitChars 10 numeral.digits.reverse 0
  if numeral.negative then -magnitude else magnitude

/-- The word that the numeral denotes. -/
def toWord (numeral : Numeral) : Except NumeralError Int32 :=
  if numeral.digits.isEmpty then .error .noDigits
  else if Word.greatest < numeral.toInt then .error .tooLarge
  else if numeral.toInt < Word.least then .error .tooSmall
  else .ok (Int32.ofInt numeral.toInt)

end Numeral

namespace Expr

/-- Why a text is no written expression. Positions count the bytes before the place. -/
inductive ReadError where
  /-- No operand begins here. -/
  | unexpected (found : Option Char) (position : Nat)
  /-- A finished operation is not closed. -/
  | expectedClosing (position : Nat)
  /-- A left operand is not followed by an operator. -/
  | expectedOperator (found : Option Char) (position : Nat)
  /-- A whole expression is followed by something. -/
  | trailing (position : Nat)
  /-- A constant is no 32-bit word. -/
  | badConstant (numeral : Numeral) (reason : NumeralError)
  /-- The positive counterpart of a negative constant is no 32-bit word. -/
  | badNegation (reason : NumeralError)
  deriving DecidableEq

/-- How the character at an error is shown: by its first byte. -/
def showFound : Option Char → String
  | none => "None"
  | some c =>
      match String.utf8EncodeChar c with
      | [] => "None"
      | byte :: _ => "Some(" ++ Decimal.text byte.toNat ++ ")"

/-- The wording of a reading error. -/
def ReadError.message : ReadError → String
  | .unexpected found position =>
      "unexpected " ++ showFound found ++ " at " ++ Decimal.text position
  | .expectedClosing position => "expected ')' at " ++ Decimal.text position
  | .expectedOperator found position =>
      "expected operator, found " ++ showFound found ++ " at " ++ Decimal.text position
  | .trailing position => "trailing input at " ++ Decimal.text position
  | .badConstant numeral reason =>
      "bad constant " ++ Quoted.text (String.ofList numeral.chars) ++ ": " ++ reason.message
  | .badNegation reason => reason.message

namespace Reader

/-- A parenthesis that is still open. -/
inductive Frame where
  /-- The left operand of a binary operation is being read. -/
  | left
  /-- The operand of a negation is being read. -/
  | negation
  /-- The right operand is being read, after the left one and the operator. -/
  | right (left : Expr) (op : Char)

/-- What stands directly before the place being read. -/
inductive Focus where
  /-- An operand is due. -/
  | operand
  /-- A parenthesis has just been opened. -/
  | opened
  /-- A parenthesis has just been opened and a minus sign follows it. -/
  | openedMinus
  /-- A constant is being read. -/
  | numeral (numeral : Numeral)
  /-- A negative constant is being read that stands directly after a parenthesis. -/
  | openedNumeral (numeral : Numeral)
  /-- A name is being read, latest letter first. -/
  | word (letters : List Char)
  /-- An operand is complete. -/
  | complete (e : Expr)

/-- The open parentheses, innermost first, and the focus. -/
structure State where
  stack : List Frame
  focus : Focus

/-- The state before the first character. -/
def start : State := ⟨[], .operand⟩

/-- The four binary operators. -/
def isOperator (c : Char) : Bool := c = '+' || c = '-' || c = '*' || c = '/'

/-- The letters that names are made of. -/
def isLetter (c : Char) : Bool := decide ('a' ≤ c) && decide (c ≤ 'z')

/-- Begins an operand inside the given parentheses. -/
def beginOperand (stack : List Frame) (position : Nat) (c : Char) : Except ReadError State :=
  if c = '(' then .ok ⟨stack, .opened⟩
  else if c = '-' then .ok ⟨stack, .numeral ⟨true, []⟩⟩
  else if c.isDigit then .ok ⟨stack, .numeral ⟨false, [c]⟩⟩
  else if isLetter c then .ok ⟨stack, .word [c]⟩
  else .error (.unexpected (some c) position)

/-- Goes on after a complete operand: an operator may follow a left operand, a closing
    parenthesis the last operand of an operation, and nothing the whole expression. -/
def afterOperand (stack : List Frame) (e : Expr) (position : Nat) (c : Char) :
    Except ReadError State :=
  match stack with
  | [] => .error (.trailing position)
  | .left :: outer =>
      if isOperator c then .ok ⟨.right e c :: outer, .operand⟩
      else .error (.expectedOperator (some c) position)
  | .negation :: outer =>
      if c = ')' then .ok ⟨outer, .complete (.unary "-" e)⟩
      else .error (.expectedClosing position)
  | .right left op :: outer =>
      if c = ')' then .ok ⟨outer, .complete (.binary (String.singleton op) left e)⟩
      else .error (.expectedClosing position)

/-- The value of a finished constant. -/
def constantOf (numeral : Numeral) : Except ReadError Int32 :=
  match numeral.toWord with
  | .ok value => .ok value
  | .error reason => .error (.badConstant numeral reason)

/-- The negation that a lone negative constant in parentheses stands for. -/
def negationOf (value : Int32) : Except ReadError Expr :=
  match Word.ofInt? (-value.toInt) with
  | some positive => .ok (.unary "-" (.constant positive))
  | none => .error (.badNegation .tooLarge)

/-- Reads one character. -/
def step (state : State) (position : Nat) (c : Char) : Except ReadError State :=
  match state.focus with
  | .operand => beginOperand state.stack position c
  | .opened =>
      if c = '-' then .ok ⟨state.stack, .openedMinus⟩
      else beginOperand (.left :: state.stack) position c
  | .openedMinus =>
      if c.isDigit then .ok ⟨state.stack, .openedNumeral ⟨true, [c]⟩⟩
      else beginOperand (.negation :: state.stack) position c
  | .numeral numeral =>
      if c.isDigit then .ok ⟨state.stack, .numeral (numeral.push c)⟩
      else do
        let value ← constantOf numeral
        afterOperand state.stack (.constant value) position c
  | .openedNumeral numeral =>
      if c.isDigit then .ok ⟨state.stack, .openedNumeral (numeral.push c)⟩
      else do
        let value ← constantOf numeral
        if c = ')' then return ⟨state.stack, .complete (← negationOf value)⟩
        else afterOperand (.left :: state.stack) (.constant value) position c
  | .word letters =>
      if isLetter c then .ok ⟨state.stack, .word (c :: letters)⟩
      else afterOperand state.stack (.var (String.ofList letters.reverse)) position c
  | .complete e => afterOperand state.stack e position c

/-- The text ends after a complete operand: no parenthesis may be open. -/
def finishOperand (stack : List Frame) (e : Expr) (position : Nat) : Except ReadError Expr :=
  match stack with
  | [] => .ok e
  | .left :: _ => .error (.expectedOperator none position)
  | .negation :: _ | .right .. :: _ => .error (.expectedClosing position)

/-- Ends the text. -/
def finish (state : State) (position : Nat) : Except ReadError Expr :=
  match state.focus with
  | .operand | .opened | .openedMinus => .error (.unexpected none position)
  | .numeral numeral => do
      let value ← constantOf numeral
      finishOperand state.stack (.constant value) position
  | .openedNumeral numeral => do
      let value ← constantOf numeral
      finishOperand (.left :: state.stack) (.constant value) position
  | .word letters => finishOperand state.stack (.var (String.ofList letters.reverse)) position
  | .complete e => finishOperand state.stack e position

/-- Reads the rest of a text. -/
def run (state : State) (position : Nat) : List Char → Except ReadError Expr
  | [] => finish state position
  | c :: rest => do
      let next ← step state position c
      run next (position + c.utf8Size) rest

end Reader

/-- Reads a written expression. -/
def readChars (cs : List Char) : Except ReadError Expr := Reader.run Reader.start 0 cs

/-- Reads a written expression from a string. -/
def read (text : String) : Except ReadError Expr := readChars text.toList

end Expr

end Gridwise
