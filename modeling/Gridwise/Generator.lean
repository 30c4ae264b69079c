import Gridwise.Expr
import Gridwise.Generator.Stop
import Gridwise.Interval
import Gridwise.OperatorSet
import Gridwise.Random.Draw

/-!
# Random expressions and boxes

A generator draws expressions over given names and boxes of given spans, reproducibly from
a seed. A node is a leaf if the stop test says so at its depth, and always if there are no
operators. A leaf is a constant or a variable with equal chances. An interval is drawn by
its span and then by its start, among all starts that leave room for the span.
-/

namespace Gridwise

/-- What a generator draws from. -/
structure GeneratorConfig where
  seed : UInt64 := 8082475903752582983
  operators : OperatorSet := .arithmetic
  vars : List String := ["x", "y", "z"]
  /-- The least span of an interval. -/
  minSpan : Int32 := 3
  /-- The least number above all spans. -/
  maxSpan : Int32 := 20

/-- Why no interval can be drawn. -/
inductive GeneratorError where
  | negativeSpan (minSpan : Int32)
  | emptySpans (minSpan maxSpan : Int32)
  deriving DecidableEq

/-- The wording of a generator error. -/
def GeneratorError.message : GeneratorError → String
  | .negativeSpan minSpan => "min span [" ++ Decimal.text minSpan.toInt ++ "] is negative"
  | .emptySpans minSpan maxSpan =>
      "span range [" ++ Decimal.text minSpan.toInt ++ ", " ++ Decimal.text maxSpan.toInt ++
        ") is empty"

namespace GeneratorConfig

/-- Some span is at least the least one and below the bound, and none is negative. -/
structure Valid (config : GeneratorConfig) : Prop where
  minSpan_nonneg : 0 ≤ config.minSpan.toInt
  minSpan_lt : config.minSpan.toInt < config.maxSpan.toInt

/-- Draws a constant. -/
def drawConstant : StateM Keystream Expr := Expr.constant <$> Draw.anyWord

/-- Draws a leaf: a constant if there are no variables, and otherwise either of the two. -/
def drawLeaf (config : GeneratorConfig) : StateM Keystream Expr :=
  if nonempty : 0 < config.vars.length then do
    let isConstant ← Draw.coin
    if isConstant then drawConstant
    else
      let i ← Draw.index config.vars.length nonempty
      return .var config.vars[i]
  else drawConstant

/-- Draws a tree whose root is at some depth; below it at most so many more depths are
    left, and what would lie deeper is a leaf. -/
def drawTree (config : GeneratorConfig) (stops : Nat → Float → Bool) :
    (remaining depth : Nat) → StateM Keystream Expr
  | 0, _ => config.drawLeaf
  | remaining + 1, depth =>
      if nonempty : 0 < config.operators.size then do
        let fraction ← Draw.fraction
        if stops depth fraction then config.drawLeaf
        else
          let i ← Draw.index config.operators.size nonempty
          match config.operators.get i with
          | .unary op => do
              let arg ← drawTree config stops remaining (depth + 1)
              return .unary op arg
          | .binary op => do
              let left ← drawTree config stops remaining (depth + 1)
              let right ← drawTree config stops remaining (depth + 1)
              return .binary op left right
      else config.drawLeaf

/-- The number of depths: they are counted in 32-bit words. -/
def depths : Nat := 4294967296

/-- Draws an expression. -/
def drawExpr (config : GeneratorConfig) (stop : StopSchedule) : StateM Keystream Expr :=
  config.drawTree stop.stops depths 0

/-- Draws an interval. -/
def drawInterval (config : GeneratorConfig) (valid : config.Valid) :
    StateM Keystream Interval := do
  let ⟨span, _, below⟩ ← Draw.between config.minSpan.toInt (config.maxSpan.toInt - 1)
    (by have := valid.minSpan_lt; omega)
  let ⟨lo, _⟩ ← Draw.between Word.least (Word.greatest - span) (by
    have := (Word.toInt_fits config.maxSpan).2
    unfold Word.least Word.greatest at *
    omega)
  return .spanning (Int32.ofInt lo) span.toNat

/-- Draws a box of three intervals. -/
def drawBox (config : GeneratorConfig) (valid : config.Valid) : StateM Keystream Box := do
  let x ← config.drawInterval valid
  let y ← config.drawInterval valid
  let z ← config.drawInterval valid
  return ⟨x, y, z⟩

end GeneratorConfig

/-- A valid configuration and a place in the random stream. -/
structure Generator where
  config : GeneratorConfig
  valid : config.Valid
  stream : Keystream

namespace Generator

/-- The generator of a configuration at the beginning of its stream. -/
def ofConfig (config : GeneratorConfig) : Except GeneratorError Generator :=
  if nonneg : 0 ≤ config.minSpan.toInt then
    if below : config.minSpan.toInt < config.maxSpan.toInt then
      .ok ⟨config, ⟨nonneg, below⟩, .ofSeed config.seed⟩
    else .error (.emptySpans config.minSpan config.maxSpan)
  else .error (.negativeSpan config.minSpan)

/-- Takes a draw and goes on behind it. -/
def take (generator : Generator) (draw : StateM Keystream α) : α × Generator :=
  let (a, stream) := draw generator.stream
  (a, { generator with stream })

/-- Draws an expression. -/
def expr (generator : Generator) (stop : StopSchedule) : Expr × Generator :=
  generator.take (generator.config.drawExpr stop)

/-- Draws an interval. -/
def interval (generator : Generator) : Interval × Generator :=
  generator.take (generator.config.drawInterval generator.valid)

/-- Draws a box. -/
def box (generator : Generator) : Box × Generator :=
  generator.take (generator.config.drawBox generator.valid)

end Generator

end Gridwise
