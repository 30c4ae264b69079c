import Gridwise.Classified

/-!
# Captured outcomes

The outcome of a fallible computation as a plain value, to be kept, transformed and
compared. Values are compared as values and errors by their kinds. Asking an outcome for
the side that it does not hold is an error of its own.
-/

namespace Gridwise

/-- A value, or the error that there is in its place. -/
inductive Outcome (α ε : Type) where
  | value (a : α)
  | error (e : ε)

/-- The side of an outcome that was asked for is not there. -/
inductive AccessError where
  | valueOfError
  | errorOfValue
  deriving DecidableEq

/-- The wording of an access error. -/
def AccessError.message : AccessError → String
  | .valueOfError => "trying to get value while holding error"
  | .errorOfValue => "trying to get error while holding value"

namespace Outcome

variable {α β ε ε' : Type}

/-- Captures the result of a computation. -/
def ofExcept : Except ε α → Outcome α ε
  | .ok a => .value a
  | .error e => .error e

/-- The captured result. -/
def toExcept : Outcome α ε → Except ε α
  | .value a => .ok a
  | .error e => .error e

/-- The outcome holds a value. -/
def hasValue : Outcome α ε → Bool
  | .value _ => true
  | .error _ => false

/-- The value, which must be there. -/
def getValue : Outcome α ε → Except AccessError α
  | .value a => .ok a
  | .error _ => .error .valueOfError

/-- The error, which must be there. -/
def getError : Outcome α ε → Except AccessError ε
  | .value _ => .error .errorOfValue
  | .error e => .ok e

/-- The value, if there is one. -/
def toOption : Outcome α ε → Option α
  | .value a => some a
  | .error _ => none

/-- Transforms the value with effects; an error stays as it is and has none. -/
def mapM {m : Type → Type} [Monad m] (f : α → m β) : Outcome α ε → m (Outcome β ε)
  | .value a => do return .value (← f a)
  | .error e => return .error e

/-- Transforms the error with effects; a value stays as it is and has none. -/
def mapErrorM {m : Type → Type} [Monad m] (f : ε → m ε') : Outcome α ε → m (Outcome α ε')
  | .value a => return .value a
  | .error e => do return .error (← f e)

/-- Transforms the value. -/
def map (f : α → β) : Outcome α ε → Outcome β ε
  | .value a => .value (f a)
  | .error e => .error e

/-- Transforms the error. -/
def mapError (f : ε → ε') : Outcome α ε → Outcome α ε'
  | .value a => .value a
  | .error e => .error (f e)

/-- The value, or a default in place of an error. -/
def valueOr (default : α) : Outcome α ε → α
  | .value a => a
  | .error _ => default

/-- The value, or a failure with a given error in place of the held one. -/
def valueOrRaise (error : ε') : Outcome α ε → Except ε' α
  | .value a => .ok a
  | .error _ => .error error

/-- The value, or a failure with an error made from the held one. -/
def valueOrElseRaise (raise : ε → ε') : Outcome α ε → Except ε' α
  | .value a => .ok a
  | .error e => .error (raise e)

/-- Equal values, or errors that are the same failure. -/
def agrees {κ : Type} [DecidableEq α] [Classified ε κ] [DecidableEq κ] :
    Outcome α ε → Outcome α ε → Bool
  | .value a, .value b => decide (a = b)
  | .error e, .error e' => Classified.sameKinds e e'
  | _, _ => false

/-- The text of the side that is held. -/
def text (showValue : α → String) (showError : ε → String) : Outcome α ε → String
  | .value a => showValue a
  | .error e => showError e

end Outcome

end Gridwise
