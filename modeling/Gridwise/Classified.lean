/-!
# Kinds of errors

An error has a kind, which programs act on, and a message, which people read. It may be
caused by another error of its own type. Two errors count as the same failure if their
kinds agree all along their chains of causes; what their messages say does not matter.
-/

namespace Gridwise

/-- Errors that have a kind and, possibly, a cause. Every cause has a lower rank than its
    effect, so chains of causes end. -/
class Classified (ε : Type) (κ : outParam Type) where
  kind : ε → κ
  cause : ε → Option ε
  rank : ε → Nat
  rank_cause : ∀ {error inner : ε}, cause error = some inner → rank inner < rank error

namespace Classified

variable {ε κ : Type} [Classified ε κ]

/-- The kinds of an error, of its cause, of that one's cause, and so on. -/
def kinds (error : ε) : List κ :=
  match caused : cause error with
  | none => [kind error]
  | some inner =>
      have := rank_cause caused
      kind error :: kinds inner
termination_by rank error

/-- The kinds of two errors agree all along their chains of causes. -/
def sameKinds [DecidableEq κ] (first second : ε) : Bool :=
  decide (kind first = kind second) &&
    match caused : cause first, cause second with
    | none, none => true
    | some inner, some other =>
        have := rank_cause caused
        sameKinds inner other
    | _, _ => false
termination_by rank first

end Classified

end Gridwise
