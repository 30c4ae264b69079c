import Gridwise.Classified

/-!
# Failures with causes

A general-purpose error: a kind and a message, and possibly the failure that led to it.
-/

namespace Gridwise

/-- A failure at the root of a chain, or one caused by another. -/
inductive Failure where
  | root (kind message : String)
  | causedBy (kind message : String) (cause : Failure)
  deriving DecidableEq

namespace Failure

/-- The kind of the failure itself. -/
def kind : Failure → String
  | .root kind _ | .causedBy kind _ _ => kind

/-- The message of the failure itself. -/
def message : Failure → String
  | .root _ message | .causedBy _ message _ => message

/-- The failure that led to this one. -/
def cause? : Failure → Option Failure
  | .root .. => none
  | .causedBy _ _ cause => some cause

/-- The length of the chain of causes. -/
def rank : Failure → Nat
  | .root .. => 0
  | .causedBy _ _ cause => cause.rank + 1

/-- A failure of a given kind that tells what it was caused by. -/
def wrap (kind : String) (cause : Failure) : Failure :=
  .causedBy kind (kind ++ ": " ++ cause.message) cause

instance : Classified Failure String where
  kind := kind
  cause := cause?
  rank := rank
  rank_cause := by
    intro failure inner caused
    cases failure with
    | root => cases caused
    | causedBy _ _ cause => cases caused; exact Nat.lt_succ_self _

end Failure

end Gridwise
