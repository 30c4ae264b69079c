import Gridwise.Expr.Token
import Gridwise.Proofs.OperandOrder
import Mathlib.Logic.Function.Defs

/-!
# Traversals

A traversal makes one call at each node, and which calls it makes, and in which order, does not
depend on what is called. The calls below a node stand together, in front of the call of the node,
and those of a left operand in front of those of the right one. Run as a stack program, the calls
put the expression back on top of whatever the stack holds.
-/

namespace Gridwise

/-- The call at the root of an expression. -/
def Expr.token : Expr → Token
  | .constant value => .constant value
  | .var name => .var name
  | .unary op _ => .unary op
  | .binary op _ _ => .binary op

/-- What is called at the nodes of an expression, by the kind of the node. -/
structure Callbacks (m : Type → Type) (β : Type) where
  constant : Int32 → m β
  var : String → m β
  unary : String → β → m β
  binary : String → β → β → m β

namespace Callbacks

variable {m : Type → Type} {β : Type} [Monad m]

/-- Makes the calls of an expression. -/
def traverse (callbacks : Callbacks m β) (e : Expr) : m β :=
  e.foldM callbacks.constant callbacks.var callbacks.unary callbacks.binary

/-- Enters the call at the root of a tree into a log, makes it and hands on the tree together with
    the result. -/
def tracing (tree : Expr) (call : m β) : StateT (List Token) m (β × Expr) := do
  modify (· ++ [tree.token])
  let result ← call
  return (result, tree)

/-- The same callbacks under observation: calls are logged, and with each result goes the tree that
    the operands' trees make up. -/
def traced (callbacks : Callbacks m β) : Callbacks (StateT (List Token) m) (β × Expr) where
  constant value := tracing (.constant value) (callbacks.constant value)
  var name := tracing (.var name) (callbacks.var name)
  unary op a := tracing (.unary op a.2) (callbacks.unary op a.1)
  binary op a b := tracing (.binary op a.2 b.2) (callbacks.binary op a.1 b.1)

end Callbacks

namespace Expr

variable {e : Expr}

/-! ## The calls of an expression -/

/-- What has been noted before is only carried along, behind what is noted latest. -/
theorem noting_append (e : Expr) (noted : List Token) :
    (e.noting noted).2 = (e.noting []).2 ++ noted := by
  induction e generalizing noted with
  | constant | var => rfl
  | unary op arg ih =>
      show .unary op :: (arg.noting noted).2 = .unary op :: (arg.noting []).2 ++ noted
      rw [ih noted, List.cons_append]
  | binary op left right ihLeft ihRight =>
      show .binary op :: (right.noting (left.noting noted).2).2 =
        .binary op :: (right.noting (left.noting []).2).2 ++ noted
      rw [ihRight, ihRight (left.noting []).2, ihLeft, List.cons_append, List.append_assoc]

@[simp] theorem tokens_constant (value : Int32) :
    (Expr.constant value).tokens = [.constant value] := rfl

@[simp] theorem tokens_var (name : String) : (Expr.var name).tokens = [.var name] := rfl

@[simp] theorem tokens_unary (op : String) (arg : Expr) :
    (Expr.unary op arg).tokens = arg.tokens ++ [.unary op] := by
  show (Token.unary op :: (arg.noting []).2).reverse = _
  rw [List.reverse_cons]
  rfl

@[simp] theorem tokens_binary (op : String) (left right : Expr) :
    (Expr.binary op left right).tokens = left.tokens ++ right.tokens ++ [.binary op] := by
  show (Token.binary op :: (right.noting (left.noting []).2).2).reverse = _
  rw [noting_append, List.reverse_cons, List.reverse_append]
  rfl

theorem length_tokens (e : Expr) : e.tokens.length = e.size := by
  induction e with
  | constant | var => rfl
  | unary op arg ih => simp [size, ih]
  | binary op left right ihLeft ihRight => simp [size, ihLeft, ihRight, Nat.add_assoc]

theorem getElem?_tokens_root (e : Expr) : e.tokens[e.size - 1]? = some e.token := by
  cases e with
  | constant | var => rfl
  | unary op arg => simp [size, token, ← length_tokens]
  | binary op left right => simp [size, token, ← length_tokens]

/-- The induction is over all stacks, as the right operand is put on top of the left one. -/
theorem run_tokens (e : Expr) (stack : List Expr) :
    Token.run e.tokens stack = some (e :: stack) := by
  induction e generalizing stack with
  | constant | var => rfl
  | unary op arg ih =>
      rw [tokens_unary, Token.run_append, ih]
      rfl
  | binary op left right ihLeft ihRight =>
      rw [tokens_binary, Token.run_append, Token.run_append, ihLeft, Option.bind_some, ihRight]
      rfl

/-! ## Nodes and their calls -/

namespace Context

/-- The calls that are made before those of the expression in the hole. -/
def before : Context → List Token
  | .hole => []
  | .unary _ context => context.before
  | .left _ context _ => context.before
  | .right _ operand context => operand.tokens ++ context.before

/-- The calls that are made behind those of the expression in the hole. -/
def behind : Context → List Token
  | .hole => []
  | .unary op context => context.behind ++ [.unary op]
  | .left op context operand => context.behind ++ operand.tokens ++ [.binary op]
  | .right op _ context => context.behind ++ [.binary op]

theorem tokens_fill (context : Context) (e : Expr) :
    (context.fill e).tokens = context.before ++ e.tokens ++ context.behind := by
  induction context with
  | hole => simp [fill, before, behind]
  | unary op arg ih => simp [fill, before, behind, ih]
  | left op left right ih => simp [fill, before, behind, ih]
  | right op left right ih => simp [fill, before, behind, ih]

/-- The number of the call at the root of the expression in the hole. -/
def number (context : Context) (e : Expr) : Nat := context.before.length + (e.size - 1)

theorem number_lt (context : Context) (e : Expr) : context.number e < (context.fill e).size := by
  have positive := e.size_pos
  rw [← length_tokens, tokens_fill, List.length_append, List.length_append, length_tokens, number]
  omega

end Context

/-- The node that a call is made at, as the subtree at the node and what is around it; the calls
    behind the last one count as that of the root. -/
def nodeAt : Expr → Nat → Context × Expr
  | .constant value, _ => (.hole, .constant value)
  | .var name, _ => (.hole, .var name)
  | .unary op arg, n =>
      if n < arg.size then (arg.nodeAt n).map (.unary op) id else (.hole, .unary op arg)
  | .binary op left right, n =>
      if n < left.size then (left.nodeAt n).map (.left op · right) id
      else if n - left.size < right.size then
        (right.nodeAt (n - left.size)).map (.right op left ·) id
      else (.hole, .binary op left right)

theorem nodeAt_number (context : Context) (e : Expr) :
    (context.fill e).nodeAt (context.number e) = (context, e) := by
  induction context with
  | hole =>
      have last : Context.hole.number e = e.size - 1 := Nat.zero_add _
      rw [Context.fill, last]
      cases e with
      | constant | var => rfl
      | unary op arg => rw [nodeAt, size, if_neg (by omega)]
      | binary op left right => rw [nodeAt, size, if_neg (by omega), if_neg (by omega)]
  | unary op context ih =>
      have within : (Context.unary op context).number e = context.number e := rfl
      rw [Context.fill, within, nodeAt, if_pos (context.number_lt e), ih]
      rfl
  | left op context right ih =>
      have within : (Context.left op context right).number e = context.number e := rfl
      rw [Context.fill, within, nodeAt, if_pos (context.number_lt e), ih]
      rfl
  | right op left context ih =>
      have within : (Context.right op left context).number e = left.size + context.number e := by
        simp only [Context.number, Context.before, List.length_append, length_tokens,
          Nat.add_assoc]
      rw [Context.fill, within, nodeAt, if_neg (by omega), Nat.add_sub_cancel_left,
        if_pos (context.number_lt e), ih]
      rfl

theorem nodeAt_spec {n : Nat} (inside : n < e.size) :
    (e.nodeAt n).1.fill (e.nodeAt n).2 = e ∧ (e.nodeAt n).1.number (e.nodeAt n).2 = n := by
  induction e generalizing n with
  | constant | var =>
      exact ⟨rfl, (Nat.lt_one_iff.mp inside).symm⟩
  | unary op arg ih =>
      rw [nodeAt]
      split
      · next below =>
          obtain ⟨fills, numbered⟩ := ih below
          exact ⟨congrArg (Expr.unary op) fills, numbered⟩
      · next notBelow =>
          refine ⟨rfl, ?_⟩
          simp only [Context.number, Context.before, size, List.length_nil] at *
          omega
  | binary op left right ihLeft ihRight =>
      rw [nodeAt]
      split
      · next inLeft =>
          obtain ⟨fills, numbered⟩ := ihLeft inLeft
          exact ⟨congrArg (Expr.binary op · right) fills, numbered⟩
      · next notInLeft =>
          split
          · next inRight =>
              obtain ⟨fills, numbered⟩ := ihRight inRight
              refine ⟨congrArg (Expr.binary op left) fills, ?_⟩
              simp only [Prod.map, Context.number, Context.before, List.length_append,
                length_tokens, id_eq] at *
              omega
          · next notInRight =>
              refine ⟨rfl, ?_⟩
              simp only [Context.number, Context.before, size, List.length_nil] at *
              omega

/-- A node of an expression: the subtree below it and what is around that subtree. -/
@[ext] structure Node (e : Expr) where
  context : Context
  subtree : Expr
  fills : context.fill subtree = e

namespace Node

/-- The number of the call at a node. -/
def call (node : e.Node) : Fin e.size :=
  ⟨node.context.number node.subtree, by
    have inside := node.context.number_lt node.subtree
    rwa [node.fills] at inside⟩

theorem tokens_eq (node : e.Node) :
    e.tokens = node.context.before ++ node.subtree.tokens ++ node.context.behind := by
  rw [← Context.tokens_fill, node.fills]

theorem getElem?_tokens_call (node : e.Node) :
    e.tokens[node.call.val]? = some node.subtree.token := by
  have positive := node.subtree.size_pos
  have inside : node.subtree.size - 1 < node.subtree.tokens.length := by
    rw [length_tokens]
    omega
  show e.tokens[node.context.before.length + (node.subtree.size - 1)]? = _
  rw [node.tokens_eq, List.append_assoc, List.getElem?_append_right (Nat.le_add_right _ _),
    Nat.add_sub_cancel_left, List.getElem?_append_left inside, getElem?_tokens_root]

theorem nodeAt_call (node : e.Node) : e.nodeAt node.call = (node.context, node.subtree) := by
  obtain ⟨context, subtree, rfl⟩ := node
  exact nodeAt_number context subtree

theorem call_bijective : Function.Bijective (call : e.Node → Fin e.size) := by
  constructor
  · intro node other same
    have found := node.nodeAt_call
    rw [same, other.nodeAt_call] at found
    exact Node.ext (congrArg Prod.fst found).symm (congrArg Prod.snd found).symm
  · intro n
    obtain ⟨fills, numbered⟩ := nodeAt_spec n.isLt
    exact ⟨⟨_, _, fills⟩, Fin.ext numbered⟩

end Node

end Expr

namespace Callbacks

variable {m : Type → Type} {β : Type} [Monad m] (callbacks : Callbacks m β)

theorem traverse_unary (op : String) (arg : Expr) :
    callbacks.traverse (.unary op arg) = callbacks.traverse arg >>= callbacks.unary op := rfl

theorem traverse_binary (op : String) (left right : Expr) :
    callbacks.traverse (.binary op left right) =
      (do
        let a ← callbacks.traverse left
        let b ← callbacks.traverse right
        callbacks.binary op a b) := rfl

variable [LawfulMonad m]

theorem run_tracing (tree : Expr) (call : m β) (log : List Token) :
    (tracing tree call).run log = (fun result => ((result, tree), log ++ [tree.token])) <$> call := by
  simp [tracing]

theorem run_traverse_traced (e : Expr) (log : List Token) :
    (callbacks.traced.traverse e).run log =
      (fun result => ((result, e), log ++ e.tokens)) <$> callbacks.traverse e := by
  induction e generalizing log with
  | constant value => exact run_tracing _ _ log
  | var name => exact run_tracing _ _ log
  | unary op arg ih =>
      rw [traverse_unary, StateT.run_bind, ih]
      simp only [traced, run_tracing, traverse_unary, Expr.tokens_unary, Expr.token, bind_map_left,
        map_bind, List.append_assoc]
  | binary op left right ihLeft ihRight =>
      simp only [traverse_binary, StateT.run_bind, ihLeft, ihRight, bind_map_left]
      simp only [traced, run_tracing, Expr.tokens_binary, Expr.token, map_bind, List.append_assoc]

end Callbacks

/-- With whatever callbacks and state an expression is traversed, it makes the same calls: one for
    each node and none besides, at each node that of its kind and name, and to each operator it
    gives the results of its operands. The calls of a subtree stand together, with that at its root
    the last one and those of a left operand in front of those of the right one. As a stack program
    the calls leave what the stack holds and put the expression on top. -/
theorem traversal_in_postorder (e : Expr) :
    (∀ (σ β : Type) (callbacks : Callbacks (StateM σ) β) (log : List Token) (state : σ),
      ((callbacks.traced.traverse e).run log).run state =
        let (result, next) := (callbacks.traverse e).run state
        (((result, e), log ++ e.tokens), next)) ∧
    e.tokens.length = e.size ∧
    Function.Bijective (Expr.Node.call : e.Node → Fin e.size) ∧
    (∀ node : e.Node, e.tokens[node.call.val]? = some node.subtree.token) ∧
    (∀ node : e.Node,
      e.tokens = node.context.before ++ node.subtree.tokens ++ node.context.behind) ∧
    (∀ op arg, (Expr.unary op arg).tokens = arg.tokens ++ [.unary op]) ∧
    (∀ op left right,
      (Expr.binary op left right).tokens = left.tokens ++ right.tokens ++ [.binary op]) ∧
    ∀ stack, Token.run e.tokens stack = some (e :: stack) := by
  refine ⟨?_, e.length_tokens, Expr.Node.call_bijective, Expr.Node.getElem?_tokens_call,
    Expr.Node.tokens_eq, Expr.tokens_unary, Expr.tokens_binary, e.run_tokens⟩
  intro σ β callbacks log state
  rw [callbacks.run_traverse_traced]
  rfl

/-- The right operand of a difference is a difference of its own. -/
example : (Expr.binary "-" (.var "a") (.binary "-" (.var "b") (.constant 2))).tokens =
    [.var "a", .var "b", .constant 2, .binary "-", .binary "-"] := rfl

end Gridwise
