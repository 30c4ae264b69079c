import Gridwise.Proofs.Drawing
import Gridwise.Proofs.Fractions
import Gridwise.Proofs.Nesting

/-!
# How far a tree grows

What ends the branches of a drawn tree is its stop test, and the lack of operators if there are
none. If stopping is certain at some depth, no branch gets beyond it, so that the recursion ends
whatever is drawn, before depths run out of words, and the levels above bound depth and size.
-/

namespace Gridwise

theorem Expr.depth_of_isLeaf {e : Expr} (leaf : e.isLeaf = true) : e.depth = 1 := by
  cases e with
  | constant | var => rfl
  | unary | binary => cases leaf

namespace GeneratorConfig

open Draw

variable {config : GeneratorConfig} {stops : Nat → Float → Bool} {limit depth remaining : Nat}
  {stream next : Keystream} {e : Expr}

/-- A tree grows at a depth, from one place in the stream to another one, by the stop test alone:
    branches end where the test says so, or at once without operators, and nowhere else. A step
    down counts the depth in a word, which has to have room for it. -/
inductive Grows (config : GeneratorConfig) (stops : Nat → Float → Bool) :
    Nat → Keystream → Expr → Keystream → Prop where
  | barren {depth : Nat} {stream next : Keystream} {leaf : Expr} :
      config.operators.size = 0 →
      config.drawLeaf stream = (leaf, next) →
      Grows config stops depth stream leaf next
  | stopped {depth : Nat} {fraction : Float} {stream tested next : Keystream} {leaf : Expr} :
      0 < config.operators.size →
      Draw.fraction stream = (fraction, tested) →
      stops depth fraction = true →
      config.drawLeaf tested = (leaf, next) →
      Grows config stops depth stream leaf next
  | unary {depth : Nat} {fraction : Float} {stream tested picked next : Keystream} {op : String}
      {arg : Expr} (nonempty : 0 < config.operators.size) {i : Fin config.operators.size} :
      Draw.fraction stream = (fraction, tested) →
      stops depth fraction = false →
      Draw.index config.operators.size nonempty tested = (i, picked) →
      config.operators.get i = .unary op →
      depth + 1 < depths →
      Grows config stops (depth + 1) picked arg next →
      Grows config stops depth stream (.unary op arg) next
  | binary {depth : Nat} {fraction : Float} {stream tested picked between next : Keystream}
      {op : String} {left right : Expr} (nonempty : 0 < config.operators.size)
      {i : Fin config.operators.size} :
      Draw.fraction stream = (fraction, tested) →
      stops depth fraction = false →
      Draw.index config.operators.size nonempty tested = (i, picked) →
      config.operators.get i = .binary op →
      depth + 1 < depths →
      Grows config stops (depth + 1) picked left between →
      Grows config stops (depth + 1) between right next →
      Grows config stops depth stream (.binary op left right) next

/-- Whatever fraction is drawn at a depth, the stop test ends the branch. It does if the probability
    there is at least one (`stops_of_one_le_probability`), as each fraction is below one. -/
def Certain (stops : Nat → Float → Bool) (limit : Nat) : Prop :=
  ∀ bits, stops limit (Draw.fractionOf bits) = true

theorem drawLeaf_isLeaf (config : GeneratorConfig) :
    Always config.drawLeaf fun leaf => leaf.isLeaf = true := by
  have constant : Always drawConstant fun leaf => leaf.isLeaf = true := fun _ => rfl
  unfold drawLeaf
  split
  · refine always_bind (always_true _) fun isConstant _ => ?_
    split
    · exact constant
    · exact always_bind (always_true _) fun i _ => always_pure rfl
  · exact constant

theorem isLeaf_of_drawLeaf {leaf : Expr} (drawn : config.drawLeaf stream = (leaf, next)) :
    leaf.isLeaf = true := by
  have isLeaf := config.drawLeaf_isLeaf stream
  rwa [drawn] at isLeaf

/-- A branch that goes on has not come to where stopping is certain. -/
theorem lt_of_not_stopped (certain : Certain stops limit) (reached : depth ≤ limit)
    {fraction : Float} {tested : Keystream} (drawn : Draw.fraction stream = (fraction, tested))
    (goesOn : stops depth fraction = false) : depth < limit := by
  refine Nat.lt_of_le_of_ne reached fun same => ?_
  have isFraction : Draw.fractionOf (Keystream.wideWord stream).1 = fraction :=
    congrArg Prod.fst drawn
  have stopped := certain (Keystream.wideWord stream).1
  rw [isFraction, ← same, goesOn] at stopped
  cases stopped

/-- The recursion with a bound on the depths does not come to the bound where stopping is certain
    before it. -/
theorem grows_drawTree (certain : Certain stops limit) (words : limit < depths)
    (reached : depth ≤ limit) (room : limit < depth + remaining) (stream : Keystream) :
    config.Grows stops depth stream (config.drawTree stops remaining depth stream).1
      (config.drawTree stops remaining depth stream).2 := by
  induction remaining generalizing depth stream with
  | zero => omega
  | succ remaining ih =>
      unfold drawTree
      split
      · next nonempty =>
          rw [bind_apply]
          split
          · next isStopped => exact .stopped nonempty rfl isStopped rfl
          · next notStopped =>
              have goesOn := Bool.eq_false_iff.mpr notStopped
              have below : depth < limit := lt_of_not_stopped certain reached rfl goesOn
              have deeper : depth + 1 < depths := by omega
              have room' : limit < depth + 1 + remaining := by omega
              have grown := ih below room'
              rw [bind_apply]
              cases got : config.operators.get
                  (Draw.index config.operators.size nonempty (Draw.fraction stream).2).1 with
              | unary op => exact .unary nonempty rfl goesOn rfl got deeper (grown _)
              | binary op => exact .binary nonempty rfl goesOn rfl got deeper (grown _) (grown _)
      · next empty => exact .barren (Nat.eq_zero_of_not_pos empty) rfl

theorem exists_succ_remaining (word : depth < depths) (room : depths ≤ depth + remaining) :
    ∃ deeper, remaining = deeper + 1 ∧ depths ≤ depth + 1 + deeper :=
  ⟨remaining - 1, by omega, by omega⟩

/-- Whatever grows is what the recursion with a bound draws, as depths stay within words. -/
theorem Grows.drawTree_eq (grows : config.Grows stops depth stream e next) (word : depth < depths)
    (room : depths ≤ depth + remaining) :
    config.drawTree stops remaining depth stream = (e, next) := by
  -- The bound goes down where the depth goes up, so there is room as long as depths are words.
  induction grows generalizing remaining with
  | barren empty drawn =>
      cases remaining with
      | zero => exact drawn
      | succ remaining => rwa [drawTree, dif_neg (by omega)]
  | stopped nonempty tested isStopped drawn =>
      obtain ⟨_, rfl, -⟩ := exists_succ_remaining word room
      rw [drawTree, dif_pos nonempty, bind_apply, tested, if_pos isStopped]
      exact drawn
  | unary nonempty tested goesOn picked got deeper _ ih =>
      obtain ⟨_, rfl, room'⟩ := exists_succ_remaining word room
      have drawn := ih deeper room'
      rw [drawTree, dif_pos nonempty, bind_apply, tested, if_neg (by simp [goesOn]), bind_apply,
        picked]
      simp only [got, bind_apply, drawn]
      rfl
  | binary nonempty tested goesOn picked got deeper _ _ ihLeft ihRight =>
      obtain ⟨_, rfl, room'⟩ := exists_succ_remaining word room
      have drawnLeft := ihLeft deeper room'
      have drawnRight := ihRight deeper room'
      rw [drawTree, dif_pos nonempty, bind_apply, tested, if_neg (by simp [goesOn]), bind_apply,
        picked]
      simp only [got, bind_apply, drawnLeft, drawnRight]
      rfl

theorem Grows.depth_le (certain : Certain stops limit)
    (grows : config.Grows stops depth stream e next) (reached : depth ≤ limit) :
    depth + e.depth ≤ limit + 1 := by
  induction grows with
  | barren _ drawn =>
      rw [Expr.depth_of_isLeaf (isLeaf_of_drawLeaf drawn)]
      omega
  | stopped _ _ _ drawn =>
      rw [Expr.depth_of_isLeaf (isLeaf_of_drawLeaf drawn)]
      omega
  | unary _ tested goesOn _ _ _ _ ih =>
      have below := lt_of_not_stopped certain reached tested goesOn
      have bound := ih below
      rw [Expr.depth]
      omega
  | binary _ tested goesOn _ _ _ _ _ ihLeft ihRight =>
      have below := lt_of_not_stopped certain reached tested goesOn
      have boundLeft := ihLeft below
      have boundRight := ihRight below
      rw [Expr.depth]
      omega

/-- If the stop test succeeds at some depth for whichever fraction is drawn, a tree grows by the
    test alone from every place in the stream, and it is the one that is drawn and no other. It has
    at most one level more than that depth, and at most as many nodes as fit into these levels.
    Without operators there is no test, and the tree is a single leaf. -/
theorem drawExpr_ends_by_certain_stop (config : GeneratorConfig) (stop : StopSchedule)
    (stream : Keystream) :
    let (e, next) := config.drawExpr stop stream
    (∀ limit : UInt32, Certain stop.stops limit.toNat →
      (∀ e' next', config.Grows stop.stops 0 stream e' next' ↔ e' = e ∧ next' = next) ∧
      e.depth ≤ limit.toNat + 1 ∧ e.size ≤ 2 ^ (limit.toNat + 1) - 1) ∧
    (config.operators.size = 0 →
      config.Grows stop.stops 0 stream e next ∧ e.isLeaf = true ∧ e.size = 1) := by
  rcases result : config.drawExpr stop stream with ⟨e, next⟩
  have drawn {e' : Expr} {next' : Keystream}
      (grows : config.Grows stop.stops 0 stream e' next') : e' = e ∧ next' = next := by
    have same : config.drawExpr stop stream = (e', next') :=
      grows.drawTree_eq (by decide) (Nat.le_add_left depths 0)
    rw [result] at same
    exact ⟨congrArg Prod.fst same.symm, congrArg Prod.snd same.symm⟩
  refine ⟨fun limit certain => ?_, fun empty => ?_⟩
  · have grows := config.grows_drawTree certain limit.toNat_lt (Nat.zero_le _)
      (Nat.lt_of_lt_of_le limit.toNat_lt (Nat.le_add_left depths 0)) stream
    obtain ⟨rfl, rfl⟩ := drawn grows
    have levels := grows.depth_le certain (Nat.zero_le _)
    rw [Nat.zero_add] at levels
    refine ⟨fun e' next' => ⟨drawn, ?_⟩, levels, ?_⟩
    · rintro ⟨rfl, rfl⟩
      exact grows
    · refine Nat.le_sub_one_of_lt (Nat.lt_of_lt_of_le (Expr.size_lt_two_pow_depth _) ?_)
      exact Nat.pow_le_pow_right (by decide) levels
  · have grows : config.Grows stop.stops 0 stream _ _ := .barren empty rfl
    obtain ⟨rfl, rfl⟩ := drawn grows
    have isLeaf := config.drawLeaf_isLeaf stream
    exact ⟨grows, isLeaf, (Expr.isLeaf_iff_size_eq_one _).mp isLeaf⟩

/-- The quartic schedule with a maximum depth of 3 makes the fourth level the last one, wherever the
    draw starts. -/
theorem drawExpr_ends_by_certain_stop_quartic :
    let config : GeneratorConfig := { vars := ["x"], operators := .ofLists ["-"] ["+", "/"] }
    Certain (StopSchedule.quartic 3.0).stops 3 ∧
      ∀ stream, (config.drawExpr (.quartic 3.0) stream).1.depth ≤ 4 ∧
        (config.drawExpr (.quartic 3.0) stream).1.size ≤ 15 ∧
        ({ config with operators := .ofLists [] [] }.drawExpr (.quartic 3.0) stream).1.size = 1 := by
  intro config
  have certain : Certain (StopSchedule.quartic 3.0).stops 3 :=
    stops_of_one_le_probability (by decide)
  refine ⟨certain, fun stream => ?_⟩
  have ends := (drawExpr_ends_by_certain_stop config (.quartic 3.0) stream).1 3 certain
  have barren := (drawExpr_ends_by_certain_stop { config with operators := .ofLists [] [] }
    (.quartic 3.0) stream).2 (by decide)
  exact ⟨ends.2.1, ends.2.2, barren.2.2⟩

end GeneratorConfig

end Gridwise
