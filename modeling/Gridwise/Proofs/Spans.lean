import Gridwise.Generator
import Gridwise.Proofs.Computation

/-!
# Spans of random intervals

An interval is drawn by its span and then by its start. Here the same draw refuses to go on where it
would be from no words at all, or where a sum or a difference is not a word. A generator exists only
for spans with which it never refuses, so that nothing is cut short: each interval has all of its
span, up to the widest one that a valid configuration has.
-/

namespace Gridwise

namespace Word

theorem fits_of_between {a b : Int32} {n : Int} (lower : a.toInt ≤ n) (upper : n ≤ b.toInt) :
    Fits n :=
  ⟨Int.le_trans (toInt_fits a).1 lower, Int.le_trans upper (toInt_fits b).2⟩

theorem exists_ofInt? {n : Int} (fits : Fits n) : ∃ word, ofInt? n = some word ∧ word.toInt = n :=
  ⟨Int32.ofInt n, if_pos fits, toInt_ofInt fits⟩

end Word

namespace Interval

variable {lo hi : Int32} {span : Nat}

theorem toInt_hi_spanning (fits : lo.toInt + span ≤ Word.greatest) :
    (spanning lo span).hi.toInt = lo.toInt + span := by
  rw [spanning, Word.toInt_saturatingAdd]
  exact Int.min_eq_left fits

theorem spanning_eq (ordered : lo ≤ hi) (whole : hi.toInt = lo.toInt + span) :
    spanning lo span = ⟨⟨lo, hi⟩, ordered⟩ := by
  have fits : lo.toInt + span ≤ Word.greatest := whole ▸ (Word.toInt_fits hi).2
  have same : Word.saturatingAdd lo span = hi :=
    Int32.toInt_inj.mp ((toInt_hi_spanning fits).trans whole.symm)
  simp only [spanning, same]

end Interval

namespace Draw

/-- Draws a word between two others, both included; there is none if they are reversed. -/
def between? (lo hi : Int32) : StateT Keystream Option Int32 := fun stream =>
  if ordered : lo.toInt ≤ hi.toInt then
    let (n, next) := between lo.toInt hi.toInt ordered stream
    some (Int32.ofInt n, next)
  else none

variable {lo hi : Int32} {m n : Int}

theorem between?_of_le (least : lo.toInt = m) (greatest : hi.toInt = n) (ordered : m ≤ n)
    (stream : Keystream) :
    ∃ (word : Int32) (bounds : m ≤ word.toInt ∧ word.toInt ≤ n) (next : Keystream),
      between? lo hi stream = some (word, next) ∧
      between m n ordered stream = (⟨word.toInt, bounds⟩, next) := by
  subst least greatest
  rcases drawn : between lo.toInt hi.toInt ordered stream with ⟨⟨k, bounds⟩, next⟩
  have same : (Int32.ofInt k).toInt = k :=
    Word.toInt_ofInt (Word.fits_of_between bounds.1 bounds.2)
  refine ⟨Int32.ofInt k, same.symm ▸ bounds, next, ?_, ?_⟩
  · simp only [between?, dif_pos ordered, drawn]
  · simp only [same]

theorem between?_of_lt (reversed : hi.toInt < lo.toInt) (stream : Keystream) :
    between? lo hi stream = none :=
  dif_neg (Int.not_le.mpr reversed)

end Draw

namespace GeneratorConfig

/-- Draws an interval by the words that it is made of. There is none if there are no spans or no
    starts to draw from, or if a bound of these or the end of the interval is not a word. -/
def drawInterval? (config : GeneratorConfig) : StateT Keystream Option Interval := do
  let greatestSpan ← Word.ofInt? (config.maxSpan.toInt - 1)
  let span ← Draw.between? config.minSpan greatestSpan
  let last ← Word.ofInt? (Word.greatest - span.toInt.natAbs)
  let lo ← Draw.between? (Int32.ofInt Word.least) last
  let hi ← Word.ofInt? (lo.toInt + span.toInt.natAbs)
  if ordered : lo ≤ hi then return ⟨⟨lo, hi⟩, ordered⟩ else failure

/-- Draws a box of three such intervals. -/
def drawBox? (config : GeneratorConfig) : StateT Keystream Option Box := do
  let x ← config.drawInterval?
  let y ← config.drawInterval?
  let z ← config.drawInterval?
  return ⟨x, y, z⟩

variable {config : GeneratorConfig} {interval : Interval}

/-- The interval has one of the spans of the configuration, and all of it. -/
structure Spans (config : GeneratorConfig) (interval : Interval) : Prop where
  ordered : interval.lo ≤ interval.hi
  whole : ∃ span : Nat, config.minSpan.toInt ≤ span ∧ span < config.maxSpan.toInt ∧
    interval = .spanning interval.lo span ∧ interval.hi.toInt = interval.lo.toInt + span
  length_ge : config.minSpan.toInt + 1 ≤ interval.length
  length_le : interval.length ≤ config.maxSpan.toInt

/-- It does not matter which start is drawn for a span, as all of them leave room for it. -/
theorem spans_spanning {lo : Int32} {span : Nat} (atLeast : config.minSpan.toInt ≤ span)
    (below : span < config.maxSpan.toInt) (start : lo.toInt ≤ Word.greatest - span) :
    config.Spans (.spanning lo span) := by
  have whole : (Interval.spanning lo span).hi.toInt = lo.toInt + span :=
    Interval.toInt_hi_spanning (by omega)
  have length := (Interval.spanning lo span).length_eq
  have begins : (Interval.spanning lo span).lo = lo := rfl
  refine ⟨Interval.lo_le_hi _, ⟨span, atLeast, below, rfl, whole⟩, ?_, ?_⟩
  · rw [length, whole, begins]
    omega
  · rw [length, whole, begins]
    omega

theorem exists_start (config : GeneratorConfig) {span : Int}
    (below : span < config.maxSpan.toInt) : Word.least ≤ Word.greatest - span := by
  have maxSpan_le := (Word.toInt_fits config.maxSpan).2
  have least_neg : Word.least ≤ 0 := by decide
  omega

/-- For a valid configuration the draw by words goes through, and it gives what is drawn. -/
theorem drawInterval?_eq (valid : config.Valid) (stream : Keystream) :
    config.drawInterval? stream = some (config.drawInterval valid stream) ∧
      config.Spans (config.drawInterval valid stream).1 := by
  have ⟨nonneg, below⟩ := valid
  have spans : config.minSpan.toInt ≤ config.maxSpan.toInt - 1 := Int.le_sub_one_of_lt below
  obtain ⟨greatestSpan, isGreatest, toInt_greatest⟩ :=
    Word.exists_ofInt? (Word.fits_of_between spans (Int.sub_le_self _ (by decide)))
  -- Each step of the draw by words is paired with the step of the draw by numbers.
  obtain ⟨span, ⟨span_ge, span_le⟩, picked, pick, pickNumber⟩ :=
    Draw.between?_of_le rfl toInt_greatest spans stream
  have toNat_span : (span.toInt.toNat : Int) = span.toInt :=
    Int.toNat_of_nonneg (Int.le_trans nonneg span_ge)
  have starts := config.exists_start (Int.lt_of_le_sub_one span_le)
  obtain ⟨last, isLast, toInt_last⟩ := Word.exists_ofInt? ⟨starts, by omega⟩
  obtain ⟨lo, ⟨lo_ge, lo_le⟩, next, start, startNumber⟩ :=
    Draw.between?_of_le (Word.toInt_ofInt (by decide)) toInt_last starts picked
  have ends : Word.Fits (lo.toInt + span.toInt) := ⟨by omega, by omega⟩
  obtain ⟨hi, isHi, toInt_hi⟩ := Word.exists_ofInt? ends
  have ordered : lo ≤ hi := Int32.le_iff_toInt_le.mpr (by omega)
  have whole : hi.toInt = lo.toInt + span.toInt.toNat := by rw [toInt_hi, toNat_span]
  have spanning := Interval.spanning_eq ordered whole
  have drawn : config.drawInterval valid stream = (.spanning lo span.toInt.toNat, next) := by
    simp only [drawInterval, bind_apply, pickNumber, startNumber, Int32.ofInt_toInt]
    rfl
  have absolute : (span.toInt.natAbs : Int) = span.toInt := by omega
  refine ⟨?_, ?_⟩
  · unfold drawInterval?
    rw [drawn, spanning, lift_bind_apply isGreatest, bind_apply_of_some pick, absolute,
      lift_bind_apply isLast, bind_apply_of_some start, lift_bind_apply isHi, dif_pos ordered]
    rfl
  · rw [drawn]
    exact spans_spanning (by omega) (by omega) (by omega)

/-- Validity is needed: there is no draw by words without a span to draw. -/
theorem drawInterval?_of_empty (empty : config.maxSpan.toInt ≤ config.minSpan.toInt)
    (stream : Keystream) : config.drawInterval? stream = none := by
  unfold drawInterval?
  cases isGreatest : Word.ofInt? (config.maxSpan.toInt - 1) with
  | none => rfl
  | some greatestSpan =>
      have toInt_greatest := Word.ofInt?_eq_some_iff.mp isGreatest
      have none : Draw.between? config.minSpan greatestSpan stream = none :=
        Draw.between?_of_lt (by omega) stream
      rw [lift_bind_apply rfl, bind_apply_of_none none]

theorem drawBox?_eq (valid : config.Valid) (stream : Keystream) :
    config.drawBox? stream = some (config.drawBox valid stream) ∧
      ∀ axis, config.Spans ((config.drawBox valid stream).1.get axis) := by
  obtain ⟨drawX, spansX⟩ := drawInterval?_eq valid stream
  obtain ⟨drawY, spansY⟩ := drawInterval?_eq valid (config.drawInterval valid stream).2
  obtain ⟨drawZ, spansZ⟩ := drawInterval?_eq valid
    (config.drawInterval valid (config.drawInterval valid stream).2).2
  refine ⟨?_, ?_⟩
  · unfold drawBox?
    rw [bind_apply_of_some drawX, bind_apply_of_some drawY, bind_apply_of_some drawZ]
    rfl
  · intro axis
    cases axis with
    | x => exact spansX
    | y => exact spansY
    | z => exact spansZ

end GeneratorConfig

namespace Generator

variable {config : GeneratorConfig} {generator : Generator}

theorem ofConfig_eq_ok_iff :
    ofConfig config = .ok generator ↔
      ∃ valid : config.Valid, generator = ⟨config, valid, .ofSeed config.seed⟩ := by
  unfold ofConfig
  constructor
  · intro accepted
    split at accepted
    · split at accepted
      · next nonneg below =>
          cases accepted
          exact ⟨⟨nonneg, below⟩, rfl⟩
      · cases accepted
    · cases accepted
  · rintro ⟨valid, rfl⟩
    rw [dif_pos valid.minSpan_nonneg, dif_pos valid.minSpan_lt]

/-- With an accepted configuration there is a start for each span, and from each of these starts an
    interval has all of the span, whichever are drawn. From every place in the stream the draw by
    words goes through, to the interval that is drawn, and so it does for a box and its axes. -/
theorem draws_whole_spans (accepted : ofConfig config = .ok generator) (stream : Keystream) :
    (∀ span : Nat, config.minSpan.toInt ≤ span → span < config.maxSpan.toInt →
      Word.least ≤ Word.greatest - span ∧
      ∀ lo : Int32, lo.toInt ≤ Word.greatest - span → config.Spans (.spanning lo span)) ∧
    config.drawInterval? stream = some (generator.config.drawInterval generator.valid stream) ∧
    config.Spans (generator.config.drawInterval generator.valid stream).1 ∧
    config.drawBox? stream = some (generator.config.drawBox generator.valid stream) ∧
    ∀ axis, config.Spans ((generator.config.drawBox generator.valid stream).1.get axis) := by
  obtain ⟨valid, rfl⟩ := ofConfig_eq_ok_iff.mp accepted
  obtain ⟨interval, spans⟩ := GeneratorConfig.drawInterval?_eq valid stream
  obtain ⟨box, axes⟩ := GeneratorConfig.drawBox?_eq valid stream
  refine ⟨fun span atLeast below => ⟨config.exists_start below, fun lo start => ?_⟩, interval,
    spans, box, axes⟩
  exact GeneratorConfig.spans_spanning atLeast below start

/-- With the widest spans that are accepted, an interval holds half of the words, less one, and
    begins at most one place above zero. -/
theorem draws_whole_spans_widest :
    let config : GeneratorConfig := { minSpan := 2147483646, maxSpan := 2147483647 }
    ∃ generator, ofConfig config = .ok generator ∧ ∀ stream,
      let interval := (generator.config.drawInterval generator.valid stream).1
      interval.length = 2147483647 ∧ interval.lo.toInt ≤ 1 := by
  intro config
  obtain ⟨generator, accepted⟩ : ∃ generator, ofConfig config = .ok generator :=
    ⟨_, ofConfig_eq_ok_iff.mpr ⟨⟨by decide, by decide⟩, rfl⟩⟩
  refine ⟨generator, accepted, fun stream => ?_⟩
  intro interval
  have spans : config.Spans interval := (draws_whole_spans accepted stream).2.2.1
  have minSpan : config.minSpan.toInt = 2147483646 := by decide
  have maxSpan : config.maxSpan.toInt = 2147483647 := by decide
  obtain ⟨span, atLeast, _, _, whole⟩ := spans.whole
  have length_ge := spans.length_ge
  have length_le := spans.length_le
  have hi_le : interval.hi.toInt ≤ 2147483647 := (Word.toInt_fits interval.hi).2
  clear_value config interval
  constructor <;> omega

end Generator

end Gridwise
