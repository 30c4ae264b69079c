import Gridwise.Proofs.Spelling.Bytes
import Gridwise.Proofs.Spelling.Completion

/-!
# Where reading fails

An error that names a place names the first byte that cannot be right: the bytes before it begin
some text that is read, and with the byte itself they begin none. For a run gets to the place of
its error exactly as it would in front of any other text, and from there the state decides.
-/

namespace Gridwise

namespace Expr

open Reader

/-- Some text that is read begins with these bytes. -/
def Viable (front : List UInt8) : Prop := ∃ text e, read text = .ok e ∧ front <+: bytes text

/-- These are the bytes of a text that is read. -/
def Readable (all : List UInt8) : Prop := ∃ text e, read text = .ok e ∧ bytes text = all

/-- The place that an error names, if it names one. -/
def ReadError.position? : ReadError → Option Nat
  | .unexpected _ position | .expectedClosing position | .expectedOperator _ position
  | .trailing position => some position
  | .badConstant .. | .badNegation _ => none

namespace Reader

variable {stack : List Frame} {text rest : List Char} {e : Expr} {position place : Nat} {c : Char}
  {state : State} {numeral : Numeral} {error : ReadError}

/-! ## Errors of one step -/

theorem position?_of_constantOf (failed : constantOf numeral = .error error) :
    error.position? = none := by
  unfold constantOf at failed
  split at failed
  · cases failed
  · cases failed
    rfl

theorem position?_of_negationOf {value : Int32} (failed : negationOf value = .error error) :
    error.position? = none := by
  unfold negationOf at failed
  split at failed
  · cases failed
  · cases failed
    rfl

theorem position?_of_beginOperand (failed : beginOperand stack position c = .error error) :
    error.position? = some position := by
  unfold beginOperand at failed
  repeat' split at failed
  all_goals cases failed
  rfl

theorem position?_of_afterOperand (failed : afterOperand stack e position c = .error error) :
    error.position? = some position := by
  unfold afterOperand at failed
  repeat' split at failed
  all_goals cases failed
  all_goals rfl

/-- What is wrong where a step fails: the numeral that ends there, or the character in the place
    of an operand, behind a left operand, or behind what could end the text. -/
inductive StepFailure (state : State) (position : Nat) (c : Char) (error : ReadError) : Prop where
  | numeral (unplaced : error.position? = none)
  | noOperand {stack : List Frame} (sound : state.focus.Sound)
      (failed : beginOperand stack position c = .error error)
  | afterLeft {e : Expr} (sound : state.focus.Sound)
      (failed : afterOperand (.left :: state.stack) e position c = .error error)
  | afterOperand {e : Expr} (sound : state.focus.Sound)
      (failed : afterOperand state.stack e position c = .error error)
      (ends : finish state position = finishOperand state.stack e position)

theorem stepFailure_of_step (failed : step state position c = .error error) :
    StepFailure state position c error := by
  obtain ⟨stack, focus⟩ := state
  cases focus with
  | operand => exact .noOperand trivial failed
  | opened =>
      simp only [step] at failed
      split at failed
      · cases failed
      · exact .noOperand trivial failed
  | openedMinus =>
      simp only [step] at failed
      split at failed
      · cases failed
      · exact .noOperand trivial failed
  | numeral numeral =>
      simp only [step] at failed
      split at failed
      · cases failed
      · rcases bind_eq_error_iff.mp failed with bad | ⟨value, found, failed⟩
        · exact .numeral (position?_of_constantOf bad)
        · exact .afterOperand ⟨value, found⟩ failed (by simp only [finish, found]; rfl)
  | openedNumeral numeral =>
      simp only [step] at failed
      split at failed
      · cases failed
      · rcases bind_eq_error_iff.mp failed with bad | ⟨value, found, failed⟩
        · exact .numeral (position?_of_constantOf bad)
        · split at failed
          · rcases bind_eq_error_iff.mp failed with bad | ⟨e, _, failed⟩
            · exact .numeral (position?_of_negationOf bad)
            · cases failed
          · exact .afterLeft ⟨value, found⟩ failed
  | word letters =>
      simp only [step] at failed
      split at failed
      · cases failed
      · exact .afterOperand trivial failed rfl
  | complete e => exact .afterOperand trivial failed rfl

/-- An error of a step that names a place names the step's own, and no numeral is to blame. -/
theorem sound_of_step (failed : step state position c = .error error)
    (placed : error.position? = some place) : place = position ∧ state.focus.Sound := by
  cases stepFailure_of_step failed with
  | numeral unplaced =>
      rw [unplaced] at placed
      cases placed
  | noOperand sound failed =>
      rw [position?_of_beginOperand failed] at placed
      exact ⟨(Option.some.inj placed).symm, sound⟩
  | afterLeft sound failed | afterOperand sound failed =>
      rw [position?_of_afterOperand failed] at placed
      exact ⟨(Option.some.inj placed).symm, sound⟩

/-- A character is only trailing behind a whole expression. -/
theorem finish_of_step_trailing (failed : step state position c = .error (.trailing place)) :
    ∃ e, finish state position = .ok e := by
  cases stepFailure_of_step failed with
  | numeral unplaced => cases unplaced
  | noOperand _ failed =>
      unfold beginOperand at failed
      repeat' split at failed
      all_goals cases failed
  | afterLeft _ failed =>
      simp only [Reader.afterOperand] at failed
      split at failed <;> cases failed
  | @afterOperand e _ failed ends =>
      refine ⟨e, ends.trans ?_⟩
      unfold Reader.afterOperand at failed
      repeat' split at failed
      all_goals cases failed
      next empty => rw [empty, finishOperand]

/-- An error at the end of the text that names a place names the end, and there is something still
    to come. -/
theorem sound_of_finish (failed : finish state position = .error error)
    (placed : error.position? = some place) :
    place = position ∧ state.focus.Sound ∧ error ≠ .trailing place := by
  have behind : ∀ {stack e}, finishOperand stack e position = .error error →
      place = position ∧ error ≠ .trailing place := by
    intro stack e failed
    unfold finishOperand at failed
    split at failed
    all_goals cases failed
    all_goals exact ⟨(Option.some.inj placed).symm, nofun⟩
  obtain ⟨stack, focus⟩ := state
  cases focus with
  | operand | opened | openedMinus =>
      cases failed
      exact ⟨(Option.some.inj placed).symm, trivial, nofun⟩
  | numeral | openedNumeral =>
      rcases bind_eq_error_iff.mp failed with bad | ⟨value, found, failed⟩
      · rw [position?_of_constantOf bad] at placed
        cases placed
      · exact ⟨(behind failed).1, ⟨value, found⟩, (behind failed).2⟩
  | word | complete => exact ⟨(behind failed).1, trivial, (behind failed).2⟩

/-! ## Errors of a run -/

/-- A run ends with an error in some state, at the end of the text or at its next character. -/
def FailsIn (state : State) (position : Nat) (back : List Char) (error : ReadError) : Prop :=
  match back with
  | [] => finish state position = .error error
  | c :: _ => step state position c = .error error

/-- A run that fails gets to the place where it does as it would in front of any other text. -/
theorem exists_failsIn_of_run (read : HasRead state text)
    (failed : run state position rest = .error error) :
    ∃ front back last, rest = front ++ back ∧ HasRead last (text ++ front) ∧
      (∀ other, run state position (front ++ other) = run last (position + byteCount front) other) ∧
      FailsIn last (position + byteCount front) back error := by
  induction rest generalizing state text position with
  | nil => exact ⟨[], [], state, rfl, by simpa using read, fun _ => rfl, failed⟩
  | cons c rest ih =>
      rcases bind_eq_error_iff.mp failed with stopped | ⟨next, stepped, failed⟩
      · exact ⟨[], c :: rest, state, rfl, by simpa using read, fun _ => rfl, stopped⟩
      · obtain ⟨front, back, last, split, hasRead, reaches, failsIn⟩ :=
          ih (step_hasRead read stepped) failed
        rw [Nat.add_assoc, ← byteCount_cons] at failsIn
        refine ⟨c :: front, back, last, by rw [split]; rfl, by simpa using hasRead, ?_, failsIn⟩
        intro other
        rw [List.cons_append, run_cons stepped, reaches, byteCount_cons, Nat.add_assoc]

end Reader

variable {text : String} {error : ReadError} {position : Nat}

/-- What has been read in a sound state begins a text that is read, and is ASCII as all such texts
    are. -/
theorem viable_of_hasRead {front : List Char} {last : State} (hasRead : HasRead last front)
    (sound : last.focus.Sound) : Viable (encode front) ∧ Ascii front := by
  obtain ⟨rest, e, spelled⟩ := exists_spells_of_hasRead hasRead sound
  refine ⟨⟨String.ofList (front ++ rest), e, ?_, ?_⟩, ?_⟩
  · rw [read_eq_ok_iff, String.toList_ofList]
    exact spelled
  · rw [bytes_ofList, encode_append]
    exact List.prefix_append _ _
  · intro c member
    exact ascii_of_spells spelled c (List.mem_append_left rest member)

/-- No text that is read has the bytes before the place of an error and the one at it: it would have
    the same characters there and fail in the same way. -/
theorem not_viable_of_step {front tail : List Char} {c : Char} {last : State}
    (asciiFront : Ascii front)
    (reaches : ∀ other, run start 0 (front ++ other) = run last (byteCount front) other)
    (failed : step last (byteCount front) c = .error error) :
    ¬ Viable ((encode (front ++ c :: tail)).take (byteCount front + 1)) := by
  intro ⟨other, e, accepted, begins⟩
  have ascii := ascii_of_spells (read_eq_ok_iff.mp accepted)
  rw [bytes_eq_encode] at begins
  obtain ⟨rest, split⟩ := exists_append_of_encode_prefix asciiFront ascii tail begins
  have ran : run last (byteCount front) (c :: rest) = .ok e := by
    rw [← reaches, ← split]
    exact accepted
  obtain ⟨next, stepped, _⟩ := bind_eq_ok_iff.mp ran
  cases failed.symm.trans stepped

/-- Where a text fails to be read: at its end or at a byte of it, and in either case where nothing
    before was wrong. -/
structure FailsAt (text : String) (error : ReadError) (position : Nat) : Prop where
  inside : position ≤ (bytes text).length
  viable : Viable ((bytes text).take position)
  hopeless : position < (bytes text).length → ¬ Viable ((bytes text).take (position + 1))
  trailing : error = .trailing position →
    position < (bytes text).length ∧ Readable ((bytes text).take position)

theorem failsAt_of_read (failed : read text = .error error)
    (placed : error.position? = some position) : FailsAt text error position := by
  have nothing : HasRead start [] := ⟨[], [], .outermost, .operand, rfl⟩
  obtain ⟨front, back, last, split, hasRead, reaches, failsIn⟩ :=
    exists_failsIn_of_run nothing failed
  simp only [List.nil_append, Nat.zero_add] at hasRead reaches failsIn
  have whole : bytes text = encode (front ++ back) := by rw [bytes_eq_encode, split]
  cases back with
  | nil =>
      obtain ⟨rfl, sound, notTrailing⟩ := sound_of_finish failsIn placed
      obtain ⟨viable, _⟩ := viable_of_hasRead hasRead sound
      have length : (bytes text).length = byteCount front := by
        rw [whole, List.append_nil, length_encode]
      refine ⟨Nat.le_of_eq length.symm, ?_, ?_, fun trailing => absurd trailing notTrailing⟩
      · rwa [whole, take_encode_append]
      · intro before
        omega
  | cons c tail =>
      obtain ⟨rfl, sound⟩ := sound_of_step failsIn placed
      obtain ⟨viable, ascii⟩ := viable_of_hasRead hasRead sound
      have before : byteCount front < (bytes text).length := by
        have positive := c.utf8Size_pos
        rw [whole, length_encode, byteCount_append, byteCount_cons]
        omega
      refine ⟨Nat.le_of_lt before, ?_, ?_, ?_⟩
      · rwa [whole, take_encode_append]
      · intro _
        rw [whole]
        exact not_viable_of_step ascii reaches failsIn
      · rintro rfl
        obtain ⟨e, finished⟩ := finish_of_step_trailing failsIn
        refine ⟨before, String.ofList front, e, ?_, ?_⟩
        · have ran := reaches []
          rw [List.append_nil] at ran
          rw [read, String.toList_ofList, readChars, ran]
          exact finished
        · rw [bytes_ofList, whole, take_encode_append]

/-! ## Places in the wording of errors -/

theorem toList_text_nat (n : Nat) : (Decimal.text n).toList = Nat.toDigits 10 n :=
  (Decimal.toList_text n).trans (Decimal.digits_eq_toDigits n)

theorem isDigit_of_mem_text {n : Nat} {c : Char} (member : c ∈ (Decimal.text n).toList) :
    c.isDigit := by
  rw [toList_text_nat] at member
  exact Nat.isDigit_of_mem_toDigits (by decide) (by decide) member

/-- Behind a last blank there is no other one. -/
theorem eq_nil_of_last_blank {between back back' : List Char} (noBlank : ' ' ∉ back)
    (same : ' ' :: back = between ++ ' ' :: back') : between = [] := by
  cases between with
  | nil => rfl
  | cons c between =>
      obtain ⟨_, others⟩ := List.cons.inj same
      exact absurd (by rw [others]; simp) noBlank

/-- What follows the last blank of a text that ends in a place is the place. -/
theorem front_and_place_eq {front front' : String} {place place' : Nat}
    (same : front ++ " at " ++ Decimal.text place = front' ++ " at " ++ Decimal.text place') :
    front = front' ∧ place = place' := by
  have noBlank : ∀ n : Nat, ' ' ∉ (Decimal.text n).toList := by
    intro n member
    cases isDigit_of_mem_text member
  have sameChars : (front.toList ++ [' ', 'a', 't']) ++ ' ' :: (Decimal.text place).toList =
      (front'.toList ++ [' ', 'a', 't']) ++ ' ' :: (Decimal.text place').toList := by
    simpa using congrArg String.toList same
  obtain ⟨sameFront, samePlace⟩ :
      front.toList ++ [' ', 'a', 't'] = front'.toList ++ [' ', 'a', 't'] ∧
        ' ' :: (Decimal.text place).toList = ' ' :: (Decimal.text place').toList := by
    rcases List.append_eq_append_iff.mp sameChars with
      ⟨between, split, rest⟩ | ⟨between, split, rest⟩
    · obtain rfl := eq_nil_of_last_blank (noBlank place) rest
      exact ⟨by simpa using split.symm, by simpa using rest⟩
    · obtain rfl := eq_nil_of_last_blank (noBlank place') rest
      exact ⟨by simpa using split, by simpa using rest.symm⟩
  refine ⟨String.toList_inj.mp (List.append_cancel_right sameFront), ?_⟩
  have sameDigits := (List.cons.inj samePlace).2
  rw [toList_text_nat, toList_text_nat] at sameDigits
  have sameValue := congrArg (Nat.ofDigitChars 10 · 0) sameDigits
  simpa using sameValue

/-- The wording of an error over a numeral does not end in a place. -/
theorem message_ne_of_reason (front front' : String) (reason : NumeralError) (place : Nat) :
    front ++ reason.message ≠ front' ++ " at " ++ Decimal.text place := by
  intro same
  obtain ⟨last, isLast, digit⟩ :
      ∃ c, (Decimal.text place).toList.getLast? = some c ∧ c.isDigit := by
    have nonempty : (Decimal.text place).toList ≠ [] := by
      rw [toList_text_nat]
      exact Nat.toDigits_ne_nil
    refine ⟨_, List.getLast?_eq_some_getLast nonempty, ?_⟩
    exact isDigit_of_mem_text (List.getLast_mem nonempty)
  obtain ⟨letter, isLetter, notDigit⟩ :
      ∃ c, reason.message.toList.getLast? = some c ∧ c.isDigit = false := by
    cases reason with
    | tooLarge | tooSmall => exact ⟨'e', by decide, by decide⟩
    | noDigits => exact ⟨'g', by decide, by decide⟩
  have sameLast := congrArg (fun text => text.toList.getLast?) same
  simp only [String.toList_append, List.getLast?_append, isLast, isLetter, Option.some_or,
    Option.some.injEq] at sameLast
  rw [sameLast, digit] at notDigit
  cases notDigit

/-- An error whose wording ends in a place names that place. -/
theorem position?_of_message {front : String}
    (worded : error.message = front ++ " at " ++ Decimal.text position) :
    error.position? = some position ∧
      (front = "trailing input" → error = .trailing position) := by
  cases error with
  | unexpected found place =>
      obtain ⟨rfl, rfl⟩ := front_and_place_eq worded
      refine ⟨rfl, fun same => ?_⟩
      have first := congrArg (fun text => text.toList.head?) same
      simp at first
  | expectedClosing place =>
      have split : ReadError.message (.expectedClosing place) =
          "expected ')'" ++ " at " ++ Decimal.text place := rfl
      obtain ⟨rfl, rfl⟩ := front_and_place_eq (split.symm.trans worded)
      exact ⟨rfl, fun same => absurd same (by decide)⟩
  | expectedOperator found place =>
      obtain ⟨rfl, rfl⟩ := front_and_place_eq worded
      refine ⟨rfl, fun same => ?_⟩
      have first := congrArg (fun text => text.toList.head?) same
      simp at first
  | trailing place =>
      have split : ReadError.message (.trailing place) =
          "trailing input" ++ " at " ++ Decimal.text place := rfl
      obtain ⟨_, rfl⟩ := front_and_place_eq (split.symm.trans worded)
      exact ⟨rfl, fun _ => rfl⟩
  | badConstant numeral reason => exact absurd worded (message_ne_of_reason _ _ reason _)
  | badNegation reason =>
      have split : ReadError.message (.badNegation reason) = "" ++ reason.message := by
        rw [String.empty_append]
        rfl
      exact absurd (split.symm.trans worded) (message_ne_of_reason _ _ reason _)

/-- Every text is read or fails with an error. If the wording of the error ends in a place, the
    place is in the text or at its end, the bytes before it begin a text that is read, and with
    the byte at it they begin none. What is in front of trailing input is itself read. -/
theorem read_error_position_exact (text : String) :
    (∃ e, read text = .ok e) ∨
    ∃ error, read text = .error error ∧
      ∀ (complaint : String) (position : Nat),
        error.message = complaint ++ " at " ++ Decimal.text position →
        position ≤ (bytes text).length ∧
        Viable ((bytes text).take position) ∧
        (position < (bytes text).length → ¬ Viable ((bytes text).take (position + 1))) ∧
        (complaint = "trailing input" →
          position < (bytes text).length ∧ Readable ((bytes text).take position)) := by
  cases failed : read text with
  | ok e => exact .inl ⟨e, rfl⟩
  | error error =>
      refine .inr ⟨error, rfl, ?_⟩
      intro complaint position worded
      obtain ⟨placed, trailing⟩ := position?_of_message worded
      have fails := failsAt_of_read failed placed
      exact ⟨fails.inside, fails.viable, fails.hopeless, fun same => fails.trailing (trailing same)⟩

/-- A left operand that could not be negated, in front of a character of two bytes, and a whole
    expression in front of a letter. -/
theorem read_error_position_exact_least_constant :
    read "(-2147483648é" = .error (.expectedOperator (some 'é') 12) ∧
      Viable ((bytes "(-2147483648é").take 12) ∧ ¬ Viable ((bytes "(-2147483648é").take 13) ∧
      read "(x+y)z" = .error (.trailing 5) ∧ Readable ((bytes "(x+y)z").take 5) := by
  have wide : read "(-2147483648é" = .error (.expectedOperator (some 'é') 12) := by rfl
  have long : read "(x+y)z" = .error (.trailing 5) := by rfl
  rcases read_error_position_exact "(-2147483648é" with ⟨e, accepted⟩ | ⟨error, failed, places⟩
  · cases wide.symm.trans accepted
  rcases read_error_position_exact "(x+y)z" with ⟨e, accepted⟩ | ⟨error', failed', places'⟩
  · cases long.symm.trans accepted
  obtain rfl := Except.error.inj (wide.symm.trans failed)
  obtain rfl := Except.error.inj (long.symm.trans failed')
  obtain ⟨_, viable, hopeless, _⟩ := places "expected operator, found Some(195)" 12 (by rfl)
  obtain ⟨_, _, _, trailing⟩ := places' "trailing input" 5 (by rfl)
  exact ⟨wide, viable, hopeless (by decide), long, (trailing rfl).2⟩

end Expr

end Gridwise
