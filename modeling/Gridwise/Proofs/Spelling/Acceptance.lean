import Gridwise.Proofs.Spelling

/-!
# Spellings are accepted

An operand is read to its end in front of every text that does not continue its last numeral or
name, in whatever parentheses it stands. The places that need care are those directly behind an
opening parenthesis, where a minus sign may begin a constant or be an operator. The main
statement is that the texts that are read as an expression are exactly its spellings.
-/

namespace Gridwise

namespace Expr

open Reader

namespace Reader

variable {stack : List Frame} {rest : List Char} {e : Expr} {position : Nat} {c : Char}
  {state next : State} {numeral : Numeral} {value : Int32}

/-- The number of bytes of a text. -/
def byteCount : List Char → Nat
  | [] => 0
  | c :: cs => c.utf8Size + byteCount cs

/-- A numeral or a name that stands before the text ends there. -/
def EndsOperand (rest : List Char) : Prop :=
  ∀ c tail, rest = c :: tail → c.isDigit = false ∧ isLetter c = false

theorem byteCount_cons (c : Char) (cs : List Char) :
    byteCount (c :: cs) = c.utf8Size + byteCount cs := rfl

theorem byteCount_append (cs ds : List Char) :
    byteCount (cs ++ ds) = byteCount cs + byteCount ds := by
  induction cs with
  | nil => simp [byteCount]
  | cons c cs ih => simp only [List.cons_append, byteCount_cons, ih, Nat.add_assoc]

theorem run_cons (stepped : step state position c = .ok next) (rest : List Char) :
    run state position (c :: rest) = run next (position + c.utf8Size) rest := by
  rw [run, stepped]
  rfl

theorem run_cons_congr {other : State} (same : step state position c = step other position c)
    (rest : List Char) : run state position (c :: rest) = run other position (c :: rest) := by
  rw [run, run, same]

/-- A row of characters of one kind is collected one by one. -/
theorem run_row (focus : List Char → Focus) {row : List Char}
    (collects : ∀ c ∈ row, ∀ before position,
      step ⟨stack, focus before⟩ position c = .ok ⟨stack, focus (c :: before)⟩)
    (before : List Char) (position : Nat) (rest : List Char) :
    run ⟨stack, focus before⟩ position (row ++ rest) =
      run ⟨stack, focus (row.reverse ++ before)⟩ (position + byteCount row) rest := by
  induction row generalizing before position with
  | nil => rfl
  | cons c row ih =>
      have first := collects c List.mem_cons_self before position
      have others := ih fun d member => collects d (List.mem_cons_of_mem c member)
      rw [List.cons_append, run_cons first, others, byteCount_cons, List.reverse_cons,
        List.append_assoc, Nat.add_assoc]
      rfl

theorem ne_of_holds {p : Char → Bool} {other : Char} (holds : p c) (fails : p other = false) :
    c ≠ other := by
  intro same
  rw [same, fails] at holds
  cases holds

theorem isDigit_of_isLetter (letter : isLetter c) : c.isDigit = false := by
  simp only [isLetter, Bool.and_eq_true, decide_eq_true_eq, Char.le_def, UInt32.le_iff_toNat_le]
    at letter
  simp only [Char.isDigit, Bool.and_eq_false_iff, decide_eq_false_iff_not, ge_iff_le,
    UInt32.le_iff_toNat_le]
  have lowest : ('a' : Char).val.toNat = 97 := rfl
  have highest : ('9' : Char).val.toNat = 57 := rfl
  omega

theorem beginOperand_digit (digit : c.isDigit) (stack : List Frame) (position : Nat) :
    beginOperand stack position c = .ok ⟨stack, .numeral ⟨false, [c]⟩⟩ := by
  have notOpening : c ≠ '(' := ne_of_holds digit rfl
  have notMinus : c ≠ '-' := ne_of_holds digit rfl
  simp [beginOperand, notOpening, notMinus, digit]

theorem beginOperand_letter (letter : isLetter c) (stack : List Frame) (position : Nat) :
    beginOperand stack position c = .ok ⟨stack, .word [c]⟩ := by
  have notOpening : c ≠ '(' := ne_of_holds letter rfl
  have notMinus : c ≠ '-' := ne_of_holds letter rfl
  simp [beginOperand, notOpening, notMinus, isDigit_of_isLetter letter, letter]

theorem constantOf_of_denotes (denotes : numeral.Denotes value) :
    constantOf numeral = .ok value :=
  constantOf_eq_ok_iff.mpr ⟨denotes.nonempty, denotes.sameValue⟩

theorem exists_digit_cons {digits : List Char} (nonempty : digits ≠ [])
    (areDigits : ∀ c ∈ digits, c.isDigit) :
    ∃ first row, digits.reverse = first :: row ∧ first.isDigit ∧ ∀ c ∈ row, c.isDigit := by
  obtain ⟨first, row, split⟩ := List.exists_cons_of_ne_nil (List.reverse_ne_nil_iff.mpr nonempty)
  have members : ∀ c ∈ first :: row, c.isDigit := by
    intro c member
    rw [← split] at member
    exact areDigits c (List.mem_reverse.mp member)
  exact ⟨first, row, split, members first List.mem_cons_self,
    fun c member => members c (List.mem_cons_of_mem first member)⟩

theorem run_digits (negative : Bool) {row : List Char} (areDigits : ∀ c ∈ row, c.isDigit)
    (before : List Char) (position : Nat) (rest : List Char) :
    run ⟨stack, .numeral ⟨negative, before⟩⟩ position (row ++ rest) =
      run ⟨stack, .numeral ⟨negative, row.reverse ++ before⟩⟩ (position + byteCount row) rest := by
  apply run_row fun digits => .numeral ⟨negative, digits⟩
  intro c member before position
  simp [step, areDigits c member, Numeral.push]

theorem run_openedDigits {row : List Char} (areDigits : ∀ c ∈ row, c.isDigit)
    (before : List Char) (position : Nat) (rest : List Char) :
    run ⟨stack, .openedNumeral ⟨true, before⟩⟩ position (row ++ rest) =
      run ⟨stack, .openedNumeral ⟨true, row.reverse ++ before⟩⟩ (position + byteCount row)
        rest := by
  apply run_row fun digits => .openedNumeral ⟨true, digits⟩
  intro c member before position
  simp [step, areDigits c member, Numeral.push]

theorem run_numeral_end (found : constantOf numeral = .ok value) (ends : EndsOperand rest) :
    run ⟨stack, .numeral numeral⟩ position rest =
      run ⟨stack, .complete (.constant value)⟩ position rest := by
  cases rest with
  | nil => simp [run, finish, found, bind, Except.bind]
  | cons c tail =>
      apply run_cons_congr
      simp [step, found, (ends c tail rfl).1, bind, Except.bind]

theorem run_word_end {letters : List Char} (ends : EndsOperand rest) :
    run ⟨stack, .word letters⟩ position rest =
      run ⟨stack, .complete (.var (String.ofList letters.reverse))⟩ position rest := by
  cases rest with
  | nil => rfl
  | cons c tail =>
      apply run_cons_congr
      simp [step, (ends c tail rfl).2]

/-- An operand that stands where one is due is read to its end, in front of any text that does
    not continue it. -/
def ReadsAsOperand (e : Expr) (cs : List Char) : Prop :=
  ∀ stack position rest, EndsOperand rest →
    run ⟨stack, .operand⟩ position (cs ++ rest) =
      run ⟨stack, .complete e⟩ (position + byteCount cs) rest

theorem constant_readsAsOperand (denotes : numeral.Denotes value) :
    ReadsAsOperand (.constant value) numeral.chars := by
  intro stack position rest ends
  have found := constantOf_of_denotes denotes
  obtain ⟨negative, digits⟩ := numeral
  obtain ⟨first, row, split, digit, areDigits⟩ :=
    exists_digit_cons denotes.nonempty denotes.areDigits
  cases negative with
  | true =>
      have begins : step ⟨stack, .operand⟩ position '-' = .ok ⟨stack, .numeral ⟨true, []⟩⟩ := rfl
      have all : ∀ c ∈ digits.reverse, c.isDigit := by
        simpa using denotes.areDigits
      show run _ _ ('-' :: (digits.reverse ++ rest)) =
        run _ (_ + byteCount ('-' :: digits.reverse)) _
      rw [run_cons begins, run_digits true all, List.reverse_reverse, List.append_nil,
        run_numeral_end found ends, byteCount_cons, Nat.add_assoc]
  | false =>
      have begins : step ⟨stack, .operand⟩ position first =
          .ok ⟨stack, .numeral ⟨false, [first]⟩⟩ := beginOperand_digit digit stack position
      have whole : row.reverse ++ [first] = digits := by
        rw [← List.reverse_cons, ← split, List.reverse_reverse]
      show run _ _ (digits.reverse ++ rest) = run _ (_ + byteCount digits.reverse) _
      rw [split, List.cons_append, run_cons begins, run_digits false areDigits, whole,
        run_numeral_end found ends, byteCount_cons, Nat.add_assoc]

theorem var_readsAsOperand {letters : List Char} (nonempty : letters ≠ [])
    (areLetters : ∀ c ∈ letters, isLetter c) :
    ReadsAsOperand (.var (String.ofList letters)) letters := by
  intro stack position rest ends
  obtain ⟨first, row, rfl⟩ := List.exists_cons_of_ne_nil nonempty
  have begins : step ⟨stack, .operand⟩ position first = .ok ⟨stack, .word [first]⟩ :=
    beginOperand_letter (areLetters first List.mem_cons_self) stack position
  have collects : ∀ c ∈ row, ∀ before position,
      step ⟨stack, .word before⟩ position c = .ok ⟨stack, .word (c :: before)⟩ := by
    intro c member before position
    simp [step, areLetters c (List.mem_cons_of_mem first member)]
  rw [List.cons_append, run_cons begins, run_row .word collects, run_word_end ends,
    byteCount_cons, Nat.add_assoc]
  simp

/-- A spelling begins with a digit or a sign only if it is that of a constant. -/
theorem constant_or_head_of_spells {cs : List Char} (spelled : Spells e cs) :
    (∃ (numeral : Numeral) (value : Int32), numeral.Denotes value ∧ e = .constant value ∧
      cs = numeral.chars) ∨
    ∃ c tail, cs = c :: tail ∧ c ≠ '-' ∧ c.isDigit = false := by
  cases spelled with
  | constant numeral denotes => exact .inl ⟨numeral, _, denotes, rfl, rfl⟩
  | var letters nonempty areLetters =>
      obtain ⟨first, row, rfl⟩ := List.exists_cons_of_ne_nil nonempty
      have letter := areLetters first List.mem_cons_self
      exact .inr ⟨first, row, rfl, ne_of_holds letter rfl, isDigit_of_isLetter letter⟩
  | negation | operation => exact .inr ⟨'(', _, rfl, by decide, by decide⟩

theorem isOperator_iff {op : Char} :
    isOperator op ↔ op = '+' ∨ op = '-' ∨ op = '*' ∨ op = '/' := by
  simp [isOperator, or_assoc]

theorem endsOperand_of_isOperator {op : Char} (operator : isOperator op) (tail : List Char) :
    EndsOperand (op :: tail) := by
  intro c _ same
  cases same
  rcases isOperator_iff.mp operator with rfl | rfl | rfl | rfl <;> decide

theorem endsOperand_closing (tail : List Char) : EndsOperand (')' :: tail) := by
  intro c _ same
  cases same
  decide

/-- A negative constant directly behind a parenthesis is a left operand if an operator
    follows it. -/
theorem run_opened_negative {digits : List Char} (denotes : Numeral.Denotes ⟨true, digits⟩ value)
    {op : Char} (operator : isOperator op) :
    run ⟨stack, .opened⟩ position ('-' :: (digits.reverse ++ op :: rest)) =
      run ⟨.left :: stack, .complete (.constant value)⟩
        (position + byteCount ('-' :: digits.reverse)) (op :: rest) := by
  have found := constantOf_of_denotes denotes
  obtain ⟨first, row, split, digit, areDigits⟩ :=
    exists_digit_cons denotes.nonempty denotes.areDigits
  have minus : step ⟨stack, .opened⟩ position '-' = .ok ⟨stack, .openedMinus⟩ := rfl
  have begins : ∀ position, step ⟨stack, .openedMinus⟩ position first =
      .ok ⟨stack, .openedNumeral ⟨true, [first]⟩⟩ := by
    intro position
    simp [step, digit]
  have whole : row.reverse ++ [first] = digits := by
    rw [← List.reverse_cons, ← split, List.reverse_reverse]
  rw [run_cons minus, split, List.cons_append, run_cons (begins _), run_openedDigits areDigits,
    whole, byteCount_cons, byteCount_cons, ← Nat.add_assoc, ← Nat.add_assoc]
  have notDigit := (endsOperand_of_isOperator operator rest op rest rfl).1
  have notClosing : op ≠ ')' := ne_of_holds operator rfl
  apply run_cons_congr
  simp [step, notDigit, found, notClosing, bind, Except.bind]

theorem run_opened_left {cs : List Char} (spelled : Spells e cs) (reads : ReadsAsOperand e cs)
    {op : Char} (operator : isOperator op) (position : Nat) (rest : List Char) :
    run ⟨stack, .opened⟩ position (cs ++ op :: rest) =
      run ⟨.left :: stack, .complete e⟩ (position + byteCount cs) (op :: rest) := by
  have ends := endsOperand_of_isOperator operator rest
  rcases constant_or_head_of_spells spelled with
    ⟨⟨negative, digits⟩, value, denotes, rfl, rfl⟩ | ⟨c, tail, rfl, notMinus, -⟩
  · cases negative with
    -- The sign is read before it is known whether digits follow it.
    | true => exact run_opened_negative denotes operator
    | false =>
        obtain ⟨first, row, split, digit, -⟩ :=
          exists_digit_cons denotes.nonempty denotes.areDigits
        have notMinus : first ≠ '-' := ne_of_holds digit rfl
        have begins : Numeral.chars ⟨false, digits⟩ = first :: row := split
        rw [← reads _ _ _ ends, begins]
        apply run_cons_congr
        simp [step, notMinus]
  · rw [← reads _ _ _ ends]
    apply run_cons_congr
    simp [step, notMinus]

/-- A sign and digits alone between parentheses are the negation of what the digits denote. -/
theorem run_openedMinus_digits {digits : List Char}
    (denotes : Numeral.Denotes ⟨false, digits⟩ value) :
    run ⟨stack, .openedMinus⟩ position (digits.reverse ++ ')' :: rest) =
      run ⟨stack, .complete (.unary "-" (.constant value))⟩
        (position + byteCount digits.reverse + Char.utf8Size ')') rest := by
  obtain ⟨first, row, split, digit, areDigits⟩ :=
    exists_digit_cons denotes.nonempty denotes.areDigits
  have whole : row.reverse ++ [first] = digits := by
    rw [← List.reverse_cons, ← split, List.reverse_reverse]
  have begins : step ⟨stack, .openedMinus⟩ position first =
      .ok ⟨stack, .openedNumeral ⟨true, [first]⟩⟩ := by
    simp [step, digit]
  have nonnegative : 0 ≤ value.toInt := by
    rw [← denotes.sameValue]
    exact Int.natCast_nonneg _
  have fits : Word.Fits (-value.toInt) := by
    have bounds := Word.toInt_fits value
    unfold Word.Fits Word.least Word.greatest at *
    omega
  obtain ⟨opposite, isOpposite⟩ : ∃ opposite : Int32, opposite.toInt = -value.toInt :=
    ⟨_, Word.toInt_ofInt fits⟩
  have found : constantOf ⟨true, digits⟩ = .ok opposite := by
    refine constantOf_eq_ok_iff.mpr ⟨denotes.nonempty, ?_⟩
    rw [isOpposite, ← denotes.sameValue]
    rfl
  have negated : negationOf opposite = .ok (.unary "-" (.constant value)) := by
    rw [negationOf, isOpposite, Int.neg_neg, Word.ofInt?_toInt]
  have closing : ∀ position, step ⟨stack, .openedNumeral ⟨true, digits⟩⟩ position ')' =
      .ok ⟨stack, .complete (.unary "-" (.constant value))⟩ := by
    intro position
    simp [step, found, negated, bind, Except.bind, pure, Except.pure]
  rw [split, List.cons_append, run_cons begins, run_openedDigits areDigits, whole,
    run_cons (closing _), byteCount_cons, ← Nat.add_assoc]

theorem run_openedMinus_arg {cs : List Char} (spelled : Spells e cs) (reads : ReadsAsOperand e cs)
    (position : Nat) (rest : List Char) :
    run ⟨stack, .openedMinus⟩ position (cs ++ ')' :: rest) =
      run ⟨stack, .complete (.unary "-" e)⟩ (position + byteCount cs + Char.utf8Size ')')
        rest := by
  have closing : ∀ position, step ⟨.negation :: stack, .complete e⟩ position ')' =
      .ok ⟨stack, .complete (.unary "-" e)⟩ := fun _ => rfl
  rcases constant_or_head_of_spells spelled with
    ⟨⟨negative, digits⟩, value, denotes, rfl, rfl⟩ | ⟨c, tail, rfl, -, notDigit⟩
  · cases negative with
    | true =>
        rw [← run_cons (closing _), ← reads _ _ _ (endsOperand_closing rest)]
        rfl
    | false => exact run_openedMinus_digits denotes
  · rw [← run_cons (closing _), ← reads _ _ _ (endsOperand_closing rest)]
    apply run_cons_congr
    simp [step, notDigit]

theorem readsAsOperand_of_spells {cs : List Char} (spelled : Spells e cs) :
    ReadsAsOperand e cs := by
  induction spelled with
  | constant numeral denotes => exact constant_readsAsOperand denotes
  | var letters nonempty areLetters => exact var_readsAsOperand nonempty areLetters
  | @negation arg cs spelled reads =>
      intro stack position rest _
      have opening : step ⟨stack, .operand⟩ position '(' = .ok ⟨stack, .opened⟩ := rfl
      have minus : step ⟨stack, .opened⟩ (position + Char.utf8Size '(') '-' =
          .ok ⟨stack, .openedMinus⟩ := rfl
      rw [List.cons_append, List.cons_append, List.append_assoc, run_cons opening, run_cons minus]
      refine (run_openedMinus_arg spelled reads _ rest).trans ?_
      simp [byteCount, byteCount_append, Nat.add_assoc]
  | @operation left right first second op operator spelledLeft spelledRight readsLeft readsRight =>
      intro stack position rest _
      have opening : step ⟨stack, .operand⟩ position '(' = .ok ⟨stack, .opened⟩ := rfl
      have middle : ∀ position, step ⟨.left :: stack, .complete left⟩ position op =
          .ok ⟨.right left op :: stack, .operand⟩ := by
        intro position
        simp [step, afterOperand, operator]
      have closing : ∀ position, step ⟨.right left op :: stack, .complete right⟩ position ')' =
          .ok ⟨stack, .complete (.binary (String.singleton op) left right)⟩ := fun _ => rfl
      have split : '(' :: (first ++ op :: (second ++ [')'])) ++ rest =
          '(' :: (first ++ op :: (second ++ ')' :: rest)) := by
        simp
      rw [split, run_cons opening, run_opened_left spelledLeft readsLeft operator,
        run_cons (middle _), readsRight _ _ _ (endsOperand_closing rest), run_cons (closing _)]
      simp [byteCount, byteCount_append, Nat.add_assoc]

end Reader

/-- The texts that are read as an expression are its spellings. -/
theorem readChars_eq_ok_iff {cs : List Char} {e : Expr} : readChars cs = .ok e ↔ Spells e cs := by
  constructor
  · intro accepted
    have nothing : HasRead start [] := ⟨[], [], .outermost, .operand, rfl⟩
    exact spells_of_run nothing accepted
  · intro spelled
    have reads := readsAsOperand_of_spells spelled [] 0 [] nofun
    rw [List.append_nil] at reads
    exact reads

theorem read_eq_ok_iff {text : String} {e : Expr} : read text = .ok e ↔ Spells e text.toList :=
  readChars_eq_ok_iff

end Expr

end Gridwise
