import Gridwise.Decimal

/-!
# Decimal text

The written form of an integer is the only canonical text of all those that are read as the integer:
the digits without a zero in front, and a minus sign for what is below zero. Zeros, underscores and
signs that are accepted besides change nothing in the value, so texts of one integer are known by
the text that is written for it.
-/

namespace Gridwise

/-! ## Rows of digits -/

theorem digitChar_toNat_sub {c : Char} (digit : c.isDigit) :
    c.toNat - '0'.toNat < 10 ∧ (c.toNat - '0'.toNat).digitChar = c := by
  have bounds : 48 ≤ c.toNat ∧ c.toNat ≤ 57 := by
    simpa [Char.isDigit, UInt32.le_iff_toNat_le] using digit
  have zero : '0'.toNat = 48 := rfl
  have small : c.toNat - 48 < 10 := by omega
  refine ⟨by omega, ?_⟩
  have shown : ∀ d < 10, d.digitChar = Char.ofNat (48 + d) := by decide
  rw [zero, shown _ small, Nat.add_sub_cancel' bounds.1, Char.ofNat_toNat]

/-- A row of digits, given latest first, is some zeros and then the digits of its value. -/
theorem exists_zeros_append_toDigits {digits : List Char} (nonempty : digits ≠ [])
    (areDigits : ∀ c ∈ digits, c.isDigit) :
    ∃ zeros, digits.reverse =
      List.replicate zeros '0' ++ Nat.toDigits 10 (Nat.ofDigitChars 10 digits.reverse 0) := by
  induction digits with
  | nil => exact absurd rfl nonempty
  | cons last front ih =>
      obtain ⟨small, shown⟩ := digitChar_toNat_sub (areDigits last List.mem_cons_self)
      have lastDigits : Nat.toDigits 10 (last.toNat - '0'.toNat) = [last] := by
        rw [Nat.toDigits_of_lt_base small, shown]
      rw [List.reverse_cons, Nat.ofDigitChars_append, Nat.ofDigitChars_cons, Nat.ofDigitChars_nil]
      by_cases empty : front = []
      · subst empty
        refine ⟨0, ?_⟩
        rw [List.reverse_nil, Nat.ofDigitChars_nil, Nat.mul_zero, Nat.zero_add, lastDigits]
        rfl
      obtain ⟨zeros, split⟩ :=
        ih empty fun c member => areDigits c (List.mem_cons_of_mem last member)
      generalize Nat.ofDigitChars 10 front.reverse 0 = value at split
      by_cases zero : value = 0
      · -- All digits so far are zeros, so the last one alone shows the value.
        subst zero
        refine ⟨zeros + 1, ?_⟩
        rw [split, Nat.toDigits_zero, Nat.mul_zero, Nat.zero_add, lastDigits, List.replicate_succ']
      · refine ⟨zeros, ?_⟩
        rw [← Nat.toDigits_append_toDigits (by decide) (by omega) small, lastDigits,
          ← List.append_assoc, ← split]

namespace Decimal

variable {cs ds : List Char} {n : Nat}

/-- A row of digits with no zero in front, unless the zero is all of it. -/
structure Shortest (ds : List Char) : Prop where
  nonempty : ds ≠ []
  areDigits : ∀ c ∈ ds, c.isDigit
  noZero : ds.head? = some '0' → ds = ['0']

theorem head?_toDigits_ne (positive : 0 < n) : (Nat.toDigits 10 n).head? ≠ some '0' := by
  intro zero
  rw [← dropWhile_lastDigits positive (lt_tens_of_log2_lt (Nat.lt_succ_self _))] at zero
  have nonzero := List.head?_dropWhile_not (· == '0') (lastDigits (n.log2 + 1) n)
  rw [zero] at nonzero
  cases nonzero

theorem shortest_toDigits (n : Nat) : Shortest (Nat.toDigits 10 n) where
  nonempty := Nat.toDigits_ne_nil
  areDigits _ := Nat.isDigit_of_mem_toDigits (by decide) (by decide)
  noZero zero := by
    by_cases positive : 0 < n
    · exact absurd zero (head?_toDigits_ne positive)
    · rw [Nat.eq_zero_of_not_pos positive, Nat.toDigits_zero]

/-- The digits of a value are its only shortest row. -/
theorem Shortest.toDigits_ofDigitChars (shortest : Shortest ds) :
    Nat.toDigits 10 (Nat.ofDigitChars 10 ds 0) = ds := by
  have nonempty : ds.reverse ≠ [] := by simpa using shortest.nonempty
  obtain ⟨zeros, split⟩ := exists_zeros_append_toDigits nonempty (by simpa using shortest.areDigits)
  rw [List.reverse_reverse] at split
  cases zeros with
  | zero => exact split.symm
  | succ zeros =>
      have zero : ds = ['0'] := shortest.noZero (by rw [split]; rfl)
      rw [zero]
      rfl

/-! ## Reading -/

theorem ofDigitChars_filter_dropWhile (cs : List Char) :
    Nat.ofDigitChars 10 ((cs.dropWhile (· == '0')).filter (· != '_')) 0 =
      Nat.ofDigitChars 10 (cs.filter (· != '_')) 0 := by
  induction cs with
  | nil => rfl
  | cons c cs ih =>
      by_cases zero : c = '0'
      · subst zero
        exact ih
      · rw [List.dropWhile_cons_of_neg (by simpa using zero)]

theorem all_isDigit_dropWhile_iff (cs : List Char) :
    ((cs.dropWhile (· == '0')).filter (· != '_')).all Char.isDigit ↔
      ∀ c ∈ cs, c.isDigit ∨ c = '_' := by
  induction cs with
  | nil => simp
  | cons c cs ih =>
      by_cases zero : c = '0'
      · subst zero
        rw [List.dropWhile_cons_of_pos rfl, ih, List.forall_mem_cons, iff_and_self]
        exact fun _ => .inl rfl
      · rw [List.dropWhile_cons_of_neg (by simpa using zero)]
        simp only [List.all_eq_true, List.mem_filter, bne_iff_ne, and_imp, ne_eq,
          Decidable.or_iff_not_imp_right]

/-- Digits and underscores behind a sign, of which the digits say how large an integer is. -/
structure Magnitude (cs : List Char) (n : Nat) : Prop where
  nonempty : cs ≠ []
  accepted : ∀ c ∈ cs, c.isDigit ∨ c = '_'
  value : Nat.ofDigitChars 10 (cs.filter (· != '_')) 0 = n

/-- What a text stands for: a magnitude behind a sign of either kind or behind none. -/
inductive Denotes : List Char → Int → Prop where
  | unsigned {cs : List Char} {n : Nat} : Magnitude cs n → Denotes cs n
  | plus {cs : List Char} {n : Nat} : Magnitude cs n → Denotes ('+' :: cs) n
  | minus {cs : List Char} {n : Nat} : Magnitude cs n → Denotes ('-' :: cs) (-n)

theorem Magnitude.ne {c : Char} (magnitude : Magnitude (c :: cs) n) : c ≠ '-' ∧ c ≠ '+' := by
  have accepted := magnitude.accepted c List.mem_cons_self
  constructor
  · rintro rfl
    exact absurd accepted (by decide)
  · rintro rfl
    exact absurd accepted (by decide)

/-- Zeros in front are skipped before underscores are dropped, but they would not count anyway. -/
theorem readMagnitude_eq_ok_iff : readMagnitude cs = .ok n ↔ Magnitude cs n := by
  simp only [readMagnitude, ofDigitChars_filter_dropWhile, List.isEmpty_iff]
  split
  · next empty => exact ⟨nofun, fun magnitude => absurd empty magnitude.nonempty⟩
  · next nonempty =>
      split
      · next accepted =>
          rw [all_isDigit_dropWhile_iff] at accepted
          rw [Except.ok.injEq]
          exact ⟨fun same => ⟨nonempty, accepted, same⟩, Magnitude.value⟩
      · next refused =>
          rw [all_isDigit_dropWhile_iff] at refused
          exact ⟨nofun, fun magnitude => absurd magnitude.accepted refused⟩

theorem map_readMagnitude_eq_ok_iff {sign : Int → Int} {value : Int} :
    Except.map sign (do let n ← readMagnitude cs; pure (n : Int)) = .ok value ↔
      ∃ n : Nat, Magnitude cs n ∧ sign n = value := by
  simp only [← readMagnitude_eq_ok_iff]
  cases readMagnitude cs with
  | error error => exact ⟨nofun, fun ⟨_, read, _⟩ => nomatch read⟩
  | ok n => simp [Except.map, bind, Except.bind, pure, Except.pure]

theorem readChars_eq_ok_iff {value : Int} : readChars cs = .ok value ↔ Denotes cs value := by
  unfold readChars
  constructor
  · intro read
    split at read
    · obtain ⟨n, magnitude, rfl⟩ := map_readMagnitude_eq_ok_iff.mp read
      exact .minus magnitude
    · obtain ⟨n, magnitude, rfl⟩ := map_readMagnitude_eq_ok_iff.mp read
      exact .plus magnitude
    · obtain ⟨n, magnitude, rfl⟩ := map_readMagnitude_eq_ok_iff.mp read
      exact .unsigned magnitude
  · intro denotes
    cases denotes with
    | minus magnitude => exact map_readMagnitude_eq_ok_iff.mpr ⟨_, magnitude, rfl⟩
    | plus magnitude => exact map_readMagnitude_eq_ok_iff.mpr ⟨_, magnitude, rfl⟩
    | unsigned magnitude =>
        split
        · exact absurd rfl magnitude.ne.1
        · exact absurd rfl magnitude.ne.2
        · exact map_readMagnitude_eq_ok_iff.mpr ⟨_, magnitude, rfl⟩

/-! ## The canonical text -/

/-- Text with a minus sign or none in front of a shortest row of digits. There is no sign for
    zero. -/
inductive Canonical : List Char → Prop where
  | plain {ds : List Char} : Shortest ds → Canonical ds
  | minus {ds : List Char} : Shortest ds → ds ≠ ['0'] → Canonical ('-' :: ds)

theorem canonical_chars (n : Int) : Canonical (chars n) := by
  cases n with
  | ofNat n =>
      rw [chars, digits_eq_toDigits]
      exact .plain (shortest_toDigits n)
  | negSucc n =>
      rw [chars, digits_eq_toDigits]
      refine .minus (shortest_toDigits (n + 1)) fun zero => ?_
      exact head?_toDigits_ne (Nat.succ_pos n) (by rw [zero]; rfl)

theorem Shortest.filter_eq_self (shortest : Shortest ds) : ds.filter (· != '_') = ds := by
  rw [List.filter_eq_self]
  intro c member
  have digit := shortest.areDigits c member
  rw [bne_iff_ne]
  rintro rfl
  cases digit

theorem Shortest.magnitude_iff (shortest : Shortest ds) :
    Magnitude ds n ↔ Nat.toDigits 10 n = ds := by
  constructor
  · intro magnitude
    rw [← magnitude.value, shortest.filter_eq_self, shortest.toDigits_ofDigitChars]
  · rintro rfl
    refine ⟨shortest.nonempty, fun c member => .inl (shortest.areDigits c member), ?_⟩
    rw [shortest.filter_eq_self, Nat.ofDigitChars_ten_toDigits]

theorem denotes_chars (n : Int) : Denotes (chars n) n := by
  cases n with
  | ofNat n =>
      rw [chars, digits_eq_toDigits]
      exact .unsigned ((shortest_toDigits n).magnitude_iff.mpr rfl)
  | negSucc n =>
      rw [chars, digits_eq_toDigits]
      exact .minus ((shortest_toDigits (n + 1)).magnitude_iff.mpr rfl)

theorem Canonical.eq_chars {value : Int} (canonical : Canonical cs) (denotes : Denotes cs value) :
    cs = chars value := by
  cases denotes with
  | unsigned magnitude =>
      cases canonical with
      | plain shortest =>
          show cs = digits _
          rw [digits_eq_toDigits, shortest.magnitude_iff.mp magnitude]
      | minus => exact absurd rfl magnitude.ne.1
  | plus magnitude =>
      cases canonical with
      | plain shortest => exact absurd (shortest.areDigits '+' List.mem_cons_self) (by decide)
  | minus magnitude =>
      rename_i ds n
      cases canonical with
      | plain shortest => exact absurd (shortest.areDigits '-' List.mem_cons_self) (by decide)
      | minus shortest nonzero =>
          have shown := shortest.magnitude_iff.mp magnitude
          cases n with
          | zero => exact absurd shown.symm nonzero
          | succ n =>
              show '-' :: ds = '-' :: digits (n + 1)
              rw [digits_eq_toDigits, shown]

theorem Canonical.isDigit_or_minus {c : Char} (canonical : Canonical cs) (member : c ∈ cs) :
    c.isDigit ∨ c = '-' := by
  cases canonical with
  | plain shortest => exact .inl (shortest.areDigits c member)
  | minus shortest =>
      rcases List.mem_cons.mp member with minus | member
      · exact .inr minus
      · exact .inl (shortest.areDigits c member)

theorem minus_mem_chars_iff (n : Int) : '-' ∈ chars n ↔ n < 0 := by
  cases n with
  | ofNat n =>
      refine iff_of_false (fun member => ?_) (Int.not_lt.mpr (Int.natCast_nonneg n))
      rw [chars, digits_eq_toDigits] at member
      exact absurd ((shortest_toDigits n).areDigits '-' member) (by decide)
  | negSucc n => exact iff_of_true List.mem_cons_self (Int.negSucc_lt_zero n)

theorem read_eq_ok_iff {s : String} {n : Int} : read s = .ok n ↔ Denotes s.toList n :=
  readChars_eq_ok_iff

theorem read_text (n : Int) : read (text n) = .ok n := by
  rw [read_eq_ok_iff, toList_text]
  exact denotes_chars n

/-- What is accepted stands for an integer by its sign and its digits, and every integer is read from
    what is written for it. If a text is read as an integer, what is written for the integer is
    canonical and is read as the same integer, and no other canonical text is. Two texts are read as
    the same integer if and only if the same is written for both. -/
theorem text_is_canonical :
    (∀ s n, read s = .ok n ↔ Denotes s.toList n) ∧
    (∀ n, read (text n) = .ok n) ∧
    (∀ s n, read s = .ok n →
      '+' ∉ (text n).toList ∧ '_' ∉ (text n).toList ∧ ('-' ∈ (text n).toList ↔ n < 0) ∧
      Canonical (text n).toList ∧ read (text n) = .ok n ∧
      ∀ t : String, Canonical t.toList → read t = .ok n → t = text n) ∧
    ∀ s t m n, read s = .ok m → read t = .ok n → (m = n ↔ text m = text n) := by
  refine ⟨fun s n => read_eq_ok_iff, read_text, ?_, ?_⟩
  · intro s n _
    have canonical := canonical_chars n
    rw [toList_text]
    refine ⟨fun member => ?_, fun member => ?_, minus_mem_chars_iff n, canonical, read_text n,
      fun t canonicalText accepted => ?_⟩
    · exact absurd (canonical.isDigit_or_minus member) (by decide)
    · exact absurd (canonical.isDigit_or_minus member) (by decide)
    · rw [← String.toList_inj, toList_text]
      exact canonicalText.eq_chars (read_eq_ok_iff.mp accepted)
  · intro s t m n _ _
    constructor
    · exact congrArg text
    · intro same
      exact Except.ok.inj ((read_text m).symm.trans (same ▸ read_text n))

/-- A number below zero with zeros and underscores that are not written. -/
theorem text_is_canonical_spaced :
    read "-00_70" = .ok (-70) ∧ read "-7_0_" = .ok (-70) ∧ Canonical (text (-70)).toList ∧
      '_' ∉ (text (-70)).toList ∧ '-' ∈ (text (-70)).toList ∧ read (text (-70)) = .ok (-70) := by
  have first : read "-00_70" = .ok (-70) := by rfl
  have second : read "-7_0_" = .ok (-70) := by rfl
  obtain ⟨_, _, written, _⟩ := text_is_canonical
  obtain ⟨_, noUnderscore, sign, canonical, again, _⟩ := written "-00_70" (-70) first
  exact ⟨first, second, canonical, noUnderscore, sign.mpr (by decide), again⟩

end Decimal

end Gridwise
