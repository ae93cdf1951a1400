import DeadSymbols.Json.Parser
import DeadSymbols.Json.Printer
import DeadSymbols.Text.Natural

/-!
# Decimal digits

The digits of a natural number are read back as the number.

* `Text.natural_toDigits`: as the length in a header.
* `Json.takeSignificand_toDigits`: as the significand of a number in JSON.
* `Json.readNumber_integer`: a whole number of 64 bits in JSON is read back.
-/

namespace DeadSymbols

theorem isDigit_toDigits {n : Nat} {c : Char} (h : c ∈ Nat.toDigits 10 n) : c.isDigit = true :=
  Nat.isDigit_of_mem_toDigits (by decide) (by decide) h

/-- The value of digits that follow a number. -/
theorem foldl_digits (ds : List Char) (n : Nat) :
    ds.foldl (fun n d => n * 10 + (d.toNat - 48)) n = Nat.ofDigitChars 10 ds n := by
  induction ds generalizing n with
  | nil => rfl
  | cons d ds ih =>
    rw [List.foldl_cons, ih, Nat.ofDigitChars_cons, Nat.mul_comm]
    rfl

/-- A number that is not zero does not start with a zero. -/
theorem head_toDigits {n : Nat} (hn : n ≠ 0) : (Nat.toDigits 10 n).head? ≠ some '0' := by
  induction n using Nat.strongRecOn with
  | ind n ih =>
    rw [Nat.toDigits_eq_if (by decide)]
    split
    -- the one digit of a small number is the number
    · rename_i hlt
      intro h
      have hzero : n.digitChar = '0' := Option.some.inj h
      have hvalue := Nat.toNat_digitChar_sub_48_of_lt_ten hlt
      rw [hzero] at hvalue
      exact hn hvalue.symm
    · have hlt : n / 10 < n := by omega
      have hpos : n / 10 ≠ 0 := by omega
      rw [List.head?_append, Option.or_of_isSome]
      · exact ih (n / 10) hlt hpos
      · simp

/-- What is left of digits has a value that is at least the number in front of them. -/
theorem le_ofDigitChars (ds : List Char) (n : Nat) : n ≤ Nat.ofDigitChars 10 ds n := by
  induction ds generalizing n with
  | nil => exact Nat.le_refl n
  | cons d ds ih =>
    rw [Nat.ofDigitChars_cons]
    have := ih (10 * n + (d.toNat - '0'.toNat))
    omega

namespace Text

/-- The digits of a number up to the limit are read back. -/
theorem natural_toDigits {n limit : Nat} (h : n ≤ limit) :
    natural? limit (String.ofList (Nat.toDigits 10 n)) = some n := by
  have hdigits : ∀ c ∈ Nat.toDigits 10 n, c.isDigit = true := fun c hc => isDigit_toDigits hc
  have hvalue : decimalValue (Nat.toDigits 10 n) = n := by
    rw [decimalValue, foldl_digits, Nat.ofDigitChars_ten_toDigits]
  have hall : (Nat.toDigits 10 n).all Char.isDigit = true := List.all_eq_true.2 hdigits
  unfold natural?
  rw [String.toList_ofList]
  cases hds : Nat.toDigits 10 n with
  | nil => exact absurd hds Nat.toDigits_ne_nil
  | cons d ds =>
    have hd : d ≠ '+' := by
      rintro rfl
      exact absurd (hdigits '+' (by rw [hds]; exact List.mem_cons_self)) (by decide)
    rw [hds] at hvalue hall
    split
    · rename_i rest heq
      exact absurd (List.cons.inj heq).1 hd
    · simp only [List.isEmpty_cons, hall, hvalue, Bool.not_true, Bool.or_self, Bool.false_eq_true,
        if_false, if_pos h]

end Text

namespace Json

/-- A text that does not go on with a number: with no digit, no point and no exponent. -/
def EndsNumber (rest : List Char) : Prop :=
  ∀ c, rest.head? = some c → c.isDigit = false ∧ c ≠ '.' ∧ c ≠ 'e' ∧ c ≠ 'E'

theorem EndsNumber.nil : EndsNumber [] := fun _ h => by cases h

theorem EndsNumber.cons {c : Char} {rest : List Char}
    (h : c.isDigit = false ∧ c ≠ '.' ∧ c ≠ 'e' ∧ c ≠ 'E') : EndsNumber (c :: rest) := by
  intro d hd
  cases hd
  exact h

theorem spanDigits_append {ds rest : List Char} (hds : ∀ c ∈ ds, c.isDigit = true)
    (hrest : ∀ c, rest.head? = some c → c.isDigit = false) :
    spanDigits (ds ++ rest) = (ds, rest) := by
  have hnone : rest.takeWhile Char.isDigit = [] ∧ rest.dropWhile Char.isDigit = rest := by
    cases rest with
    | nil => exact ⟨rfl, rfl⟩
    | cons c rest => simp [hrest c rfl]
  rw [spanDigits, List.takeWhile_append_of_pos hds, List.dropWhile_append_of_pos hds, hnone.1,
    hnone.2, List.append_nil]

/-- Digits whose value fits into 64 bits are all taken. -/
theorem takeSignificand_eq (ds : List Char) (n : Nat)
    (h : Nat.ofDigitChars 10 ds n ≤ maxUInt64) :
    takeSignificand n ds = (Nat.ofDigitChars 10 ds n, 0) := by
  induction ds generalizing n with
  | nil => rfl
  | cons d ds ih =>
    have hstep : n * 10 + digitValue d = 10 * n + (d.toNat - '0'.toNat) := by
      rw [Nat.mul_comm]; rfl
    rw [Nat.ofDigitChars_cons] at h ⊢
    have hfits : n * 10 + digitValue d ≤ maxUInt64 := by
      rw [hstep]
      exact Nat.le_trans (le_ofDigitChars ds _) h
    rw [takeSignificand, if_pos hfits, hstep, ih _ h]

theorem takeSignificand_toDigits {n : Nat} (h : n ≤ maxUInt64) :
    takeSignificand 0 (Nat.toDigits 10 n) = (n, 0) := by
  have hvalue : Nat.ofDigitChars 10 (Nat.toDigits 10 n) 0 = n := Nat.ofDigitChars_ten_toDigits
  rw [takeSignificand_eq _ _ (by rw [hvalue]; exact h), hvalue]

/-- The whole numbers that are read exactly. -/
def FitsInteger (n : Int) : Prop := -0x8000000000000000 ≤ n ∧ n ≤ maxUInt64

/-- Digits with or without a minus sign in front are read as a number without a fraction. -/
theorem readNumeral_digits (negative : Bool) {d : Char} {ds rest : List Char}
    (hds : ∀ c ∈ d :: ds, c.isDigit = true) (hzero : d = '0' → ds = []) (hrest : EndsNumber rest) :
    readNumeral? ((if negative then ['-'] else []) ++ (d :: ds ++ rest)) =
      some (⟨negative, d :: ds, none, none⟩, rest) := by
  have hd : d ≠ '-' := by
    rintro rfl
    exact absurd (hds '-' List.mem_cons_self) (by decide)
  have hspan : spanDigits (d :: ds ++ rest) = (d :: ds, rest) :=
    spanDigits_append hds fun c hc => (hrest c hc).1
  have hlead : ((d :: ds).head? == some '0' && (d :: ds).length != 1) = false := by
    by_cases h : d = '0'
    · simp [hzero h]
    · simp [h]
  have hend : ∀ c after, rest = c :: after → c ≠ '.' ∧ c ≠ 'e' ∧ c ≠ 'E' := by
    rintro c after rfl
    exact (hrest c rfl).2
  -- with or without a sign, what follows it is read in the same way
  unfold readNumeral?
  cases negative
  case' true => simp only [if_true, List.singleton_append]
  case' false =>
    simp only [Bool.false_eq_true, if_false, List.nil_append, List.cons_append]
    split
    case h_1 heq => exact absurd (List.cons.inj heq).1 hd
    rw [← List.cons_append]
  all_goals
    rw [hspan]
    simp only [hlead, List.isEmpty_cons, Bool.or_self, Bool.false_eq_true, if_false]
    split
    · exact absurd rfl (hend _ _ rfl).1
    · simp only [bind, Option.bind]
      split
      · exact absurd rfl (hend _ _ rfl).2.1
      · exact absurd rfl (hend _ _ rfl).2.2
      · rfl

/-- The digits of a natural number are read as a numeral without a fraction. -/
theorem readNumeral_toDigits (negative : Bool) (n : Nat) {rest : List Char}
    (hrest : EndsNumber rest) :
    readNumeral? ((if negative then ['-'] else []) ++ (Nat.toDigits 10 n ++ rest)) =
      some (⟨negative, Nat.toDigits 10 n, none, none⟩, rest) := by
  have hdigits : ∀ c ∈ Nat.toDigits 10 n, c.isDigit = true := fun c hc => isDigit_toDigits hc
  have hhead : n ≠ 0 → (Nat.toDigits 10 n).head? ≠ some '0' := head_toDigits
  cases hds : Nat.toDigits 10 n with
  | nil => exact absurd hds Nat.toDigits_ne_nil
  | cons d ds =>
    rw [hds] at hdigits hhead
    refine readNumeral_digits negative hdigits (fun hd => ?_) hrest
    by_cases hn : n = 0
    · rw [hn, Nat.toDigits_zero] at hds
      exact (List.cons.inj hds).2.symm
    · exact absurd (congrArg some hd) (hhead hn)

/-- **A whole number is read back** from its digits, if the text does not go on with a number. -/
theorem readNumber_integer {n : Int} (hn : FitsInteger n) {rest : List Char}
    (hrest : EndsNumber rest) : readNumber? (integerChars n ++ rest) = some (.integer n, rest) := by
  obtain ⟨hlow, hhigh⟩ := hn
  cases n with
  | ofNat m =>
    have hfits : m ≤ maxUInt64 := Int.ofNat_le.1 hhigh
    have hread := readNumeral_toDigits false m hrest
    simp only [Bool.false_eq_true, if_false, List.nil_append] at hread
    have hvalue : (Numeral.mk false (Nat.toDigits 10 m) none none).value? = some (.integer m) := by
      simp only [Numeral.value?, takeSignificand_toDigits hfits]
      rfl
    simp only [readNumber?, integerChars, hread, bind, Option.bind, hvalue]
    rfl
  | negSucc m =>
    -- the significand of a negative number is one more than `m`
    have hfits : m + 1 ≤ 0x8000000000000000 := by omega
    have hread := readNumeral_toDigits true (m + 1) hrest
    simp only [if_true, List.singleton_append] at hread
    have hvalue : (Numeral.mk true (Nat.toDigits 10 (m + 1)) none none).value? =
        some (.integer (Int.negSucc m)) := by
      have hmax : m + 1 ≤ maxUInt64 := Nat.le_trans hfits (by decide)
      have hrange : (decide (0 < m + 1) && decide (m + 1 ≤ 0x8000000000000000)) = true := by
        rw [Bool.and_eq_true, decide_eq_true_iff, decide_eq_true_iff]
        omega
      simp only [Numeral.value?, takeSignificand_toDigits hmax, beq_self_eq_true, hrange, if_true]
      rfl
    simp only [readNumber?, integerChars, List.cons_append, hread, bind, Option.bind, hvalue]

end Json

end DeadSymbols
