import Flowscript.Json.Value
import Mathlib.Data.List.Basic
import Mathlib.Data.List.Induction

/-!
# Numerals that are written and read

A numeral is read back as it was written, provided that it has digits in all the right places and
what follows it cannot go on a numeral.

* `exists_noughts` says that digits are those of a number with noughts in front of them, and
  `Text.readDigits_eq_ok_iff` which digits are read.
* `Numeral.Shaped` is about the digits, `Numeral.padded` about a nought too many in front.
* `Numeral.read?_spelling` is the round trip.
* `Numeral.natural?_ofNat` and `Numeral.shaped_ofBinary64` are about the numerals that are written.
* `Binary64.shortest_digits` says that the shortest digits of a fractional number are not nought where
  noughts are put after them, and `Numeral.padded_ofBinary64` that its text is a numeral.
-/

set_option autoImplicit false

namespace Flowscript

/-! ## Digits -/

theorem takeWhile_digits {p : Char → Bool} {digits rest : List Char} (hd : ∀ c ∈ digits, p c = true)
    (hr : ∀ c ∈ rest.head?, p c = false) :
    (digits ++ rest).takeWhile p = digits ∧ (digits ++ rest).dropWhile p = rest := by
  rw [List.takeWhile_append_of_pos hd, List.dropWhile_append_of_pos hd]
  cases rest with
  | nil => simp
  | cons c cs => simp [hr c rfl]

theorem isDigit_toDigits {n : Nat} : ∀ c ∈ Nat.toDigits 10 n, c.isDigit = true :=
  fun _ hc => Nat.isDigit_of_mem_toDigits (by decide) (by decide) hc

/-- The digits of a number do not start with a nought, but for those of nought. -/
theorem head?_toDigits {n : Nat} (h : 0 < n) : (Nat.toDigits 10 n).head? ≠ some '0' := by
  induction n using Nat.strongRecOn with
  | _ n ih =>
    rcases Nat.lt_or_ge n 10 with hn | hn
    · rw [Nat.toDigits_of_lt_base hn]
      simpa using Nat.pos_iff_ne_zero.1 h
    · rw [Nat.toDigits_of_base_le (by decide) hn, List.head?_append_of_ne_nil _ Nat.toDigits_ne_nil]
      exact ih (n / 10) (by omega) (by omega)

theorem toNat_of_isDigit {c : Char} (h : c.isDigit = true) : 48 ≤ c.toNat ∧ c.toNat ≤ 57 := by
  rw [Char.isDigit, Bool.and_eq_true, decide_eq_true_eq, decide_eq_true_eq] at h
  exact h

theorem digitValue_lt {c : Char} (h : c.isDigit = true) : Text.digitValue c < 10 := by
  have hc := toNat_of_isDigit h
  have hvalue : Text.digitValue c = c.toNat - 48 := rfl
  omega

/-- A digit is the text of its value. -/
theorem toDigits_digitValue {c : Char} (h : c.isDigit = true) :
    Nat.toDigits 10 (Text.digitValue c) = [c] := by
  have hc := toNat_of_isDigit h
  have hchar : (Text.digitValue c).digitChar = c := by
    refine Char.toNat_inj.1 ?_
    rw [Nat.toNat_digitChar_of_lt_ten (digitValue_lt h)]
    have hvalue : Text.digitValue c = c.toNat - 48 := rfl
    omega
  rw [Nat.toDigits_of_lt_base (digitValue_lt h), hchar]

/-- Digits are those of their value, with noughts in front. -/
theorem exists_noughts {digits : List Char} (hne : digits ≠ [])
    (hd : ∀ c ∈ digits, c.isDigit = true) :
    ∃ noughts, digits =
      List.replicate noughts '0' ++ Nat.toDigits 10 (Nat.ofDigitChars 10 digits 0) := by
  induction digits using List.reverseRecOn with
  | nil => exact absurd rfl hne
  | append_singleton front c ih =>
    have hc := toDigits_digitValue (hd c (by simp))
    have hvalue : Nat.ofDigitChars 10 (front ++ [c]) 0 =
        10 * Nat.ofDigitChars 10 front 0 + Text.digitValue c := by
      rw [Nat.ofDigitChars_append]
      rfl
    rw [hvalue]
    by_cases hfront : front = []
    · subst hfront
      exact ⟨0, by simpa using hc.symm⟩
    · obtain ⟨noughts, hsplit⟩ := ih hfront fun d hmem => hd d (List.mem_append_left _ hmem)
      rcases Nat.eq_zero_or_pos (Nat.ofDigitChars 10 front 0) with hzero | hpos
      · -- all digits before the last one are noughts
        rw [hzero, Nat.toDigits_zero] at hsplit
        refine ⟨noughts + 1, ?_⟩
        rw [hzero, Nat.mul_zero, Nat.zero_add, hc, List.replicate_succ', ← hsplit]
      · refine ⟨noughts, ?_⟩
        have hlt := digitValue_lt (hd c (by simp))
        rw [← Nat.toDigits_append_toDigits (by decide) hpos hlt, hc, ← List.append_assoc, ← hsplit]

namespace Text

theorem readDigits_eq {value : Nat} {digits : List Char} (hd : ∀ c ∈ digits, c.isDigit = true)
    (hlt : digits.foldl (fun n c => 10 * n + digitValue c) value < word64Limit) :
    readDigits value digits = .ok (digits.foldl (fun n c => 10 * n + digitValue c) value) := by
  induction digits generalizing value with
  | nil => rfl
  | cons c cs ih =>
    have hmono : ∀ (ds : List Char) (v : Nat),
        v ≤ ds.foldl (fun n c => 10 * n + digitValue c) v := by
      intro ds
      induction ds with
      | nil => exact fun v => Nat.le_refl v
      | cons d ds ihd =>
        intro v
        exact Nat.le_trans (by omega) (ihd (10 * v + digitValue d))
    rw [readDigits, if_pos (hd c List.mem_cons_self)]
    have hv : 10 * value + digitValue c < word64Limit := Nat.lt_of_le_of_lt (hmono cs _) hlt
    rw [if_pos hv]
    exact ih (fun d hmem => hd d (List.mem_cons_of_mem _ hmem)) hlt

/-- The digits of a number below the limit are read back. -/
theorem readDigits_toDigits {n : Nat} (h : n < word64Limit) :
    readDigits 0 (Nat.toDigits 10 n) = .ok n := by
  have hvalue : (Nat.toDigits 10 n).foldl (fun n c => 10 * n + digitValue c) 0 = n := by
    have := Nat.ofDigitChars_ten_toDigits (n := n)
    exact this
  rw [readDigits_eq isDigit_toDigits (by rw [hvalue]; exact h), hvalue]

/-- What is read is the value of the digits, and it is below the limit. -/
theorem eq_of_readDigits {digits : List Char} : ∀ {value n : Nat}, value < word64Limit →
    readDigits value digits = .ok n →
      n = digits.foldl (fun n c => 10 * n + digitValue c) value ∧ n < word64Limit := by
  induction digits with
  | nil =>
    intro value n hlt h
    cases h
    exact ⟨rfl, hlt⟩
  | cons c cs ih =>
    intro value n _ h
    rw [readDigits] at h
    split at h
    · simp only at h
      split at h
      · rename_i hlt
        exact ih hlt h
      · cases h
    · cases h

theorem isDigit_of_readDigits {digits : List Char} : ∀ {value n : Nat},
    readDigits value digits = .ok n → ∀ d ∈ digits, d.isDigit = true := by
  induction digits with
  | nil =>
    intro value n _ d hd
    cases hd
  | cons c cs ih =>
    intro value n h d hd
    rw [readDigits] at h
    split at h
    · rename_i hc
      simp only at h
      split at h
      · rcases List.mem_cons.1 hd with rfl | hd
        · exact hc
        · exact ih h d hd
      · cases h
    · cases h

theorem readDigits_eq_ok_iff {digits : List Char} {n : Nat} :
    readDigits 0 digits = .ok n ↔
      (∀ d ∈ digits, d.isDigit = true) ∧ Nat.ofDigitChars 10 digits 0 = n ∧ n < word64Limit := by
  constructor
  · intro h
    obtain ⟨hvalue, hlt⟩ := eq_of_readDigits (by decide) h
    exact ⟨isDigit_of_readDigits h, hvalue.symm, hlt⟩
  · rintro ⟨hdigits, rfl, hlt⟩
    exact readDigits_eq hdigits hlt

end Text

namespace Json

namespace Numeral

/-! ## The shape of numerals -/

/-- Every part that a numeral has consists of digits, and the part that it must have is there. -/
structure Shaped (n : Numeral) : Prop where
  whole_ne_nil : n.whole ≠ []
  whole : ∀ c ∈ n.whole, c.isDigit = true
  fraction : ∀ c ∈ n.fraction, c.isDigit = true
  exponent : ∀ e ∈ n.exponent, e.2 ≠ [] ∧ ∀ c ∈ e.2, c.isDigit = true

/-- Whether a numeral starts with a nought too many. -/
def padded (n : Numeral) : Bool := n.whole.head? == some '0' && 1 < n.whole.length

/-- What may follow a numeral. -/
def Stops (rest : List Char) : Prop :=
  ∀ c ∈ rest.head?, c.isDigit = false ∧ c ≠ '.' ∧ c ≠ 'e' ∧ c ≠ 'E'

/-- The sign of a numeral. -/
def sign (n : Numeral) : List Char := if n.negative then ['-'] else []

/-- The point of a numeral and what is after it. -/
def point (n : Numeral) : List Char := if n.fraction.isEmpty then [] else '.' :: n.fraction

/-- The exponent of a numeral. -/
def power (n : Numeral) : List Char :=
  match n.exponent with
  | none => []
  | some (below, digits) => 'e' :: (if below then '-' else '+') :: digits

theorem toList_spelling (n : Numeral) :
    n.spelling.toList = n.sign ++ (n.whole ++ (n.point ++ n.power)) := by
  obtain ⟨negative, whole, fraction, exponent⟩ := n
  simp only [spelling, sign, point, power, String.toList_append, List.append_assoc]
  congr 1
  · cases negative <;> simp
  congr 1
  · exact String.toList_ofList
  congr 1
  · cases fraction with
    | nil => rfl
    | cons c cs => simp
  · rcases exponent with _ | ⟨below, digits⟩
    · rfl
    · cases below <;> simp

/-! ## Reading what was written -/

theorem head?_power {n : Numeral} {rest : List Char} (hr : Stops rest) :
    ∀ c ∈ (n.power ++ rest).head?, c.isDigit = false ∧ c ≠ '.' := by
  rw [power]
  rcases n.exponent with _ | ⟨below, digits⟩
  · exact fun c hc => ⟨(hr c hc).1, (hr c hc).2.1⟩
  · intro c hc
    cases hc
    decide

theorem head?_point {n : Numeral} {rest : List Char} (hr : Stops rest) :
    ∀ c ∈ (n.point ++ (n.power ++ rest)).head?, c.isDigit = false := by
  rw [point]
  split
  · exact fun c hc => (head?_power hr c hc).1
  · intro c hc
    cases hc
    decide

theorem ne_minus_of_isDigit {c : Char} (h : c.isDigit = true) : c ≠ '-' := by
  rintro rfl
  cases h

theorem takeSign_sign {n : Numeral} (h : n.Shaped) (rest : List Char) :
    takeSign (n.sign ++ (n.whole ++ rest)) = (n.negative, n.whole ++ rest) := by
  rw [sign]
  cases n.negative with
  | true => rfl
  | false =>
    obtain ⟨c, cs, hw⟩ := List.exists_cons_of_ne_nil h.whole_ne_nil
    have hc : c ≠ '-' := ne_minus_of_isDigit (h.whole c (hw ▸ List.mem_cons_self))
    simp [hw, takeSign, hc]

theorem takePoint?_point {n : Numeral} (h : n.Shaped) {rest : List Char} (hr : Stops rest) :
    takePoint? (n.point ++ (n.power ++ rest)) = some (n.fraction, n.power ++ rest) := by
  have hhead := head?_power (n := n) hr
  rw [point]
  cases hf : n.fraction with
  | nil =>
    rcases hp : n.power ++ rest with _ | ⟨c, cs⟩
    · rfl
    · have hc : c ≠ '.' := (hhead c (by rw [hp]; rfl)).2
      simp [takePoint?, hc]
  | cons c cs =>
    have hdigits := takeWhile_digits (hf ▸ h.fraction) fun c hc => (hhead c hc).1
    rw [List.isEmpty_cons, if_neg Bool.false_ne_true, List.cons_append, takePoint?]
    simp only [hdigits.1, hdigits.2, List.isEmpty_cons, if_neg Bool.false_ne_true]

theorem takePower?_power {n : Numeral} (h : n.Shaped) {rest : List Char} (hr : Stops rest) :
    takePower? (n.power ++ rest) = some (n.exponent, rest) := by
  rw [power]
  rcases he : n.exponent with _ | ⟨below, digits⟩
  · rcases rest with _ | ⟨c, cs⟩
    · rfl
    · have hc := hr c rfl
      simp [takePower?, hc.2.2.1, hc.2.2.2]
  · obtain ⟨hne, hd⟩ := h.exponent _ he
    have hdigits := takeWhile_digits hd fun c hc => (hr c hc).1
    have hs : takePowerSign ((if below then '-' else '+') :: (digits ++ rest)) =
        (below, digits ++ rest) := by
      cases below <;> rfl
    simp [takePower?, hs, hdigits.1, hdigits.2, hne]

/-- **A numeral is read back as it was written**, unless it starts with a nought too many. -/
theorem read?_spelling {n : Numeral} (h : n.Shaped) {rest : List Char} (hr : Stops rest) :
    read? (n.spelling.toList ++ rest) = if n.padded then none else some (n, rest) := by
  have hwhole := takeWhile_digits h.whole (head?_point (n := n) hr)
  have hne : n.whole.isEmpty = false := by simpa using h.whole_ne_nil
  rw [toList_spelling, List.append_assoc, List.append_assoc, List.append_assoc, read?,
    takeSign_sign h]
  simp only [hwhole.1, hwhole.2, hne, Bool.false_or, takePoint?_point h hr, Option.bind_eq_bind,
    Option.bind_some, takePower?_power h hr]
  rfl

/-! ## The numerals that are written -/

theorem shaped_ofNat (n : Nat) : (ofNat n).Shaped where
  whole_ne_nil := Nat.toDigits_ne_nil
  whole := isDigit_toDigits
  fraction := by rintro c ⟨⟩
  exponent := by rintro e ⟨⟩

theorem natural?_ofNat {n : Nat} (h : n < Text.word64Limit) : (ofNat n).natural? = some n := by
  have hread := Text.readDigits_toDigits h
  simp [natural?, ofNat, isWhole, hread, Except.toOption]

/-- A natural number is read back as itself or not at all. -/
theorem eq_of_natural?_ofNat {n m : Nat} (h : (ofNat n).natural? = some m) :
    m = n ∧ n < Text.word64Limit := by
  rw [natural?, ofNat] at h
  split at h
  · cases hread : Text.readDigits 0 (Nat.toDigits 10 n) with
    | error e =>
      rw [hread] at h
      cases h
    | ok m' =>
      rw [hread] at h
      obtain rfl : m' = m := Option.some.inj h
      obtain ⟨hvalue, hlt⟩ := Text.eq_of_readDigits (by decide) hread
      obtain rfl : m' = n := hvalue.trans Nat.ofDigitChars_ten_toDigits
      exact ⟨rfl, hlt⟩
  · cases h

/-- A natural number has no nought too many. -/
theorem padded_ofNat (n : Nat) : (ofNat n).padded = false := by
  rcases Nat.eq_zero_or_pos n with rfl | hn
  · rfl
  · have hhead : ((Nat.toDigits 10 n).head? == some '0') = false := by
      simpa using head?_toDigits hn
    rw [padded, ofNat, hhead, Bool.false_and]

theorem isDigit_zero_append {k : Nat} {digits : List Char}
    (h : ∀ c ∈ digits, c.isDigit = true) :
    (∀ c ∈ digits ++ List.replicate k '0', c.isDigit = true) ∧
      ∀ c ∈ List.replicate k '0' ++ digits, c.isDigit = true := by
  have hzero : ∀ c ∈ List.replicate k '0', c.isDigit = true := by
    intro c hc
    rw [(List.mem_replicate.1 hc).2]
    decide
  constructor
  · intro c hc
    rcases List.mem_append.1 hc with hc | hc
    · exact h c hc
    · exact hzero c hc
  · intro c hc
    rcases List.mem_append.1 hc with hc | hc
    · exact hzero c hc
    · exact h c hc

theorem shaped_ofBinary64 (x : Binary64) : (ofBinary64 x).Shaped := by
  rw [ofBinary64]
  have hd := isDigit_toDigits (n := x.shortest.digits)
  have hne := Nat.toDigits_ne_nil (n := x.shortest.digits) (b := 10)
  have htake : ∀ k, (Nat.toDigits 10 x.shortest.digits).take (k + 1) ≠ [] := by
    intro k
    rw [Ne, List.take_eq_nil_iff]
    simp [hne]
  split
  · split
    · exact ⟨by simp [hne], (isDigit_zero_append hd).1, by simp, by simp⟩
    · split
      · exact ⟨htake _, fun c hc => hd c (List.mem_of_mem_take hc),
          fun c hc => hd c (List.mem_of_mem_drop hc), by simp⟩
      · exact ⟨by simp, by simp, (isDigit_zero_append hd).2, by simp⟩
  · refine ⟨htake 0, fun c hc => hd c (List.mem_of_mem_take hc),
      fun c hc => hd c (List.mem_of_mem_drop hc), ?_⟩
    rintro e ⟨⟩
    exact ⟨Nat.toDigits_ne_nil, isDigit_toDigits⟩

end Numeral

end Json

/-! ## Shortest digits -/

namespace Binary64

/-- A quotient of one or more is not rounded to nought. -/
theorem roundDiv_ne_zero {num den : Nat} (hden : 0 < den) (h : den ≤ num) : roundDiv num den ≠ 0 := by
  have hq : 0 < num / den := Nat.div_pos h hden
  rw [roundDiv]
  split <;> omega

theorem powerBelow_spec (num den : Nat) :
    ∀ bound, powerBelow num den bound ≠ 0 → 10 ^ powerBelow num den bound * den ≤ num := by
  intro bound
  induction bound with
  | zero => exact fun h => absurd rfl h
  | succ k ih =>
    rw [powerBelow]
    split
    · rename_i hle
      exact fun _ => hle
    · exact ih

namespace Interval

variable {i : Interval}

/-- A hit is not nought. -/
theorem hit?_digits_ne_zero {exponent : Int} {d : Decimal} (h : i.hit? exponent = some d) :
    d.digits ≠ 0 := by
  rw [hit?] at h
  simp only at h
  split at h
  · cases h
  · rename_i hbelow _
    cases h
    simpa using (Bool.and_eq_true_iff.1 hbelow).2
  · cases h
    exact Nat.succ_ne_zero _
  · rename_i hbelow _
    cases h
    have hne : (i.over exponent).1 / (i.over exponent).2 ≠ 0 := by
      simpa using (Bool.and_eq_true_iff.1 hbelow).2
    obtain ⟨hden, hle⟩ := (Nat.div_ne_zero_iff).1 hne
    exact roundDiv_ne_zero (Nat.pos_of_ne_zero hden) hle

/-- A number whose first digit is far in front of the point is at least the power of ten sixteen
places below that digit. -/
theorem le_value_of_lt_leadingExponent (h : 16 < i.leadingExponent) :
    i.denominator * 10 ^ (i.leadingExponent - 16).toNat ≤ i.value := by
  rw [leadingExponent] at h ⊢
  split at h
  · rename_i hle
    rw [if_pos hle]
    have hspec := powerBelow_spec i.value i.denominator 308 (by omega)
    have hplaces : ((powerBelow i.value i.denominator 308 : Int) - 16).toNat ≤
        powerBelow i.value i.denominator 308 := by omega
    calc i.denominator * 10 ^ ((powerBelow i.value i.denominator 308 : Int) - 16).toNat
        ≤ i.denominator * 10 ^ powerBelow i.value i.denominator 308 :=
          Nat.mul_le_mul_left _ (Nat.pow_le_pow_right (by decide) hplaces)
      _ ≤ i.value := by rw [Nat.mul_comm]; exact hspec
  · simp only at h
    split at h <;> omega

theorem firstHit_digits (hden : 0 < i.denominator) (steps : Nat) : ∀ digits,
    (i.firstHit i.leadingExponent digits steps).digits ≠ 0 ∨
      (i.firstHit i.leadingExponent digits steps).exponent ≤ 0 := by
  induction steps with
  | zero =>
    intro digits
    rw [firstHit]
    rcases Int.lt_or_le 16 i.leadingExponent with hfar | hnear
    · have hle := le_value_of_lt_leadingExponent hfar
      left
      rw [Interval.over, if_pos (by omega)]
      exact roundDiv_ne_zero (Nat.mul_pos hden (Nat.pow_pos (by decide))) hle
    · right
      simp only
      omega
  | succ steps ih =>
    intro digits
    rw [firstHit]
    split
    · rename_i d hhit
      exact .inl (hit?_digits_ne_zero hhit)
    · exact ih (digits + 1)

end Interval

theorem trimZeros_digits (steps : Nat) : ∀ d : Decimal, d.digits ≠ 0 ∨ d.exponent ≤ 0 →
    (d.trimZeros steps).digits ≠ 0 ∨ (d.trimZeros steps).exponent ≤ 0 := by
  induction steps with
  | zero => exact fun d h => h
  | succ steps ih =>
    intro d h
    rw [Decimal.trimZeros]
    split
    · rename_i htrim
      refine ih _ (.inl ?_)
      simp only [Bool.and_eq_true, decide_eq_true_eq, bne_iff_ne] at htrim
      simp only
      omega
    · exact h

/-- **Noughts are only put after digits that are not nought.** -/
theorem shortest_digits (x : Binary64) : x.shortest.digits ≠ 0 ∨ x.shortest.exponent ≤ 0 := by
  rw [shortest]
  split
  · exact .inr (Int.le_refl 0)
  · refine trimZeros_digits 17 _ (Interval.firstHit_digits ?_ 16 1)
    rw [halfGaps]
    simp only
    split
    · exact Nat.succ_pos 3
    · exact Nat.mul_pos (by decide) (Nat.pow_pos (by decide))

end Binary64

namespace Json.Numeral

theorem padded_eq_false_of_length {n : Numeral} (h : n.whole.length ≤ 1) : n.padded = false := by
  have hlength : decide (1 < n.whole.length) = false := by simpa using h
  rw [padded, hlength, Bool.and_false]

theorem padded_eq_false_of_head {n : Numeral} (h : n.whole.head? ≠ some '0') : n.padded = false := by
  have hhead : (n.whole.head? == some '0') = false := by simpa using h
  rw [padded, hhead, Bool.false_and]

/-- **No fractional number is written with a nought too many.** -/
theorem padded_ofBinary64 (x : Binary64) : (ofBinary64 x).padded = false := by
  have hshort : x.shortest.digits = 0 → (Nat.toDigits 10 x.shortest.digits).length = 1 := by
    intro hzero
    rw [hzero]
    rfl
  rw [ofBinary64]
  split
  · split
    · rename_i hexponent
      by_cases hzero : x.shortest.digits = 0
      · have hnone : x.shortest.exponent.toNat = 0 := by
          have := x.shortest_digits.resolve_left (absurd hzero)
          omega
        refine padded_eq_false_of_length ?_
        simp only [hnone, List.replicate_zero, List.append_nil, hshort hzero, Nat.le_refl]
      · refine padded_eq_false_of_head ?_
        rw [List.head?_append_of_ne_nil _ Nat.toDigits_ne_nil]
        exact head?_toDigits (Nat.pos_of_ne_zero hzero)
    · split
      · by_cases hzero : x.shortest.digits = 0
        · refine padded_eq_false_of_length ?_
          rw [List.length_take, hshort hzero]
          exact Nat.min_le_right _ _
        · refine padded_eq_false_of_head ?_
          rw [List.head?_take, if_neg (Nat.succ_ne_zero _)]
          exact head?_toDigits (Nat.pos_of_ne_zero hzero)
      · exact padded_eq_false_of_length (Nat.le_refl 1)
  · refine padded_eq_false_of_length ?_
    rw [List.length_take]
    exact Nat.min_le_left _ _

end Json.Numeral

end Flowscript
