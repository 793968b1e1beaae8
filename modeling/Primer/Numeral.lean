/-!
# Decimal numerals and 32-bit integers

Integer values of the language are signed 32-bit words.  This module reads them
from text, writes them as text, and tells which exact integers fit.

Main definitions:

- `Numeral.read?` reads an optional sign followed by at least one digit, and
  accepts the numeral only if its value fits.
- `Numeral.word?` keeps an exact integer that fits a 32-bit word.
- `Numeral.ofNat` and `Numeral.ofInt` write a number in decimal.

Main results:

- Theorem `word?_eq_some_iff`: a word is what `word?` returns exactly when the
  integer is its value.
- Theorem `word?_eq_none_iff`: an integer is refused exactly when it lies
  outside the signed 32-bit range.
- Theorem `value_digits`: the digits of a number read back as that number.
- Theorems `read?_ofNat` and `read?_ofInt`: a written number is read back if it fits,
  and refused if it does not.
-/

namespace Primer
namespace Numeral

/-! ## Reading -/

/-- The number a single decimal digit stands for. -/
def digitValue (c : Char) : Nat :=
  c.toNat - '0'.toNat

/-- The number a run of decimal digits stands for, most significant first. -/
def value (ds : List Char) : Nat :=
  ds.foldl (fun v d => 10 * v + digitValue d) 0

/-- Read an unsigned numeral: one or more ASCII digits and nothing else. -/
def natural? (cs : List Char) : Option Nat :=
  if cs ≠ [] ∧ cs.all Char.isDigit then some (value cs) else none

/-- Read a numeral with at most one sign in front of its digits. -/
def integer? : List Char → Option Int
  | '-' :: ds => (natural? ds).map fun n => -(n : Int)
  | '+' :: ds => (natural? ds).map fun n => (n : Int)
  | ds => (natural? ds).map fun n => (n : Int)

/-! ## The signed 32-bit range -/

/-- An exact integer fits when it lies between `-2 ^ 31` and `2 ^ 31 - 1`. -/
def Fits (n : Int) : Prop :=
  -2147483648 ≤ n ∧ n ≤ 2147483647

instance (n : Int) : Decidable (Fits n) :=
  inferInstanceAs (Decidable (_ ∧ _))

/-- The word of value `n`, if `n` fits. -/
def word? (n : Int) : Option Int32 :=
  if Fits n then some (Int32.ofInt n) else none

/-- The 32-bit integer that a text denotes, if it denotes one. -/
def read? (text : String) : Option Int32 :=
  (integer? text.toList).bind word?

/-- Every word has a value that fits. -/
theorem fits_toInt (w : Int32) : Fits w.toInt := by
  have hlo := w.le_toInt
  have hhi := w.toInt_lt
  unfold Fits
  omega

/-- An integer in the range is kept by a word of 32 bits. -/
theorem toInt_ofInt {n : Int} (h : Fits n) : (Int32.ofInt n).toInt = n := by
  obtain ⟨hlo, hhi⟩ := h
  exact Int32.toInt_ofInt_of_le (by omega) (by omega)

/-- A word is what `word?` returns exactly when the integer is its value. -/
theorem word?_eq_some_iff {n : Int} {w : Int32} : word? n = some w ↔ w.toInt = n := by
  constructor
  · intro h
    unfold word? at h
    split at h
    next hfit =>
      cases h
      exact toInt_ofInt hfit
    next => cases h
  · rintro rfl
    have hfit := fits_toInt w
    simp [word?, hfit]

/-- The value of a word reads back as that word. -/
@[simp]
theorem word?_toInt (w : Int32) : word? w.toInt = some w :=
  word?_eq_some_iff.2 rfl

/-- An integer is refused exactly when it does not fit. -/
theorem word?_eq_none_iff {n : Int} : word? n = none ↔ ¬ Fits n := by
  unfold word?
  split <;> simp_all

/-! ## Writing -/

/-- The character of one decimal digit. -/
def digitChar (d : Nat) : Char :=
  Char.ofNat ('0'.toNat + d)

/-- Write the decimal digits of `n` in front of `rest`. -/
def digitsOnto (n : Nat) (rest : List Char) : List Char :=
  if n < 10 then digitChar n :: rest
  else digitsOnto (n / 10) (digitChar (n % 10) :: rest)

/-- The decimal digits of `n`, most significant first, without leading zeros. -/
def digits (n : Nat) : List Char :=
  digitsOnto n []

/-- A natural number in decimal. -/
def ofNat (n : Nat) : String :=
  String.ofList (digits n)

/-- An integer in decimal, with a minus sign in front if it is negative. -/
def ofInt (n : Int) : String :=
  if n < 0 then "-" ++ ofNat n.natAbs else ofNat n.natAbs

/-- The digits are put in front of any text behind them. -/
theorem digitsOnto_append (n : Nat) (front back : List Char) :
    digitsOnto n (front ++ back) = digitsOnto n front ++ back := by
  induction n using Nat.strongRecOn generalizing front with
  | ind n ih =>
      rw [digitsOnto.eq_def n (front ++ back), digitsOnto.eq_def n front]
      split
      · rfl
      · exact ih (n / 10) (by omega) (digitChar (n % 10) :: front)

/-- A digit written and read has its value again. -/
theorem digitValue_digitChar {d : Nat} (h : d < 10) : digitValue (digitChar d) = d := by
  have hall : ∀ k : Fin 10, digitValue (digitChar k) = k := by decide
  exact hall ⟨d, h⟩

/-- What is written for a value below ten is a decimal digit. -/
theorem isDigit_digitChar {d : Nat} (h : d < 10) : (digitChar d).isDigit = true := by
  have hall : ∀ k : Fin 10, (digitChar k).isDigit = true := by decide
  exact hall ⟨d, h⟩

/-- One more digit multiplies the value by ten and adds its own. -/
theorem value_append_singleton (ds : List Char) (d : Char) :
    value (ds ++ [d]) = 10 * value ds + digitValue d := by
  simp [value]

/-- A value below ten is written with one digit. -/
theorem digits_of_lt {n : Nat} (h : n < 10) : digits n = [digitChar n] := by
  rw [digits, digitsOnto, if_pos h]

/-- The last digit of a larger value is its remainder by ten. -/
theorem digits_of_ge {n : Nat} (h : 10 ≤ n) :
    digits n = digits (n / 10) ++ [digitChar (n % 10)] := by
  rw [digits, digitsOnto, if_neg (by omega)]
  exact digitsOnto_append (n / 10) [] [digitChar (n % 10)]

/-- The digits of a number read back as that number. -/
@[simp]
theorem value_digits (n : Nat) : value (digits n) = n := by
  induction n using Nat.strongRecOn with
  | ind n ih =>
      by_cases h : n < 10
      · rw [digits_of_lt h]
        simp [value, digitValue_digitChar h]
      · rw [digits_of_ge (by omega), value_append_singleton, ih (n / 10) (by omega),
          digitValue_digitChar (by omega)]
        omega

/-- A written number consists of ASCII digits. -/
theorem isDigit_of_mem_digits {n : Nat} {c : Char} (h : c ∈ digits n) : c.isDigit = true := by
  induction n using Nat.strongRecOn with
  | ind n ih =>
      by_cases hn : n < 10
      · rw [digits_of_lt hn, List.mem_singleton] at h
        exact h ▸ isDigit_digitChar hn
      · rw [digits_of_ge (by omega), List.mem_append, List.mem_singleton] at h
        rcases h with h | h
        · exact ih (n / 10) (by omega) h
        · exact h ▸ isDigit_digitChar (by omega)

/-- A written number has at least one digit. -/
theorem digits_ne_nil (n : Nat) : digits n ≠ [] := by
  by_cases h : n < 10
  · simp [digits_of_lt h]
  · simp [digits_of_ge (n := n) (by omega)]

/-- A written number is accepted as an unsigned numeral. -/
@[simp]
theorem natural?_digits (n : Nat) : natural? (digits n) = some n := by
  have hall : (digits n).all Char.isDigit = true :=
    List.all_eq_true.2 fun _ h => isDigit_of_mem_digits h
  simp [natural?, digits_ne_nil, hall]

/-- A text that starts with a digit has no sign to read. -/
theorem integer?_of_isDigit {cs : List Char} (hne : cs ≠ [])
    (hdigits : ∀ c ∈ cs, c.isDigit = true) :
    integer? cs = (natural? cs).map fun n => (n : Int) := by
  cases cs with
  | nil => exact absurd rfl hne
  | cons c cs =>
      have hc : c.isDigit = true := hdigits c (by simp)
      unfold integer?
      split
      next heq =>
        cases heq
        exact absurd hc (by decide)
      next heq =>
        cases heq
        exact absurd hc (by decide)
      next => rfl

/-- Digits, with any zeros in front, are read as their value if it fits. -/
theorem read?_of_isDigit {ds : List Char} (hne : ds ≠ []) (hdigits : ∀ c ∈ ds, c.isDigit = true) :
    read? (String.ofList ds) = word? (value ds) := by
  have hall : ds.all Char.isDigit = true := List.all_eq_true.2 hdigits
  rw [read?, String.toList_ofList, integer?_of_isDigit hne hdigits, natural?, if_pos ⟨hne, hall⟩]
  rfl

/-- A written number is read back if it fits, and refused if it does not. -/
theorem read?_ofNat (n : Nat) : read? (ofNat n) = word? n := by
  rw [ofNat, read?_of_isDigit (digits_ne_nil n) fun _ h => isDigit_of_mem_digits h, value_digits]

/-- The same holds of an integer that is written with its sign. -/
theorem read?_ofInt (n : Int) : read? (ofInt n) = word? n := by
  by_cases hneg : n < 0
  · have htext : (ofInt n).toList = '-' :: digits n.natAbs := by
      simp [ofInt, hneg, ofNat]
    have hvalue : -(n.natAbs : Int) = n := by omega
    have hread : integer? ('-' :: digits n.natAbs) = some (-(n.natAbs : Int)) := by
      rw [integer?, natural?_digits]
      rfl
    rw [read?, htext, hread, hvalue, Option.bind_some]
  · have hvalue : (n.natAbs : Int) = n := by omega
    rw [ofInt, if_neg hneg, read?_ofNat, hvalue]

end Numeral
end Primer
