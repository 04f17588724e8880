/-!
# Decimal numbers in text

A count is read from one or more ASCII digits, which a plus sign may precede; nothing else may stand
around them, and the value has to fit its width. Numbers are written by `Nat.repr` and `toString`. A
stricter reader takes nothing but what is written for a number (`exactLong?_eq_some_iff`).
-/

namespace AdmissionControl.Text.Decimal

def digits? (characters : List Char) : Option Nat :=
  if characters.isEmpty || !characters.all Char.isDigit then none
  else some (Nat.ofDigitChars 10 characters 0)

/-- The value of digits that a plus sign may precede. -/
def natural? : List Char → Option Nat
  | '+' :: rest => digits? rest
  | characters => digits? characters

/-- The value of digits that a plus or a minus sign may precede. -/
def integer? : List Char → Option Int
  | '-' :: rest => (digits? rest).map fun magnitude => -(magnitude : Int)
  | characters => (natural? characters).map Int.ofNat

def word? (text : String) : Option UInt64 :=
  (natural? text.toList).bind fun value =>
    if value < UInt64.size then some (UInt64.ofNat value) else none

/-- A text as a signed number of 64 bits. -/
def long? (text : String) : Option Int :=
  (integer? text.toList).bind fun value =>
    if -9223372036854775808 ≤ value ∧ value < 9223372036854775808 then some value else none

/-- A text as a signed number of 64 bits, if it is what is written for that number: no plus sign, no
leading zeros, no minus sign before zero. -/
def exactLong? (text : String) : Option Int :=
  (long? text).filter fun number => toString number = text

/-- A text of digits alone has no sign. -/
theorem integer?_of_digits {characters : List Char}
    (digits : ∀ character ∈ characters, character.isDigit) :
    integer? characters = (digits? characters).map Int.ofNat := by
  unfold integer? natural?
  split
  · have := digits '-' List.mem_cons_self
    contradiction
  · split
    · have := digits '+' List.mem_cons_self
      contradiction
    · rfl

theorem digits?_toDigits (number : Nat) : digits? (Nat.toDigits 10 number) = some number := by
  have present : Nat.toDigits 10 number ≠ [] := Nat.toDigits_ne_nil
  have digits : (Nat.toDigits 10 number).all Char.isDigit := by
    rw [List.all_eq_true]
    intro character member
    exact Nat.isDigit_of_mem_toDigits (by decide) (by decide) member
  simp [digits?, present, digits, Nat.ofDigitChars_toDigits]

theorem integer?_repr (number : Nat) : integer? (Nat.repr number).toList = some (number : Int) := by
  have digits : ∀ character ∈ Nat.toDigits 10 number, character.isDigit := fun _ member =>
    Nat.isDigit_of_mem_toDigits (by decide) (by decide) member
  rw [Nat.toList_repr, integer?_of_digits digits, digits?_toDigits]
  rfl

theorem integer?_minus {digits : List Char} {magnitude : Nat}
    (read : digits? digits = some magnitude) :
    integer? ('-' :: digits) = some (-(magnitude : Int)) := by
  simp [integer?, read]

theorem integer?_toString (number : Int) : integer? (toString number).toList = some number := by
  cases number with
  | ofNat magnitude => exact integer?_repr magnitude
  | negSucc magnitude =>
      have written : (toString (Int.negSucc magnitude)).toList =
          '-' :: Nat.toDigits 10 (magnitude + 1) := by
        rw [← Nat.toList_repr]
        exact String.toList_append
      rw [written, integer?_minus (digits?_toDigits (magnitude + 1))]
      rfl

theorem long?_of_integer? {text : String} {value : Int}
    (read : integer? text.toList = some value)
    (fits : -9223372036854775808 ≤ value ∧ value < 9223372036854775808) :
    long? text = some value := by
  unfold long?
  rw [read]
  exact if_pos fits

theorem long?_bounds {text : String} {number : Int} (read : long? text = some number) :
    -9223372036854775808 ≤ number ∧ number < 9223372036854775808 := by
  simp only [long?, Option.bind_eq_some_iff] at read
  rcases read with ⟨value, -, fits⟩
  split at fits
  · next within =>
      cases fits
      exact within
  · cases fits

/-- What is written for a number is read as that number. -/
theorem long?_toString {number : Int}
    (fits : -9223372036854775808 ≤ number ∧ number < 9223372036854775808) :
    long? (toString number) = some number :=
  long?_of_integer? (integer?_toString number) fits

/-- The strict reader reads what is written for the numbers of 64 bits, and nothing else. -/
theorem exactLong?_eq_some_iff {text : String} {number : Int} :
    exactLong? text = some number ↔ text = toString number ∧
      -9223372036854775808 ≤ number ∧ number < 9223372036854775808 := by
  rw [exactLong?, Option.filter_eq_some_iff, decide_eq_true_eq]
  constructor
  · rintro ⟨read, written⟩
    exact ⟨written.symm, long?_bounds read⟩
  · rintro ⟨rfl, fits⟩
    exact ⟨long?_toString fits, rfl⟩

example : exactLong? "+5" = none ∧ exactLong? "007" = none ∧ exactLong? "-0" = none := by decide

end AdmissionControl.Text.Decimal
