/-
  Numbers: the decimal digits of every script, and how a number is read and written.

  A digit is worth its distance from the zero of its own run of ten; digits of different scripts may
  be mixed in one number. Reading takes an optional sign and at least one digit. Writing uses the
  ten digits of the first run, no leading zero, and a minus sign for a number below zero. A number
  with decimal places is written with as few of them as it needs, but with one at least.

  Numbers of any length are read and written. An interpreter may be set to refuse numbers of more
  than so many digits; that limit is no part of the notation and is left out here.
-/

namespace Gamebook.Text

/-! ## Digits -/

/-- The zeros of the decimal digits: each one opens a run of ten digits in ascending order. -/
def digitZeros : List Nat :=
  [48, 1632, 1776, 1984, 2406, 2534, 2662, 2790, 2918, 3046, 3174, 3302, 3430, 3558, 3664, 3792,
   3872, 4160, 4240, 6112, 6160, 6470, 6608, 6784, 6800, 6992, 7088, 7232, 7248, 42528, 43216,
   43264, 43472, 43504, 43600, 44016, 65296, 66720, 68912, 69734, 69872, 69942, 70096, 70384, 70736,
   70864, 71248, 71360, 71472, 71904, 72016, 72784, 73040, 73120, 92768, 92864, 93008, 120782,
   120792, 120802, 120812, 120822, 123200, 123632, 125264, 130032]

/-- The worth of a decimal digit. -/
def digitValue? (c : Char) : Option Nat :=
  (digitZeros.find? fun start => start ≤ c.toNat && c.toNat ≤ start + 9).map (c.toNat - ·)

/-- The character is a decimal digit of some script. -/
def isDecimal (c : Char) : Bool := (digitValue? c).isSome

/-! ## Reading -/

/-- The number that decimal digits spell; a character that is no digit counts as a zero. -/
def digitsValue (digits : List Char) : Nat :=
  digits.foldl (fun total c => 10 * total + (digitValue? c).getD 0) 0

/-- Reads a number without a sign: one decimal digit or more, and nothing else. -/
def readNatural? (text : List Char) : Option Nat :=
  if !text.isEmpty && text.all isDecimal then some (digitsValue text) else none

/-- Reads a number with an optional sign in front of its digits. -/
def readInteger? : List Char → Option Int
  | '-' :: digits => (readNatural? digits).map fun n => -(n : Int)
  | '+' :: digits => (readNatural? digits).map Int.ofNat
  | digits => (readNatural? digits).map Int.ofNat

/-! ## Writing -/

/-- The decimal digits of a number, the leading one not a zero unless it stands alone. -/
def writeNatural (n : Nat) : List Char := Nat.toDigits 10 n

/-- The number in decimal, a minus sign in front when it is below zero. -/
def writeInteger : Int → List Char
  | .ofNat n => writeNatural n
  | .negSucc n => '-' :: writeNatural (n + 1)

/-- A number without a sign, as a string. -/
def natural (n : Nat) : String := String.ofList (writeNatural n)

/-- A number in decimal, as a string. -/
def integer (n : Int) : String := String.ofList (writeInteger n)

/-! ## Reading what was written -/

theorem digitValue?_of_isDigit {c : Char} (h : c.isDigit = true) :
    digitValue? c = some (c.toNat - 48) := by
  have hrange : 48 ≤ c.toNat ∧ c.toNat ≤ 57 := Char.isDigit_iff_toNat.1 h
  have hfind :
      (digitZeros.find? fun start => start ≤ c.toNat && c.toNat ≤ start + 9) = some 48 := by
    rw [digitZeros, List.find?_cons_of_pos]
    simpa using hrange
  rw [digitValue?, hfind, Option.map_some]

theorem isDecimal_of_isDigit {c : Char} (h : c.isDigit = true) : isDecimal c = true := by
  rw [isDecimal, digitValue?_of_isDigit h, Option.isSome_some]

theorem isDigit_of_mem_writeNatural {n : Nat} {c : Char} (h : c ∈ writeNatural n) :
    c.isDigit = true := Nat.isDigit_of_mem_toDigits (by decide) (by decide) h

theorem writeNatural_ne_nil (n : Nat) : writeNatural n ≠ [] := Nat.toDigits_ne_nil

/-- The digits of a number spell it. -/
theorem digitsValue_writeNatural (n : Nat) : digitsValue (writeNatural n) = n := by
  have hfold : ∀ (digits : List Char) (total : Nat), (∀ c ∈ digits, c.isDigit = true) →
      digits.foldl (fun total c => 10 * total + (digitValue? c).getD 0) total =
        Nat.ofDigitChars 10 digits total := by
    intro digits
    induction digits with
    | nil => exact fun _ _ => rfl
    | cons c rest ih =>
      intro total hdigits
      obtain ⟨hc, hrest⟩ := List.forall_mem_cons.1 hdigits
      rw [List.foldl_cons, digitValue?_of_isDigit hc, Nat.ofDigitChars_cons]
      exact ih _ hrest
  rw [digitsValue, hfold _ 0 fun c => isDigit_of_mem_writeNatural]
  exact Nat.ofDigitChars_toDigits (by decide) (by decide)

theorem readNatural?_writeNatural (n : Nat) : readNatural? (writeNatural n) = some n := by
  have hall : (writeNatural n).all isDecimal = true :=
    List.all_eq_true.2 fun c hc => isDecimal_of_isDigit (isDigit_of_mem_writeNatural hc)
  rw [readNatural?, hall, digitsValue_writeNatural]
  simp [writeNatural_ne_nil]

/-- A number is read as it was written. -/
theorem readInteger?_writeInteger (n : Int) : readInteger? (writeInteger n) = some n := by
  cases n with
  | negSucc n =>
    rw [writeInteger, readInteger?, readNatural?_writeNatural]
    rfl
  | ofNat n =>
    rw [writeInteger, readInteger?, readNatural?_writeNatural]
    · rfl
    · intro digits hminus
      exact absurd (isDigit_of_mem_writeNatural (hminus ▸ List.mem_cons_self)) (by decide)
    · intro digits hplus
      exact absurd (isDigit_of_mem_writeNatural (hplus ▸ List.mem_cons_self)) (by decide)

/-! ## Writing decimal places -/

/-- Gives up the decimal places that hold nothing but zeros at the end of `units`. -/
def dropPlaces (units : Nat) : (places : Nat) → Nat × Nat
  | 0 => (units, 0)
  | places + 1 =>
    if units % 10 = 0 then dropPlaces (units / 10) places else (units, places + 1)

/-- Digits with the point in front of the last `places` of them, and a digit on both sides. -/
def writePoint (digits : List Char) (places : Nat) : List Char :=
  let padded := List.replicate (places + 1 - digits.length) '0' ++ digits
  let whole := padded.take (padded.length - places)
  let fraction := padded.drop (padded.length - places)
  whole ++ '.' :: (if fraction.isEmpty then ['0'] else fraction)

/-- Digits with the point behind the first of them, and a negative exponent of at least two
    digits. -/
def writeExponent (digits : List Char) (places : Nat) : List Char :=
  let exponent := writeNatural (places + 1 - digits.length)
  let sign := if exponent.length < 2 then ['e', '-', '0'] else ['e', '-']
  match digits with
  | first :: second :: rest => first :: '.' :: second :: rest ++ sign ++ exponent
  | _ => digits ++ sign ++ exponent

/-- A number of units, of which ten to the power `places` make one. Below a ten-thousandth it is
    written with an exponent. -/
def decimal (units : Int) (places : Nat) : String :=
  let (size, places) := dropPlaces units.natAbs places
  let digits := writeNatural size
  let written :=
    if digits.length + 4 ≤ places then writeExponent digits places else writePoint digits places
  String.ofList (if units < 0 then '-' :: written else written)

end Gamebook.Text
