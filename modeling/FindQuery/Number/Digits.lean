/-!
# Runs of ASCII digits

Only the ten ASCII digits have a value.  A run of them is read as a natural
number in base ten, and every number has a text of digits that reads back as it.
-/

namespace FindQuery.Number

/-- The value of an ASCII digit. -/
def digitValue (character : Char) : Nat :=
  character.toNat - '0'.toNat

/-- The value of a run of digits, continuing a value read so far. -/
def digitsValueFrom (start : Nat) (characters : List Char) : Nat :=
  characters.foldl (fun value character => 10 * value + digitValue character) start

/-- The value of a run of digits. -/
def digitsValue (characters : List Char) : Nat :=
  digitsValueFrom 0 characters

/-- Whether a text consists of digits, at least one. -/
def isNumeral (characters : List Char) : Bool :=
  !characters.isEmpty && characters.all Char.isDigit

/-- The value of a text of digits, at least one. -/
def natural? (characters : List Char) : Option Nat :=
  if isNumeral characters then
    some (digitsValue characters)
  else
    none

/-- The value of a text of digits after an optional sign. -/
def integer? : List Char → Option Int
  | '-' :: digits => (natural? digits).map fun value => -(value : Int)
  | '+' :: digits => (natural? digits).map fun value => (value : Int)
  | digits => (natural? digits).map fun value => (value : Int)

/-- The ASCII digit of a number below ten. -/
def digitOf (number : Nat) : Char :=
  Char.ofNat ('0'.toNat + number)

/-- The digits of a natural number, without leading zeros. -/
def naturalText (number : Nat) : List Char :=
  if number < 10 then
    [digitOf number]
  else
    naturalText (number / 10) ++ [digitOf (number % 10)]

/-- The digits of an integer after a minus sign where it is negative. -/
def integerText (number : Int) : List Char :=
  if number < 0 then
    '-' :: naturalText number.natAbs
  else
    naturalText number.natAbs

theorem digitValue_digitOf {number : Nat} (small : number < 10) :
    digitValue (digitOf number) = number := by
  have each : ∀ digit < 10, digitValue (digitOf digit) = digit := by
    decide +kernel
  exact each number small

@[simp]
theorem digitsValueFrom_nil (start : Nat) : digitsValueFrom start [] = start := rfl

@[simp]
theorem digitsValueFrom_cons (start : Nat) (first : Char) (rest : List Char) :
    digitsValueFrom start (first :: rest) =
      digitsValueFrom (10 * start + digitValue first) rest := by
  simp only [digitsValueFrom, List.foldl_cons]

theorem digitsValueFrom_append (start : Nat) (left right : List Char) :
    digitsValueFrom start (left ++ right) =
      digitsValueFrom (digitsValueFrom start left) right := by
  simp [digitsValueFrom]

/-- The text of a natural number reads back as the number. -/
theorem digitsValue_naturalText (number : Nat) :
    digitsValue (naturalText number) = number := by
  induction number using Nat.strongRecOn with
  | ind number hypothesis =>
      unfold naturalText
      split
      · rename_i small
        unfold digitsValue
        rw [digitsValueFrom_cons, digitsValueFrom_nil, digitValue_digitOf small]
        omega
      · have quotient := hypothesis (number / 10) (by omega)
        unfold digitsValue at quotient ⊢
        rw [digitsValueFrom_append, quotient]
        simp only [digitsValueFrom_cons, digitsValueFrom_nil]
        rw [digitValue_digitOf (by omega)]
        omega

end FindQuery.Number
