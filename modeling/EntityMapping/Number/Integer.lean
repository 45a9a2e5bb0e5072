import EntityMapping.Number.Digits

/-!
# Reading bounded decimal integers

A decimal integer is an optional sign and at least one digit, with nothing around it. Reading checks
the digits from the left and stops at the first one that is no digit or that takes the number out of
range, so a text with both faults is refused for the one that stands further left.
-/

namespace EntityMapping

/-- Why a text is not an integer of the range asked for. -/
inductive IntegerFault where
  | empty
  | invalidDigit
  | tooLarge
  | tooSmall
  deriving DecidableEq, Repr

namespace IntegerFault

def message : IntegerFault → String
  | empty => "cannot parse integer from empty string"
  | invalidDigit => "invalid digit found in string"
  | tooLarge => "number too large to fit in target type"
  | tooSmall => "number too small to fit in target type"

end IntegerFault

/-- Reads digits after those that wrote `n`, refusing to pass `limit` with the given fault. -/
def readDigits (limit : Nat) (beyond : IntegerFault) : Nat → List Char → Except IntegerFault Nat
  | n, [] => .ok n
  | n, c :: cs =>
    match Digit.ofChar? c with
    | none => .error .invalidDigit
    | some d => if limit < 10 * n + d.val then .error beyond
        else readDigits limit beyond (10 * n + d.val) cs

/-- Reads at least one digit. A sign on its own leaves none, which is an invalid digit. -/
def readMagnitude (limit : Nat) (beyond : IntegerFault) : List Char → Except IntegerFault Nat
  | [] => .error .invalidDigit
  | cs => readDigits limit beyond 0 cs

/-- Reads a natural number up to `limit`; a plus sign may stand in front. -/
def readNatural (limit : Nat) : List Char → Except IntegerFault Nat
  | [] => .error .empty
  | '+' :: cs => readMagnitude limit .tooLarge cs
  | cs => readMagnitude limit .tooLarge cs

/-- Reads an integer from `-below` to `above`; a plus or minus sign may stand in front. -/
def readInteger (below above : Nat) : List Char → Except IntegerFault Int
  | [] => .error .empty
  | '+' :: cs => (readMagnitude above .tooLarge cs).map Int.ofNat
  | '-' :: cs => (readMagnitude below .tooSmall cs).map fun n => -(n : Int)
  | cs => (readMagnitude above .tooLarge cs).map Int.ofNat

/-- Reads a signed 64-bit integer. -/
def readInt64 (text : String) : Except IntegerFault Int64 :=
  (readInteger (2 ^ 63) (2 ^ 63 - 1) text.toList).map Int64.ofInt

/-- Reads an unsigned 64-bit integer. -/
def readUInt64 (text : String) : Except IntegerFault UInt64 :=
  (readNatural (2 ^ 64 - 1) text.toList).map UInt64.ofNat

end EntityMapping
