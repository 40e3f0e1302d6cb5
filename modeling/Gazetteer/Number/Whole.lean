/-!
# Reading whole numbers

Counts and positions are read from text in two places: alias keys end in one and settings hold them.
A number has at least one digit, any number of leading zeros, and has to fit a machine word of 64
bits.
-/

set_option autoImplicit false

namespace Gazetteer.Whole

/-- One more than the greatest number that fits a word of 64 bits. -/
def wordBound : Nat := 0x10000000000000000

/-- The worth of a digit in a base of at most 36, if it is one. -/
def digit? (base : Nat) (c : Char) : Option Nat :=
  let worth? :=
    if '0' ≤ c ∧ c ≤ '9' then some (c.toNat - '0'.toNat)
    else if 'a' ≤ c ∧ c ≤ 'z' then some (c.toNat - 'a'.toNat + 10)
    else if 'A' ≤ c ∧ c ≤ 'Z' then some (c.toNat - 'A'.toNat + 10)
    else none
  worth?.filter (· < base)

/-- Reads the remaining digits of a number whose digits so far are worth `sofar`. -/
def readFrom (base sofar : Nat) : List Char → Option Nat
  | [] => some sofar
  | c :: rest =>
    match digit? base c with
    | some d => readFrom base (sofar * base + d) rest
    | none => none

/-- Reads one or more digits, and nothing else. -/
def ofDigits? (base : Nat) : List Char → Option Nat
  | [] => none
  | cs => readFrom base 0 cs

/-- Reads a word of 64 bits from one or more digits. -/
def wordOfDigits? (base : Nat) (cs : List Char) : Option Nat :=
  (ofDigits? base cs).filter (· < wordBound)

/-- Reads a word of 64 bits in decimal notation, with or without a plus sign. -/
def ofChars? : List Char → Option Nat
  | '+' :: digits => wordOfDigits? 10 digits
  | digits => wordOfDigits? 10 digits

end Gazetteer.Whole
