namespace GridWalk.Text

-- Why a text is not a decimal numeral of the wanted range.
inductive NumeralError where
  | empty
  | invalidDigit
  | tooLarge
  | tooSmall
  deriving DecidableEq

def NumeralError.message : NumeralError → String
  | .empty => "cannot parse integer from empty string"
  | .invalidDigit => "invalid digit found in string"
  | .tooLarge => "number too large to fit in target type"
  | .tooSmall => "number too small to fit in target type"

def digitValue (c : Char) : Nat := c.toNat - '0'.toNat

-- Reads decimal digits onto the value of the digits before them. Reading
-- stops at the first character that is no ASCII digit, or that takes the value
-- above the limit, so the leftmost problem is the one reported.
def readDigits (limit : Nat) (beyond : NumeralError) : Nat → List Char → Except NumeralError Nat
  | value, [] => .ok value
  | value, c :: rest =>
      if c.isDigit then
        let next := value * 10 + digitValue c
        if next ≤ limit then readDigits limit beyond next rest else .error beyond
      else .error .invalidDigit

-- One or more digits. A sign with nothing after it counts as a bad digit.
def readMagnitude (limit : Nat) (beyond : NumeralError) : List Char → Except NumeralError Nat
  | [] => .error .invalidDigit
  | digits => readDigits limit beyond 0 digits

-- A natural number of at most `greatest`, with an optional plus sign.
def readNat (greatest : Nat) : List Char → Except NumeralError Nat
  | [] => .error .empty
  | '+' :: digits => readMagnitude greatest .tooLarge digits
  | digits => readMagnitude greatest .tooLarge digits

-- An integer from `-least` to `greatest`, with an optional sign.
def readInt (least greatest : Nat) : List Char → Except NumeralError Int
  | [] => .error .empty
  | '+' :: digits => Int.ofNat <$> readMagnitude greatest .tooLarge digits
  | '-' :: digits => (fun n => -(n : Int)) <$> readMagnitude least .tooSmall digits
  | digits => Int.ofNat <$> readMagnitude greatest .tooLarge digits

-- The greatest number of an unsigned 64-bit word.
def maxWord : Nat := 18446744073709551615

def readWord (cs : List Char) : Except NumeralError Nat := readNat maxWord cs

def readInt32 (cs : List Char) : Except NumeralError Int32 :=
  Int32.ofInt <$> readInt 2147483648 2147483647 cs

-- The parts of a text before and after the first occurrence of a separator.
def splitFirst (separator : Char) : List Char → Option (List Char × List Char)
  | [] => none
  | c :: rest =>
      if c = separator then some ([], rest)
      else (splitFirst separator rest).map fun (before, after) => (c :: before, after)

end GridWalk.Text
