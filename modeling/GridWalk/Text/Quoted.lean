import GridWalk.Text.Blank
import GridWalk.Text.Combining
import GridWalk.Text.Unassigned

namespace GridWalk.Text

-- Format characters, which steer the layout of others, and the fillers of Hangul.
def formatRanges : List CodeRange :=
  [ (0xAD, 0xAD), (0x600, 0x605), (0x61C, 0x61C), (0x6DD, 0x6DD), (0x70F, 0x70F),
    (0x890, 0x891), (0x8E2, 0x8E2), (0x115F, 0x1160), (0x180E, 0x180E), (0x200B, 0x200F),
    (0x202A, 0x202E), (0x2060, 0x206F), (0x3164, 0x3164), (0xFEFF, 0xFEFF), (0xFFA0, 0xFFA0),
    (0xFFF9, 0xFFFB), (0x110BD, 0x110BD), (0x110CD, 0x110CD), (0x13430, 0x1343F),
    (0x1BCA0, 0x1BCA3), (0x1D173, 0x1D17A) ]

def isPrivate (c : Char) : Bool := 0xE000 ≤ c.toNat && c.toNat ≤ 0xF8FF

-- Characters that leave no mark of their own on a line: controls, blanks other
-- than the space, format characters, combining marks, private use and code
-- points without a character.
def isUnprintable (c : Char) : Bool :=
  c.toNat < 0x20 || (0x7F ≤ c.toNat && c.toNat ≤ 0x9F) || (isBlank c && c != ' ') ||
    inRanges formatRanges c || isCombining c || isPrivate c || isUnassigned c ||
    firstUndrawn ≤ c.toNat

def hexDigits (n : Nat) : String := String.ofList (Nat.toDigits 16 n)

-- One character of a quoted text.
def quoteChar (c : Char) : String :=
  match c with
  | '"' => "\\\""
  | '\\' => "\\\\"
  | '\n' => "\\n"
  | '\t' => "\\t"
  | '\r' => "\\r"
  | '\x00' => "\\0"
  | c => if isUnprintable c then "\\u\x7b" ++ hexDigits c.toNat ++ "\x7d" else c.toString

-- A text between double quotes, on one line whatever it holds.
def quote (s : String) : String :=
  "\"" ++ String.join (s.toList.map quoteChar) ++ "\""

end GridWalk.Text
