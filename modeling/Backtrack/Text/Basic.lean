import Backtrack.Text.GraphemeExtend
import Backtrack.Text.Unprintable

namespace Backtrack.Text

def utf8 (s : String) : List UInt8 :=
  s.toUTF8.data.toList

def hexByte (b : UInt8) : String :=
  String.ofList [Nat.digitChar (b.toNat / 16), Nat.digitChar (b.toNat % 16)]

-- Both quotes are escaped, whichever of them surrounds the text.
def escapeByte (b : UInt8) : String :=
  if b = 9 then "\\t"
  else if b = 10 then "\\n"
  else if b = 13 then "\\r"
  else if b = 34 then "\\\""
  else if b = 39 then "\\'"
  else if b = 92 then "\\\\"
  else if 32 ≤ b ∧ b ≤ 126 then String.singleton (Char.ofNat b.toNat)
  else "\\x" ++ hexByte b

def quoteByte (b : UInt8) : String :=
  "'" ++ escapeByte b ++ "'"

def quoteEach (bs : List UInt8) : String :=
  String.intercalate ", " (bs.map quoteByte)

def quoteBytes (bs : List UInt8) : String :=
  "\"" ++ String.join (bs.map escapeByte) ++ "\""

-- The code of a character in hexadecimal, without padding.
def hexCode (c : Char) : String :=
  String.ofList (Nat.toDigits 16 c.toNat)

-- In contrast to `escapeByte`, a single quote stands for itself here.
def escapeChar (c : Char) : String :=
  if c = '\x00' then "\\0"
  else if c = '\t' then "\\t"
  else if c = '\n' then "\\n"
  else if c = '\r' then "\\r"
  else if c = '"' then "\\\""
  else if c = '\\' then "\\\\"
  else if isGraphemeExtend c || isUnprintable c then "\\u\x7b" ++ hexCode c ++ "\x7d"
  else String.singleton c

def quote (s : String) : String :=
  "\"" ++ String.join (s.toList.map escapeChar) ++ "\""

def list (items : List String) : String :=
  "[" ++ String.intercalate ", " items ++ "]"

def numbers (ns : List Nat) : String :=
  list (ns.map toString)

-- The bytes as decimal numbers.
def octets (bs : List UInt8) : String :=
  numbers (bs.map UInt8.toNat)

def applied (head : String) (arguments : List String) : String :=
  head ++ "(" ++ String.intercalate ", " arguments ++ ")"

def record (head : String) (fields : List (String × String)) : String :=
  head ++ " \x7b " ++ String.intercalate ", " (fields.map fun f => f.1 ++ ": " ++ f.2) ++ " \x7d"

end Backtrack.Text
