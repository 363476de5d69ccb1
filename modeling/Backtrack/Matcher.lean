import Backtrack.Parser

namespace Backtrack

-- Matchers ask for a window of a fixed length and decide on the bytes in it.
inductive Matcher
  | byte
  -- Any byte at all if the list is empty.
  | oneOf (values : List UInt8)
  | byteRange (lo hi : UInt8)
  | bytes (expected : List UInt8)
  | string (expected : String)
  deriving DecidableEq

namespace Matcher

-- The matcher of any byte has no name, for it never turns the input down.
def name? : Matcher → Option String
  | byte => none
  | oneOf values => some ("Byte(" ++ Text.quoteEach values ++ ")")
  | byteRange lo hi => some ("ByteRange(" ++ Text.quoteByte lo ++ ", " ++ Text.quoteByte hi ++ ")")
  | bytes expected => some ("Bytes(" ++ Text.quoteBytes expected ++ ")")
  | string expected => some ("String(" ++ Text.quote expected ++ ")")

def width : Matcher → Nat
  | byte | oneOf _ | byteRange _ _ => 1
  | bytes expected => expected.length
  | string expected => (Text.utf8 expected).length

def accepts : Matcher → List UInt8 → Bool
  | byte, _ => true
  | oneOf values, window => window.head?.any fun b => values.isEmpty || values.contains b
  | byteRange lo hi, window => window.head?.any fun b => lo ≤ b && b ≤ hi
  | bytes expected, window => window == expected
  | string expected, window => window == Text.utf8 expected

def value : Matcher → List UInt8 → Value
  | string expected, _ => .text expected
  | _, window => .token window

def found (window : List UInt8) : String :=
  match window.head? with
  | some b => Text.quoteByte b
  | none => "nothing"

def complaint : Matcher → List UInt8 → String
  | byte, _ => ""
  | oneOf [v], window => "expected " ++ Text.quoteByte v ++ ", found " ++ found window
  | oneOf vs, window => "expected one of " ++ Text.quoteEach vs ++ ", found " ++ found window
  | byteRange lo hi, window =>
    "expected byte in range " ++ Text.quoteByte lo ++ "-" ++ Text.quoteByte hi ++ ", found " ++
      found window
  | bytes expected, window =>
    "expected " ++ Text.quoteBytes expected ++ ", found " ++ Text.quoteBytes window
  | string expected, _ => "expected " ++ Text.quote expected

def rejection (m : Matcher) (window : List UInt8) (position : Nat) : Failure :=
  .rejected (m.name?.getD "") (m.complaint window) position

-- The window of a matcher that turns the input down stays validated.
def parser (m : Matcher) : Parser := fun slot => do
  match ← Run.request m.width with
  | some e => return .failed e slot
  | none =>
    let window ← Run.buffer
    if m.accepts window then
      Run.advance
      return .matched (.leaf (m.value window))
    else
      return .failed (m.rejection window (← Run.position)) slot

def form (m : Matcher) : String :=
  let name := ("name", Text.quote (m.name?.getD ""))
  match m with
  | byte => "ByteParser"
  | oneOf values => Text.record "OneOfParser" [("expected", Text.octets values), name]
  | byteRange lo hi =>
    Text.record "ByteRangeParser" [("start", toString lo.toNat), ("end", toString hi.toNat), name]
  | bytes expected => Text.record "BytesParser" [("expected", Text.octets expected), name]
  | string expected => Text.record "StringParser" [("expected", Text.quote expected), name]

end Matcher
end Backtrack
