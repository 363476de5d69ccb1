import Backtrack.Failure

namespace Backtrack

inductive Level
  | error
  | debug
  | trace
  deriving DecidableEq

inductive Field
  | number (n : Nat)
  | text (s : String)
  deriving DecidableEq

-- A setback that a combinator takes care of. The name is that of the combinator.
inductive Notice
  | sequenceRolledBack (name : String) (index position : Nat)
  | noAlternative (name : String) (position : Nat)
  | optionalSkipped (name : String) (failure : Failure)
  | zeroWidth (name : String) (position : Nat)
  deriving DecidableEq

inductive Event
  | started (length : Nat)
  | notice (n : Notice)
  | unmatchedPop (position : Nat)
  | unmatchedCommit (position : Nat)
  | leftOpen (depth : Nat)
  | failed (position : Nat)
  | incomplete (failure : Failure)
  | succeeded (consumed : Nat)
  deriving DecidableEq

namespace Notice

def message : Notice → String
  | sequenceRolledBack .. => "sequence rolled back"
  | noAlternative .. => "no alternative matched"
  | optionalSkipped .. => "optional parser skipped"
  | zeroWidth .. => "zero-width repetition, stopping"

def fields : Notice → List (String × Field)
  | sequenceRolledBack name index position =>
    [("name", .text name), ("index", .number index), ("position", .number position)]
  | noAlternative name position => [("name", .text name), ("position", .number position)]
  | optionalSkipped name failure => [("name", .text name), ("error", .text failure.display)]
  | zeroWidth name position => [("name", .text name), ("position", .number position)]

end Notice

namespace Event

-- Only a breach of the rules for transactions is an error.
def level : Event → Level
  | notice _ => .trace
  | unmatchedPop _ | unmatchedCommit _ | leftOpen _ => .error
  | started _ | failed _ | incomplete _ | succeeded _ => .debug

def message : Event → String
  | started _ => "parse"
  | notice n => n.message
  | unmatchedPop _ => "pop without a matching push"
  | unmatchedCommit _ => "commit without a matching push"
  | leftOpen _ => "parser left transactions open; push and pop/commit are unbalanced"
  | failed _ => "parse failed"
  | incomplete _ => "parse incomplete"
  | succeeded _ => "parse succeeded"

def fields : Event → List (String × Field)
  | started length => [("len", .number length)]
  | notice n => n.fields
  | unmatchedPop position => [("position", .number position)]
  | unmatchedCommit position => [("position", .number position)]
  | leftOpen depth => [("depth", .number depth)]
  | failed position => [("position", .number position)]
  | incomplete failure => [("error", .text failure.display)]
  | succeeded consumed => [("consumed", .number consumed)]

end Event
end Backtrack
