import Backtrack.Node
import Backtrack.Run

namespace Backtrack

-- A parser that fails hands back its slot as well, for it may have written to it before.
inductive Answer
  | matched (slot : Node)
  | failed (failure : Failure) (slot : Node)
  deriving DecidableEq

-- By convention, a parser that fails leaves the cursor and the slot as it found them, and one that
-- succeeds has closed every transaction that it opened. The type does not enforce this, but since
-- it is made of runs it covers only parsers that act through the operations of the cursor.
abbrev Parser :=
  Node → Run Answer

namespace Parser

def leaf (p : Parser) : Parser :=
  fun slot => (p slot).leaf

def map (f : Node → Node) (p : Parser) : Parser := fun slot => do
  match ← p slot with
  | .matched node => return .matched (f node)
  | .failed e node => return .failed e node

-- Each parser gets a slot of its own. The first that fails is reported with its index.
def elements : Nat → List Parser → Run (Except (Nat × Failure) (List Node))
  | _, [] => return .ok []
  | i, p :: ps => do
    match ← p .empty with
    | .failed e _ => return .error (i, e)
    | .matched node =>
      match ← elements (i + 1) ps with
      | .error e => return .error e
      | .ok nodes => return .ok (node :: nodes)

def seq (name : String) (ps : List Parser) : Parser := fun slot => do
  Run.push
  match ← elements 0 ps with
  | .ok nodes =>
    Run.commit
    return .matched (.branch nodes)
  | .error (i, e) =>
    Run.pop
    let position ← Run.position
    Run.note (.sequenceRolledBack name i position)
    return .failed (.within name ("element " ++ toString i ++ " failed") position e) slot

-- The cursor is not taken back between two attempts: each starts where the one before it has
-- stopped, on the slot that it has left.
def firstOf : List Parser → Node → Run (Except Node Node)
  | [], slot => return .error slot
  | p :: ps, slot => do
    match ← p slot with
    | .matched node => return .ok node
    | .failed _ slot => firstOf ps slot

def any (name : String) (ps : List Parser) : Parser := fun slot => do
  Run.push
  match ← firstOf ps slot with
  | .ok node =>
    Run.commit
    return .matched node
  | .error slot =>
    Run.pop
    let position ← Run.position
    Run.note (.noAlternative name position)
    return .failed (.rejected name "no alternative matched" position) slot

def maybe (name : String) (p : Parser) : Parser := fun slot => do
  Run.push
  match ← p slot with
  | .matched node =>
    Run.commit
    return .matched node
  | .failed e slot =>
    Run.pop
    Run.note (.optionalSkipped name e)
    return .matched slot

-- The attempt that fails or does not move is undone and ends the repetitions.
def repetitions (name : String) (p : Parser) : Nat → Run (List Node)
  | 0 => Run.exhausted
  | limit + 1 => do
    let start ← Run.position
    Run.push
    match ← p .empty with
    | .failed _ _ =>
      Run.pop
      return []
    | .matched node =>
      if (← Run.position) = start then
        Run.pop
        Run.note (.zeroWidth name start)
        return []
      else
        Run.commit
        let nodes ← repetitions name p limit
        return node :: nodes

-- The first match is mandatory and need not move.
def many (limit : Nat) (name : String) (p : Parser) : Parser := fun slot => do
  Run.push
  match ← p .empty with
  | .failed e _ =>
    Run.pop
    return .failed (.within name "expected at least one match" (← Run.position) e) slot
  | .matched node =>
    Run.commit
    let nodes ← repetitions name p limit
    return .matched (.branch (node :: nodes))

end Parser
end Backtrack
