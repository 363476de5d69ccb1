import Backtrack.Grammar

namespace Backtrack.Script

-- Routines that act on the cursor and the slot step by step. They may break the rules that parsers
-- keep by convention.
inductive Step
  | request (n : Nat)
  -- Goes on even if the request fails.
  | tryRequest (n : Nat)
  | advance
  | push
  | pop
  | commit
  | token
  | write (node : Node)
  | collect
  | atEnd
  | fail (failure : Nat → Failure)
  | parse (g : Grammar)

def unfinished (position : Nat) : Failure :=
  .rejected "End" "expected end of input" position

def Step.parser (env : Env) : Step → Parser
  | request n, slot => do
    match ← Run.request n with
    | some e => return .failed e slot
    | none => return .matched slot
  | tryRequest n, slot => do
    let _ ← Run.request n
    return .matched slot
  | advance, slot => do
    Run.advance
    return .matched slot
  | push, slot => do
    Run.push
    return .matched slot
  | pop, slot => do
    Run.pop
    return .matched slot
  | commit, slot => do
    Run.commit
    return .matched slot
  | token, _ => return .matched (.leaf (.token (← Run.buffer)))
  | write node, _ => return .matched node
  | collect, slot => return .matched (.branch [slot])
  | atEnd, slot => do
    let c ← Run.cursor
    if c.atEnd then
      return .matched slot
    else
      return .failed (unfinished c.position) slot
  | fail failure, slot => return .failed (failure (← Run.position)) slot
  | parse g, slot => g.parser env slot

-- Runs the steps in order until one fails. Nothing is undone then.
def parser (env : Env) : List Step → Parser
  | [], slot => return .matched slot
  | s :: ss, slot => do
    match ← s.parser env slot with
    | .matched slot => parser env ss slot
    | .failed e slot => return .failed e slot

def grammar (steps : List Step) : Grammar :=
  .routine fun env => parser env steps

end Backtrack.Script
