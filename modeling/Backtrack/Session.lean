import Backtrack.Grammar

namespace Backtrack

-- One cursor and one slot, worked on step by step.
structure Session where
  cursor : Cursor
  slot : Node
  -- The copies of the cursor, the latest under each number first.
  kept : List (Nat × Cursor)
  journal : Journal

namespace Session

def start (data : List UInt8) : Session where
  cursor := .start data
  slot := .empty
  kept := []
  journal := []

inductive Step
  | push
  | pop
  | commit
  | advance
  | request (n : Nat)
  | source
  | describe
  | fill (node : Node)
  | keep (id : Nat)
  | restore (id : Nat)
  | parse (g : Grammar)

inductive Outcome
  | silent
  | succeeded
  | failed (e : Failure)
  | source (bytes : List UInt8)
  | form (s : String)

def run {α : Type} (s : Session) (x : Run α) : Option (α × Session) :=
  (x.reply? s.cursor).map fun r =>
    (r.value, { s with cursor := r.cursor, journal := s.journal ++ r.journal })

def act (s : Session) (o : Cursor.Op) : Option (Outcome × Session) :=
  (s.run (Run.act o)).map fun r => (.silent, r.2)

-- Nothing is restored under a number under which nothing was kept.
def step (env : Env) (s : Session) : Step → Option (Outcome × Session)
  | .push => s.act .push
  | .pop => s.act .pop
  | .commit => s.act .commit
  | .advance => s.act .advance
  | .request n => do
    let (shortage, s) ← s.run (Run.request n)
    return (shortage.elim .succeeded .failed, s)
  | .source => return (.source s.cursor.data, s)
  | .describe => return (.form s.cursor.form, s)
  | .fill node => return (.silent, { s with slot := node })
  | .keep id => return (.silent, { s with kept := (id, s.cursor) :: s.kept })
  | .restore id => return (.silent, { s with cursor := (s.kept.lookup id).getD s.cursor })
  | .parse g => do
    match ← s.run (g.parser env s.slot) with
    | (.matched slot, s) => return (.succeeded, { s with slot := slot })
    | (.failed e slot, s) => return (.failed e, { s with slot := slot })

-- There is no session after the steps if a parser exhausts its limit on the way.
def after? (env : Env) : Session → List Step → Option Session
  | s, [] => some s
  | s, t :: ts => (s.step env t).bind fun r => after? env r.2 ts

-- What a routine made of the steps replies in the place of a parser. Since it can put back a copy
-- of the cursor, its journal need not account for where it leaves the cursor.
def routine? (env : Env) (ts : List Step) (slot : Node) (c : Cursor) : Option (Reply Answer) :=
  (after? env { cursor := c, slot := slot, kept := [], journal := [] } ts).map fun s =>
    { value := .matched s.slot, cursor := s.cursor, journal := s.journal }

end Session
end Backtrack
