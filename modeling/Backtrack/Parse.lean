import Backtrack.Grammar

namespace Backtrack

namespace Parse

structure Options where
  -- Whether a match that leaves input over is a failure.
  requireComplete : Bool
  deriving DecidableEq

namespace Options

def default : Options where
  requireComplete := true

def setRequireComplete (o : Options) (b : Bool) : Options :=
  { o with requireComplete := b }

def form (o : Options) : String :=
  Text.record "ParseOptions" [("require_complete", toString o.requireComplete)]

end Options

structure Result where
  outcome : Except Failure Node
  length : Nat
  journal : Journal
  -- What was reported after the run.
  closing : List Event

def Result.events (r : Result) : List Event :=
  .started r.length :: Journal.events r.journal ++ r.closing

-- Transactions that the parser has left open are reported but do not change the outcome.
def balance (c : Cursor) : List Event :=
  if c.saved = [] then [] else [.leftOpen c.depth]

def conclude (o : Options) (c : Cursor) : Answer → Except Failure Node × Event
  | .failed e _ => (.error e, .failed e.position)
  | .matched node =>
    if o.requireComplete && !c.atEnd then
      let e := Failure.trailing c.remaining c.position
      (.error e, .incomplete e)
    else
      (.ok node, .succeeded c.position)

def finish (o : Options) (r : Reply Answer) : Result :=
  let (outcome, last) := conclude o r.cursor r.value
  { outcome := outcome, length := r.cursor.data.length, journal := r.journal,
    closing := balance r.cursor ++ [last] }

end Parse

-- There is no result if the run exhausts its limit.
def Parser.parse? (p : Parser) (o : Parse.Options) (data : List UInt8) : Option Parse.Result :=
  ((p .empty).reply? (.start data)).map (Parse.finish o)

def Grammar.parse? (g : Grammar) (env : Env) (o : Parse.Options) (data : List UInt8) :
    Option Parse.Result :=
  (g.parser env).parse? o data

end Backtrack
