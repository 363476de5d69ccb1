import Backtrack.Text.Basic

namespace Backtrack

-- A failure is a chain of layers, from the outermost grammar that gave up down to the matcher that
-- met the wrong input.
inductive Failure
  | insufficient (requested remaining position : Nat)
  | rejected (name message : String) (position : Nat)
  -- A named parser passes on the failure of one of its parts.
  | within (name message : String) (position : Nat) (cause : Failure)
  -- The grammar matched, but input was left over.
  | trailing (remaining position : Nat)
  deriving DecidableEq

namespace Failure

def position : Failure → Nat
  | insufficient _ _ p => p
  | rejected _ _ p => p
  | within _ _ p _ => p
  | trailing _ p => p

def name? : Failure → Option String
  | insufficient .. => none
  | rejected name _ _ => some name
  | within name _ _ _ => some name
  | trailing .. => none

def cause? : Failure → Option Failure
  | within _ _ _ cause => some cause
  | _ => none

-- Each layer together with everything below it, from each to its cause.
def layers : Failure → List Failure
  | e@(within _ _ _ cause) => e :: cause.layers
  | e => [e]

def sources : Failure → List Failure
  | within _ _ _ cause => cause :: cause.sources
  | _ => []

def innermost : Failure → Failure
  | within _ _ _ cause => cause.innermost
  | e => e

-- The text of the outermost layer alone.
def headline : Failure → String
  | insufficient requested remaining position =>
    "unexpected end of input: needed " ++ toString requested ++ " bytes, " ++ toString remaining ++
      " remaining at offset " ++ toString position
  | rejected name message position => name ++ ": " ++ message ++ " at offset " ++ toString position
  | within name message position _ => name ++ ": " ++ message ++ " at offset " ++ toString position
  | trailing remaining position =>
    "trailing input: " ++ toString remaining ++ " bytes left unparsed at offset " ++
      toString position

def display : Failure → String
  | e@(within _ _ _ cause) => e.headline ++ "\n" ++ cause.display
  | e => e.headline

def form : Failure → String
  | insufficient requested remaining position =>
    Text.record "InsufficientInput" [("requested", toString requested),
      ("remaining", toString remaining), ("position", toString position)]
  | rejected name message position =>
    Text.record "Syntax" [("name", Text.quote name), ("message", Text.quote message),
      ("position", toString position)]
  | within name message position cause =>
    Text.record "Trace" [("name", Text.quote name), ("message", Text.quote message),
      ("position", toString position), ("cause", cause.form)]
  | trailing remaining position =>
    Text.record "TrailingInput" [("position", toString position), ("remaining", toString remaining)]

variable {e : Failure}

@[simp]
theorem layers_within {name message : String} {position : Nat} :
    (within name message position e).layers = within name message position e :: e.layers :=
  rfl

theorem layers_eq_cons : e.layers = e :: e.cause?.elim [] layers := by
  cases e <;> rfl

theorem layers_ne_nil : e.layers ≠ [] :=
  layers_eq_cons ▸ List.cons_ne_nil _ _

theorem head?_layers : e.layers.head? = some e :=
  layers_eq_cons ▸ List.head?_cons

theorem layers_eq_cons_sources : e.layers = e :: e.sources := by
  induction e
  case within cause hi => rw [layers_within, hi, sources]
  all_goals rfl

theorem sources_eq_tail : e.sources = e.layers.tail :=
  layers_eq_cons_sources ▸ rfl

end Failure
end Backtrack
