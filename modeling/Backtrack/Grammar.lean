import Backtrack.Matcher
import Backtrack.Parser

namespace Backtrack

inductive Literal
  | string (s : String)
  | byte (b : UInt8)
  | bytes (bs : List UInt8)
  deriving DecidableEq

namespace Literal

def label : Literal → String
  | string _ => "String"
  | byte _ => "Byte"
  | bytes _ => "Bytes"

def matcher : Literal → Matcher
  | string s => .string s
  | byte b => .oneOf [b]
  | bytes bs => .bytes bs

def form : Literal → String
  | string s => Text.applied "Str" [Text.quote s]
  | byte b => Text.applied "Byte" [toString b.toNat]
  | bytes bs => Text.applied "Bytes" [Text.octets bs]

end Literal

-- The limit is the number of repetitions that one `many` may try.
structure Env where
  limit : Nat
  rule : String → Parser

inductive Grammar
  | matcher (m : Matcher)
  | literal (l : Literal)
  -- Runs as the grammar inside, but is not a literal even if that is one.
  | boxed (g : Grammar)
  | seq (gs : List Grammar)
  | any (gs : List Grammar)
  | maybe (g : Grammar)
  | many (g : Grammar)
  | map (g : Grammar) (f : Node → Node)
  | rule (name : String)
  -- A foreign parser. It may run grammars itself, hence the environment.
  | routine (r : Env → Parser)

namespace Grammar

def label : Grammar → String
  | literal l => l.label
  | _ => "Parser"

def signature (kind : String) (parts : List Grammar) : String :=
  Text.applied kind (parts.map label)

mutual

def parser (env : Env) : Grammar → Parser
  | matcher m => m.parser
  | literal l => l.matcher.parser
  | boxed g => g.parser env
  | seq gs => Parser.seq (signature "Seq" gs) (parsers env gs)
  | any gs => Parser.any (signature "Any" gs) (parsers env gs)
  | maybe g => Parser.maybe (signature "Maybe" [g]) (g.parser env)
  | many g => Parser.many env.limit (signature "Many" [g]) (g.parser env)
  | map g f => Parser.map f (g.parser env)
  | rule name => Parser.leaf (env.rule name)
  | routine r => Parser.leaf (r env)

def parsers (env : Env) : List Grammar → List Parser
  | [] => []
  | g :: gs => g.parser env :: parsers env gs

end

theorem parsers_eq_map {env : Env} {gs : List Grammar} : parsers env gs = gs.map (parser env) := by
  induction gs with
  | nil => rfl
  | cons g gs ih => rw [parsers, ih, List.map_cons]

def literal? : Grammar → Option Literal
  | literal l => some l
  | _ => none

-- A literal has no name, although its matcher has one.
def name? : Grammar → Option String
  | matcher m => m.name?
  | seq gs => some (signature "Seq" gs)
  | any gs => some (signature "Any" gs)
  | maybe g => some (signature "Maybe" [g])
  | many g => some (signature "Many" [g])
  | _ => none

def form : Grammar → String
  | matcher m => m.form
  | literal l => l.form
  | boxed g => g.form
  | seq gs => listForm "Seq" (signature "Seq" gs) gs.length
  | any gs => listForm "Any" (signature "Any" gs) gs.length
  | maybe g => Text.record "Maybe" [("name", Text.quote (signature "Maybe" [g]))]
  | many g => Text.record "Many" [("name", Text.quote (signature "Many" [g]))]
  | map g _ => Text.record "Map" [("parser", g.form), ("mapper", Text.quote "<function>")]
  | rule _ => functionForm
  | routine _ => functionForm
where
  listForm (kind name : String) (length : Nat) : String :=
    Text.record kind [("name", Text.quote name), ("len", toString length)]
  functionForm : String :=
    Text.record "FnParser" [("f", Text.quote "<function>")]

-- How a grammar is shown as a part of another.
def partForm : Grammar → String
  | literal l => Text.applied "Literal" [l.form]
  | _ => Text.applied "Operation" ["<parser>"]

end Grammar

abbrev Rules :=
  List (String × Grammar)

namespace Rules

-- A name without a rule matches nothing.
def find (rules : Rules) (name : String) : Grammar :=
  (rules.lookup name).getD (.any [])

-- No chain of rules that call each other may grow longer than the depth.
def env (rules : Rules) (limit : Nat) : Nat → Env
  | 0 => { limit := limit, rule := fun _ _ => Run.exhausted }
  | depth + 1 =>
    { limit := limit, rule := fun name => (rules.find name).parser (rules.env limit depth) }

end Rules
end Backtrack
