import Backtrack.Text.Basic

namespace Backtrack

-- The payload of a leaf: bytes taken from the input, or a text of the grammar's own.
inductive Value
  | token (bytes : List UInt8)
  | text (text : String)
  deriving DecidableEq

-- A node starts as an empty slot. A parser that succeeds fills it with a leaf or with a branch of
-- the nodes of its parts.
inductive Node
  | empty
  | leaf (value : Value)
  | branch (children : List Node)

namespace Value

def bytes : Value → List UInt8
  | token bs => bs
  | text s => Text.utf8 s

def form : Value → String
  | token bs => Text.applied "Token" [Text.octets bs]
  | text s => Text.applied "Text" [Text.quote s]

end Value

namespace Node

def isEmpty : Node → Bool
  | empty => true
  | _ => false

def value? : Node → Option Value
  | leaf v => some v
  | _ => none

def token? : Node → Option (List UInt8)
  | leaf (.token bs) => some bs
  | _ => none

def text? : Node → Option String
  | leaf (.text s) => some s
  | _ => none

def children? : Node → Option (List Node)
  | branch ns => some ns
  | _ => none

-- Only a branch has children.
def children (n : Node) : List Node :=
  n.children?.getD []

mutual

-- The bytes of all leaves, from left to right.
def bytes : Node → List UInt8
  | empty => []
  | leaf v => v.bytes
  | branch ns => bytesOfAll ns

def bytesOfAll : List Node → List UInt8
  | [] => []
  | n :: ns => n.bytes ++ bytesOfAll ns

end

@[simp]
theorem bytes_empty : empty.bytes = [] := by
  rw [bytes]

@[simp]
theorem bytes_leaf {v : Value} : (leaf v).bytes = v.bytes := by
  rw [bytes]

theorem bytesOfAll_eq_flatMap {ns : List Node} : bytesOfAll ns = ns.flatMap bytes := by
  induction ns with
  | nil => rw [bytesOfAll, List.flatMap_nil]
  | cons n ns ih => rw [bytesOfAll, List.flatMap_cons, ih]

@[simp]
theorem bytes_branch {ns : List Node} : (branch ns).bytes = ns.flatMap bytes := by
  rw [bytes, bytesOfAll_eq_flatMap]

mutual

def decEq : (m n : Node) → Decidable (m = n)
  | empty, empty => .isTrue rfl
  | leaf v, leaf w => decidable_of_iff (v = w) (by simp)
  | branch ms, branch ns =>
    have := decEqAll ms ns
    decidable_of_iff (ms = ns) (by simp)
  | empty, leaf _ | empty, branch _ | leaf _, empty | leaf _, branch _ | branch _, empty
  | branch _, leaf _ => .isFalse (by simp)

def decEqAll : (ms ns : List Node) → Decidable (ms = ns)
  | [], [] => .isTrue rfl
  | m :: ms, n :: ns =>
    have := decEq m n
    have := decEqAll ms ns
    decidable_of_iff (m = n ∧ ms = ns) (by simp)
  | [], _ :: _ | _ :: _, [] => .isFalse (by simp)

end

instance : DecidableEq Node :=
  decEq

mutual

def form : Node → String
  | empty => "Empty"
  | leaf v => Text.applied "Leaf" [v.form]
  | branch ns => Text.applied "Branch" [Text.list (forms ns)]

def forms : List Node → List String
  | [] => []
  | n :: ns => n.form :: forms ns

end

-- A value replaces any children and children replace any value, so the last edit wins.
inductive Edit
  | replace (node : Node)
  | setValue (value : Value)
  | setChildren (children : List Node)
  | wrap
  | adopt (child : Node)

def Edit.apply (n : Node) : Edit → Node
  | .replace m => m
  | .setValue v => leaf v
  | .setChildren ns => branch ns
  | .wrap => branch [n]
  | .adopt child => branch (n.children ++ [child])

-- The functions that a grammar can apply to what it has matched by name.
inductive Mapper
  | identity
  | wrap
  -- A text leaf of the bytes below the node, if they are valid UTF-8.
  | text
  | constant (node : Node)
  | default (node : Node)
  | first
  | count
  | flatten

-- What a node amounts to among its siblings when it is opened up.
def splice : Node → List Node
  | empty => []
  | branch ns => ns
  | n@(leaf _) => [n]

def Mapper.apply : Mapper → Node → Node
  | .identity, n => n
  | .wrap, n => branch [n]
  | .text, n =>
    match String.fromUTF8? ⟨n.bytes.toArray⟩ with
    | some s => leaf (.text s)
    | none => n
  | .constant m, _ => m
  | .default m, n => if n.isEmpty then m else n
  | .first, n => n.children.headD empty
  | .count, branch ns => leaf (.text (toString ns.length))
  | .count, n => n
  | .flatten, branch ns => branch (ns.flatMap splice)
  | .flatten, n => n

end Node
end Backtrack
