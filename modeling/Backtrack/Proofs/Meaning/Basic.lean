import Backtrack.Proofs.Grammar.Parts

namespace Backtrack

-- The places of an input are those before each of its bytes and the one at its end.
abbrev Place (data : List UInt8) : Type :=
  Fin (data.length + 1)

abbrev Verdict (data : List UInt8) : Type :=
  Except Failure (Place data × Node)

-- What a grammar says of an input: from which place and slot to which place and node. There is no
-- cursor here, hence nothing to undo.
abbrev Meaning (data : List UInt8) : Type :=
  Place data → Node → Verdict data

namespace Matcher

def reads : Matcher → List UInt8 → Bool
  | byte, _ :: _ => true
  | oneOf values, b :: _ => values.isEmpty || values.contains b
  | byteRange lo hi, b :: _ => lo ≤ b && b ≤ hi
  | bytes expected, rest => expected.isPrefixOf rest
  | string expected, rest => (Text.utf8 expected).isPrefixOf rest
  | _, [] => false

theorem reads_iff {m : Matcher} {rest : List UInt8} :
    m.reads rest ↔ m.width ≤ rest.length ∧ m.accepts (rest.take m.width) := by
  have key (bs : List UInt8) :
      bs.isPrefixOf rest ↔ bs.length ≤ rest.length ∧ rest.take bs.length == bs := by
    rw [List.isPrefixOf_iff_prefix, beq_iff_eq, eq_comm]
    refine ⟨fun h => ⟨h.length_le, List.prefix_iff_eq_take.mp h⟩, fun h => ?_⟩
    exact List.prefix_iff_eq_take.mpr h.right
  cases m
  case bytes expected  => exact key expected
  case string expected => exact key (Text.utf8 expected)
  all_goals cases rest <;> simp [reads, width, accepts]

end Matcher

namespace Meaning

variable {data : List UInt8}

def matcher (m : Matcher) : Meaning data := fun i _ =>
  let rest := data.drop i
  if h : m.reads rest then
    have := (Matcher.reads_iff.mp h).left
    .ok (⟨i + m.width, by simp only [rest, List.length_drop] at this; omega⟩,
      .leaf (m.value (rest.take m.width)))
  else if rest.length < m.width then
    .error (.insufficient m.width rest.length i)
  else
    .error (m.rejection (rest.take m.width) i)

section

variable {m : Matcher} {i : Place data}

theorem matcher_of_lt (h : (data.drop i).length < m.width) (slot : Node) :
    matcher m i slot = .error (.insufficient m.width (data.drop i).length i) := by
  have hr : ¬m.reads (data.drop i) := fun hr => Nat.not_le.mpr h (Matcher.reads_iff.mp hr).left
  simp only [matcher, hr, Bool.false_eq_true, ↓reduceDIte, if_pos h]

theorem matcher_of_accepts (h : m.width ≤ (data.drop i).length)
    (ha : m.accepts ((data.drop i).take m.width)) (slot : Node) :
    ∃ j : Place data, j.val = i + m.width ∧
      matcher m i slot = .ok (j, .leaf (m.value ((data.drop i).take m.width))) := by
  have hr := Matcher.reads_iff.mpr ⟨h, ha⟩
  simp only [matcher, hr, ↓reduceDIte]
  exact ⟨_, rfl, rfl⟩

theorem matcher_of_not_accepts (h : m.width ≤ (data.drop i).length)
    (ha : ¬m.accepts ((data.drop i).take m.width)) (slot : Node) :
    matcher m i slot = .error (m.rejection ((data.drop i).take m.width) i) := by
  have hr : ¬m.reads (data.drop i) := fun hr => ha (Matcher.reads_iff.mp hr).right
  simp only [matcher, hr, Bool.false_eq_true, ↓reduceDIte, if_neg (Nat.not_lt.mpr h)]

end

def elements : Nat → List (Meaning data) → Place data →
    Except (Nat × Failure) (Place data × List Node)
  | _, [], i => .ok (i, [])
  | k, m :: ms, i =>
    match m i .empty with
    | .error e => .error (k, e)
    | .ok (j, node) => (elements (k + 1) ms j).map fun (l, nodes) => (l, node :: nodes)

def seq (name : String) (ms : List (Meaning data)) : Meaning data := fun i _ =>
  match elements 0 ms i with
  | .ok (j, nodes) => .ok (j, .branch nodes)
  | .error (k, e) => .error (.within name ("element " ++ toString k ++ " failed") i e)

def any (name : String) (ms : List (Meaning data)) : Meaning data := fun i slot =>
  match ms.findSome? fun m => (m i slot).toOption with
  | some (j, node) => .ok (j, node)
  | none => .error (.rejected name "no alternative matched" i)

def maybe (m : Meaning data) : Meaning data := fun i slot =>
  match m i slot with
  | .ok (j, node) => .ok (j, node)
  | .error _ => .ok (i, slot)

-- The matches that follow one another from the place on, each from an empty slot and each one
-- moving forward.
def repetitions (m : Meaning data) (i : Place data) : Place data × List Node :=
  match m i .empty with
  | .error _ => (i, [])
  | .ok (j, node) =>
    if i < j then
      let (k, nodes) := repetitions m j
      (k, node :: nodes)
    else
      (i, [])
termination_by data.length - i
decreasing_by
  have h : i.val < j.val := ‹i < j›
  omega

section

variable {m : Meaning data} {i j : Place data} {node : Node} {e : Failure}

theorem repetitions_of_error (h : m i .empty = .error e) : repetitions m i = (i, []) := by
  rw [repetitions, h]

theorem repetitions_of_lt (h : m i .empty = .ok (j, node)) (hj : i < j) :
    repetitions m i = ((repetitions m j).1, node :: (repetitions m j).2) := by
  rw [repetitions, h]
  simp [hj]

theorem repetitions_of_not_lt (h : m i .empty = .ok (j, node)) (hj : ¬i < j) :
    repetitions m i = (i, []) := by
  rw [repetitions, h]
  simp [hj]

end

def many (name : String) (m : Meaning data) : Meaning data := fun i _ =>
  match m i .empty with
  | .error e => .error (.within name "expected at least one match" i e)
  | .ok (j, node) =>
    let (k, nodes) := repetitions m j
    .ok (k, .branch (node :: nodes))

def map (f : Node → Node) (m : Meaning data) : Meaning data := fun i slot =>
  (m i slot).map fun (j, node) => (j, f node)

end Meaning

namespace Grammar

mutual

-- A foreign parser has no meaning of its own. It stands for a choice of nothing here.
def meaning (data : List UInt8) : Grammar → Meaning data
  | matcher m => Meaning.matcher m
  | literal l => Meaning.matcher l.matcher
  | boxed g => g.meaning data
  | seq gs => Meaning.seq (signature "Seq" gs) (meanings data gs)
  | any gs => Meaning.any (signature "Any" gs) (meanings data gs)
  | maybe g => Meaning.maybe (g.meaning data)
  | many g => Meaning.many (signature "Many" [g]) (g.meaning data)
  | map g f => Meaning.map f (g.meaning data)
  | rule _ | routine _ => Meaning.any "" []

def meanings (data : List UInt8) : List Grammar → List (Meaning data)
  | [] => []
  | g :: gs => g.meaning data :: meanings data gs

end

theorem meanings_eq_map {data : List UInt8} {gs : List Grammar} :
    meanings data gs = gs.map (meaning data) := by
  induction gs
  case nil          => rfl
  case cons g gs hi => rw [meanings, hi, List.map_cons]

end Grammar
end Backtrack
