import Backtrack.Matcher
import Backtrack.Parser

namespace Backtrack

namespace Run

variable {c : Cursor}

@[simp]
theorem reply?_push : push.reply? c = some ⟨(), c.push, [.op .push c]⟩ :=
  rfl

@[simp]
theorem reply?_pop : pop.reply? c = some ⟨(), c.pop, [.op .pop c]⟩ :=
  rfl

@[simp]
theorem reply?_commit : commit.reply? c = some ⟨(), c.commit, [.op .commit c]⟩ :=
  rfl

@[simp]
theorem reply?_advance : advance.reply? c = some ⟨(), c.advance, [.op .advance c]⟩ :=
  rfl

end Run

namespace Parser

open Run (reply?_bind)

variable {p : Parser} {ps : List Parser} {name : String} {i limit : Nat} {f : Node → Node}
variable {slot : Node} {c : Cursor}

-- What the reply of a parser tells about the replies of those inside.
theorem reply?_leaf_eq_some_iff {r : Reply Answer} :
    (p.leaf slot).reply? c = some r ↔
      ∃ s, (p slot).reply? c = some s ∧
        r = { s with journal := [.leaf c.depth s.cursor.depth s.journal] } := by
  simp only [leaf, Run.reply?_leaf, Option.map_eq_some_iff, @eq_comm _ r]

theorem reply?_map_eq_some_iff {r : Reply Answer} :
    (map f p slot).reply? c = some r ↔
      (∃ node c₁ es, (p slot).reply? c = some ⟨.matched node, c₁, es⟩ ∧
        r = ⟨.matched (f node), c₁, es⟩) ∨
      (∃ e node c₁ es, (p slot).reply? c = some ⟨.failed e node, c₁, es⟩ ∧
        r = ⟨.failed e node, c₁, es⟩) := by
  rcases hp : (p slot).reply? c with _ | ⟨_ | _, c₁, es⟩ <;>
    simp [map, reply?_bind, hp, and_assoc, @eq_comm _ r]

theorem reply?_elements_cons_eq_some_iff {r : Reply (Except (Nat × Failure) (List Node))} :
    (elements i (p :: ps)).reply? c = some r ↔
      (∃ e node c₁ es, (p .empty).reply? c = some ⟨.failed e node, c₁, es⟩ ∧
        r = ⟨.error (i, e), c₁, es⟩) ∨
      (∃ node c₁ es s, (p .empty).reply? c = some ⟨.matched node, c₁, es⟩ ∧
        (elements (i + 1) ps).reply? c₁ = some s ∧
        r = ⟨s.value.map (node :: ·), s.cursor, es ++ s.journal⟩) := by
  rcases hp : (p .empty).reply? c with _ | ⟨node | _, c₁, es⟩
  case some.matched =>
    rcases hs : (elements (i + 1) ps).reply? c₁ with _ | ⟨_ | _, c₂, es₂⟩ <;>
      simp [elements, reply?_bind, hp, hs, Except.map, and_assoc, @eq_comm _ r]
  all_goals simp [elements, reply?_bind, hp, and_assoc, @eq_comm _ r]

theorem reply?_seq_eq_some_iff {r : Reply Answer} :
    (seq name ps slot).reply? c = some r ↔
      (∃ nodes c₁ es, (elements 0 ps).reply? c.push = some ⟨.ok nodes, c₁, es⟩ ∧
        r = ⟨.matched (.branch nodes), c₁.commit, .op .push c :: es ++ [.op .commit c₁]⟩) ∨
      (∃ i e c₁ es, (elements 0 ps).reply? c.push = some ⟨.error (i, e), c₁, es⟩ ∧
        r = ⟨.failed (.within name ("element " ++ toString i ++ " failed") c₁.pop.position e) slot,
          c₁.pop, .op .push c :: es ++
            [.op .pop c₁, .notice (.sequenceRolledBack name i c₁.pop.position)]⟩) := by
  rcases hp : (elements 0 ps).reply? c.push with _ | ⟨⟨i, e⟩ | _, c₁, es⟩ <;>
    simp [seq, reply?_bind, hp, and_assoc, @eq_comm _ r]

theorem reply?_firstOf_cons_eq_some_iff {r : Reply (Except Node Node)} :
    (firstOf (p :: ps) slot).reply? c = some r ↔
      (∃ node c₁ es, (p slot).reply? c = some ⟨.matched node, c₁, es⟩ ∧ r = ⟨.ok node, c₁, es⟩) ∨
      (∃ e node c₁ es s, (p slot).reply? c = some ⟨.failed e node, c₁, es⟩ ∧
        (firstOf ps node).reply? c₁ = some s ∧ r = { s with journal := es ++ s.journal }) := by
  rcases hp : (p slot).reply? c with _ | ⟨_ | _, c₁, es⟩ <;>
    simp [firstOf, reply?_bind, hp, and_assoc, @eq_comm _ r]

theorem reply?_any_eq_some_iff {r : Reply Answer} :
    (any name ps slot).reply? c = some r ↔
      (∃ node c₁ es, (firstOf ps slot).reply? c.push = some ⟨.ok node, c₁, es⟩ ∧
        r = ⟨.matched node, c₁.commit, .op .push c :: es ++ [.op .commit c₁]⟩) ∨
      (∃ node c₁ es, (firstOf ps slot).reply? c.push = some ⟨.error node, c₁, es⟩ ∧
        r = ⟨.failed (.rejected name "no alternative matched" c₁.pop.position) node, c₁.pop,
          .op .push c :: es ++ [.op .pop c₁, .notice (.noAlternative name c₁.pop.position)]⟩) := by
  rcases hp : (firstOf ps slot).reply? c.push with _ | ⟨_ | _, c₁, es⟩ <;>
    simp [any, reply?_bind, hp, and_assoc, @eq_comm _ r]

theorem reply?_maybe_eq_some_iff {r : Reply Answer} :
    (maybe name p slot).reply? c = some r ↔
      (∃ node c₁ es, (p slot).reply? c.push = some ⟨.matched node, c₁, es⟩ ∧
        r = ⟨.matched node, c₁.commit, .op .push c :: es ++ [.op .commit c₁]⟩) ∨
      (∃ e node c₁ es, (p slot).reply? c.push = some ⟨.failed e node, c₁, es⟩ ∧
        r = ⟨.matched node, c₁.pop,
          .op .push c :: es ++ [.op .pop c₁, .notice (.optionalSkipped name e)]⟩) := by
  rcases hp : (p slot).reply? c.push with _ | ⟨_ | _, c₁, es⟩ <;>
    simp [maybe, reply?_bind, hp, and_assoc, @eq_comm _ r]

theorem reply?_repetitions_succ_eq_some_iff {r : Reply (List Node)} :
    (repetitions name p (limit + 1)).reply? c = some r ↔
      (∃ e node c₁ es, (p .empty).reply? c.push = some ⟨.failed e node, c₁, es⟩ ∧
        r = ⟨[], c₁.pop, .op .push c :: es ++ [.op .pop c₁]⟩) ∨
      (∃ node c₁ es, (p .empty).reply? c.push = some ⟨.matched node, c₁, es⟩ ∧
        c₁.position = c.position ∧
        r = ⟨[], c₁.pop,
          .op .push c :: es ++ [.op .pop c₁, .notice (.zeroWidth name c.position)]⟩) ∨
      (∃ node c₁ es s, (p .empty).reply? c.push = some ⟨.matched node, c₁, es⟩ ∧
        c₁.position ≠ c.position ∧
        (repetitions name p limit).reply? c₁.commit = some s ∧
        r = ⟨node :: s.value, s.cursor, .op .push c :: es ++ .op .commit c₁ :: s.journal⟩) := by
  rcases hp : (p .empty).reply? c.push with _ | ⟨node | _, c₁, es⟩
  case some.matched =>
    by_cases hc : c₁.position = c.position <;>
      rcases hs : (repetitions name p limit).reply? c₁.commit <;>
      simp [repetitions, reply?_bind, hp, hc, hs, and_assoc, @eq_comm _ r]
  all_goals simp [repetitions, reply?_bind, hp, and_assoc, @eq_comm _ r]

theorem reply?_many_eq_some_iff {r : Reply Answer} :
    (many limit name p slot).reply? c = some r ↔
      (∃ e node c₁ es, (p .empty).reply? c.push = some ⟨.failed e node, c₁, es⟩ ∧
        r = ⟨.failed (.within name "expected at least one match" c₁.pop.position e) slot, c₁.pop,
          .op .push c :: es ++ [.op .pop c₁]⟩) ∨
      (∃ node c₁ es s, (p .empty).reply? c.push = some ⟨.matched node, c₁, es⟩ ∧
        (repetitions name p limit).reply? c₁.commit = some s ∧
        r = ⟨.matched (.branch (node :: s.value)), s.cursor,
          .op .push c :: es ++ .op .commit c₁ :: s.journal⟩) := by
  rcases hp : (p .empty).reply? c.push with _ | ⟨node | _, c₁, es⟩
  case some.matched =>
    rcases hs : (repetitions name p limit).reply? c₁.commit <;>
      simp [many, reply?_bind, hp, hs, and_assoc, @eq_comm _ r]
  all_goals simp [many, reply?_bind, hp, and_assoc, @eq_comm _ r]

end Parser

namespace Matcher

variable {m : Matcher} {slot : Node} {c : Cursor}

theorem reply?_parser_of_lt (h : c.remaining < m.width) :
    (m.parser slot).reply? c =
      some ⟨.failed (.insufficient m.width c.remaining c.position) slot, c,
        [.op (.request m.width) c]⟩ := by
  simp [parser, Run.reply?_bind, Cursor.shortage?, Cursor.request, h]

theorem reply?_parser_of_le (h : m.width ≤ c.remaining) :
    (m.parser slot).reply? c =
      if m.accepts (c.request m.width).buffer then
        some ⟨.matched (.leaf (m.value (c.request m.width).buffer)), (c.request m.width).advance,
          [.op (.request m.width) c, .op .advance (c.request m.width)]⟩
      else
        some ⟨.failed (m.rejection (c.request m.width).buffer c.position) slot, c.request m.width,
          [.op (.request m.width) c]⟩ := by
  simp only [parser, Run.reply?_bind, Run.reply?_request, Cursor.shortage?_eq_none_iff.mpr h]
  split <;> simp [Run.reply?_bind, Cursor.request_preserves_position, *]

end Matcher
end Backtrack
