import Backtrack.Proofs.Meaning.Failures
import Backtrack.Proofs.Repair

namespace Backtrack

theorem Matcher.cursor_eq_of_lt {m : Matcher} {slot : Node} {c : Cursor} {r : Reply Answer}
    (hr : (m.parser slot).reply? c = some r) (h : c.remaining < m.width) : r.cursor = c := by
  rw [m.reply?_parser_of_lt h] at hr
  cases hr
  rfl

namespace Grammar

-- The matcher, the combinator or the leaf below all boxes and mappings, which do not touch the
-- cursor themselves.
def core : Grammar → Grammar
  | boxed g => g.core
  | map g _ => g.core
  | g => g

variable {g : Grammar} {env : Env} {slot node : Node} {c : Cursor} {r : Reply Answer} {e : Failure}

theorem cursor_eq_of_failed (hg : g.leaves = []) (hc : c.Valid)
    (hr : (g.parser env slot).reply? c = some r) (hv : r.value = .failed e node) :
    match g.core.matcher? with
    | some m => c.remaining < m.width → r.cursor = c
    | none => r.cursor = { c with window := 0 } := by
  have ht {gs : List Grammar} (hgs : ∀ g ∈ gs, g.leaves = []) : ∀ p ∈ parsers env gs, p.Tidy := by
    rw [parsers_eq_map]
    exact List.forall_mem_map.mpr fun g hm => (parser_lawful_of_leaves_eq_nil (hgs g hm)).tidy
  induction g, hg using leafless_induction generalizing r
  case matcher  => exact Matcher.cursor_eq_of_lt hr
  case literal  => exact Matcher.cursor_eq_of_lt hr
  case boxed hi => exact hi hr hv
  case seq hg _ => exact (Parser.Tidy.seq (ht fun _ => leaves_eq_nil_of_mem_parts hg) hc hr hv).left
  case any hg _ => exact Parser.Tidy.any (ht fun _ => leaves_eq_nil_of_mem_parts hg) hc hr hv
  case many hg _ =>
    exact ((parser_lawful_of_leaves_eq_nil hg).tidy.many_of_failed hc hr hv).left
  case maybe =>
    obtain ⟨_, _, _, _, rfl⟩ | ⟨_, _, _, _, _, rfl⟩ := Parser.reply?_maybe_eq_some_iff.mp hr
    all_goals cases hv
  case map hi =>
    obtain ⟨_, _, _, _, rfl⟩ | ⟨_, _, _, _, hs, rfl⟩ := Parser.reply?_map_eq_some_iff.mp hr
    case inl => cases hv
    case inr => exact hi hs hv

-- A failure leaves the position, the open transactions and the slot as they were. A matcher that
-- finds too little input leaves the window as well. A combinator that fails leaves none at all:
-- there is nothing in the buffer, and an advance after the failure does not move.
theorem cursor_after_failure (hg : g.leaves = []) (hc : c.Valid)
    (hr : (g.parser env slot).reply? c = some r) (hv : r.value = .failed e node) :
    r.cursor.position = c.position ∧ r.cursor.saved = c.saved ∧ node = slot ∧
      match g.core.matcher? with
      | some m => c.remaining < m.width → r.cursor = c
      | none => r.cursor = { c with window := 0 } ∧ r.cursor.buffer = [] ∧
          r.cursor.advance = r.cursor := by
  have hl : r.Lawful slot c := parser_lawful_of_leaves_eq_nil hg hc hr
  simp only [Reply.Lawful, hv] at hl
  obtain ⟨hp, hs, hn⟩ := hl
  refine ⟨hp, hs, hn, ?_⟩
  have hw := cursor_eq_of_failed hg hc hr hv
  split at hw
  case h_1 => exact hw
  case h_2 =>
    have hz : r.cursor.window = 0 := congrArg Cursor.window hw
    exact ⟨hw, Cursor.buffer_of_window_eq_zero hz, Cursor.advance_of_window_eq_zero hz⟩

theorem cursor_after_failure_of_pair :
    let env : Env := { limit := 4, rule := fun _ _ => Run.exhausted }
    let pair : Grammar := .map (.seq [.literal (.byte 1), .literal (.byte 9)]) id
    let long : Grammar := .boxed (.literal (.bytes [1, 2, 3]))
    let c : Cursor := { data := [0, 1, 2], position := 1, saved := [0], window := 2 }
    (∃ r e, (pair.parser env .empty).reply? c = some r ∧ r.value = .failed e .empty ∧
      r.cursor = { c with window := 0 } ∧ r.cursor.advance = r.cursor) ∧
    ∃ r e, (long.parser env .empty).reply? c = some r ∧ r.value = .failed e .empty ∧
      r.cursor = c := by
  intro env pair long c
  have hc : c.Valid := by decide
  constructor
  case left =>
    let e : Failure := .within "Seq(Byte, Byte)" "element 1 failed" 1
      ((Matcher.oneOf [9]).rejection [2] 2)
    have h : ((pair.parser env .empty).reply? c).map (·.value) = some (.failed e .empty) := by
      decide +kernel
    have ⟨r, hr, hv⟩ := Option.map_eq_some_iff.mp h
    have ⟨_, _, _, hw, _, ha⟩ := cursor_after_failure rfl hc hr hv
    exact ⟨r, e, hr, hv, hw, ha⟩
  case right =>
    have h : ((long.parser env .empty).reply? c).map (·.value) =
        some (.failed (.insufficient 3 2 1) .empty) := by
      decide +kernel
    have ⟨r, hr, hv⟩ := Option.map_eq_some_iff.mp h
    have ⟨_, _, _, hw⟩ := cursor_after_failure rfl hc hr hv
    exact ⟨r, _, hr, hv, hw (by decide)⟩

-- With two bytes validated, a choice whose only alternative fails: nothing is validated after it.
theorem failed_choice_clears_window :
    let env : Env := { limit := 4, rule := fun _ _ => Run.exhausted }
    let g : Grammar := .any [.literal (.byte 9)]
    let c : Cursor := { data := [1, 2], position := 0, saved := [], window := 2 }
    g.leaves = [] ∧ c.Valid ∧ c.buffer = [1, 2] ∧
      ∃ r e, (g.parser env .empty).reply? c = some r ∧ r.value = .failed e .empty ∧
        r.cursor ≠ c ∧ r.cursor.buffer = [] := by
  intro env g c
  let e : Failure := .rejected "Any(Byte)" "no alternative matched" 0
  have h : ((g.parser env .empty).reply? c).map (fun r => (r.value, r.cursor)) =
      some (.failed e .empty, { c with window := 0 }) := by
    decide +kernel
  have ⟨r, hr, h⟩ := Option.map_eq_some_iff.mp h
  have ⟨hv, hw⟩ := Prod.mk.inj h
  refine ⟨rfl, by decide, rfl, r, e, hr, hv, ?ne, ?buffer⟩
  all_goals rw [hw]
  case ne     => decide
  case buffer => rfl

end Grammar
end Backtrack
