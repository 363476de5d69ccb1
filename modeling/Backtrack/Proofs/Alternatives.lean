import Backtrack.Proofs.Repair

namespace Backtrack
namespace Parser

-- A parser that fails hands back its slot as it was. It may have moved the cursor.
def KeepsSlot (p : Parser) : Prop :=
  ∀ ⦃slot : Node⦄ ⦃c : Cursor⦄ ⦃r : Reply Answer⦄, c.Valid → (p slot).reply? c = some r →
    ∀ e node, r.value = .failed e node → node = slot

theorem Lawful.keepsSlot {p : Parser} (hp : p.Lawful) : p.KeepsSlot := by
  intro slot c r hc h e node hv
  have hl := hp hc h
  simp only [Reply.Lawful, hv] at hl
  exact hl.right.right

-- The parsers fail on the slot one after the other, each from where the one before it has stopped.
-- For each of them the list has the position at which it has started and that at which it has
-- stopped.
inductive Declines (slot : Node) : List Parser → Cursor → List (Nat × Nat) → Cursor → Prop
  | nil {c : Cursor} : Declines slot [] c [] c
  | cons {p : Parser} {ps : List Parser} {c c₁ d : Cursor} {e : Failure} {es : Journal}
    {moves : List (Nat × Nat)} :
    (p slot).reply? c = some ⟨.failed e slot, c₁, es⟩ → Declines slot ps c₁ moves d →
      Declines slot (p :: ps) c ((c.position, c₁.position) :: moves) d

variable {p : Parser} {ps : List Parser} {slot : Node} {c d : Cursor} {moves : List (Nat × Nat)}

namespace Declines

theorem data_eq (h : Declines slot ps c moves d) : d.data = c.data := by
  induction h
  case nil          => rfl
  case cons hr _ hi => exact hi.trans (Run.replays _ hr).data_eq

theorem saved_eq (hps : ∀ p ∈ ps, p.Tidy) (hc : c.Valid) (h : Declines slot ps c moves d) :
    d.saved = c.saved := by
  induction h
  case nil => rfl
  case cons hr _ hi =>
    have ⟨hp, hps⟩ := List.forall_mem_cons.mp hps
    exact (hi hps (Run.valid_of_reply? hr hc)).trans (hp hc hr)

theorem eq_of_position_eq (hps : ∀ p ∈ ps, p.Tidy) (hc : c.Valid)
    (h : Declines slot ps c moves d) (hq : d.position = c.position) :
    d = { c with window := d.window } := by
  have hs : d.saved = c.saved := h.saved_eq hps hc
  exact Cursor.ext h.data_eq hq hs rfl

theorem start_eq (h : Declines slot ps c moves d) :
    (moves.map Prod.fst ++ [d.position]).head? = some c.position := by
  cases h <;> rfl

theorem starts_eq_iff (h : Declines slot ps c moves d) :
    ((∀ m ∈ moves, m.1 = c.position) ∧ d.position = c.position) ↔ ∀ m ∈ moves, m.2 = m.1 := by
  induction h
  case nil => simp
  case cons c c₁ d _ _ moves _ h hi =>
    simp only [List.forall_mem_cons, true_and, ← hi]
    constructor
    case mp =>
      intro ⟨hs, hd⟩
      have hm := List.mem_of_head? h.start_eq
      have hq : c₁.position = c.position := by
        simp only [List.mem_append, List.mem_map, List.mem_singleton] at hm
        obtain ⟨m, hm, he⟩ | he := hm
        case inl => exact he.symm.trans (hs m hm)
        case inr => exact he.trans hd
      rw [hq]
      exact ⟨rfl, hs, hd⟩
    case mpr =>
      intro ⟨hq, hs⟩
      rwa [← hq]

theorem moves_eq (hps : ∀ p ∈ ps, p.Lawful) (hc : c.Valid) (h : Declines slot ps c moves d) :
    ∀ m ∈ moves, m.2 = m.1 := by
  induction h
  case nil => exact List.forall_mem_nil _
  case cons hr _ hi =>
    have ⟨hp, hps⟩ := List.forall_mem_cons.mp hps
    have ⟨hq, _⟩ := hp hc hr
    exact List.forall_mem_cons.mpr ⟨hq, hi hps (Run.valid_of_reply? hr hc)⟩

end Declines

theorem exists_declines {r : Reply (Except Node Node)} (hne : ps ≠ [])
    (hps : ∀ p ∈ ps, p.KeepsSlot) (hc : c.Valid) (h : (firstOf ps slot).reply? c = some r) :
    ∃ (k : Nat) (hk : k < ps.length) (moves : List (Nat × Nat)) (d : Cursor) (s : Reply Answer),
      Declines slot (ps.take k) c moves d ∧ (ps[k] slot).reply? d = some s ∧ r.cursor = s.cursor ∧
      ((∃ node, s.value = .matched node ∧ r.value = .ok node) ∨
        (k + 1 = ps.length ∧ ∃ e, s.value = .failed e slot ∧ r.value = .error slot)) := by
  induction ps generalizing c r
  case nil => exact absurd rfl hne
  case cons p ps hi =>
    have ⟨hp, hps⟩ := List.forall_mem_cons.mp hps
    obtain ⟨node, _, _, hr, rfl⟩ | ⟨e, node, c₁, _, t, hr, ht, rfl⟩ :=
      reply?_firstOf_cons_eq_some_iff.mp h
    case inl =>
      exact ⟨0, Nat.zero_lt_succ _, [], c, _, .nil, hr, rfl, .inl ⟨node, rfl, rfl⟩⟩
    case inr =>
      cases hp hc hr e node rfl
      by_cases hn : ps = []
      case pos =>
        cases hn
        cases ht
        exact ⟨0, Nat.zero_lt_succ _, [], c, _, .nil, hr, rfl, .inr ⟨rfl, e, rfl, rfl⟩⟩
      case neg =>
        have ⟨k, hk, moves, d, s, hd, hs, he, hv⟩ := hi hn hps (Run.valid_of_reply? hr hc) ht
        refine ⟨k + 1, Nat.succ_lt_succ hk, _, d, s, .cons hr hd, hs, he, hv.imp_right ?_⟩
        exact fun ⟨hl, hv⟩ => ⟨congrArg Nat.succ hl, hv⟩

-- All alternatives that are tried start where the choice began if and only if none that fails
-- before the last of them has moved. Then the choice does what the one that matches does from
-- there.
theorem alternatives_start_at_choice_iff {name : String} {r : Reply Answer} (hne : ps ≠ [])
    (hps : ∀ p ∈ ps, p.Tidy) (hks : ∀ p ∈ ps, p.KeepsSlot) (hc : c.Valid)
    (h : (any name ps slot).reply? c = some r) :
    ∃ (k : Nat) (hk : k < ps.length) (moves : List (Nat × Nat)) (d : Cursor) (s : Reply Answer),
      Declines slot (ps.take k) c.push moves d ∧ (ps[k] slot).reply? d = some s ∧
      ((∃ node, s.value = .matched node ∧ r.value = .matched node ∧
          r.cursor = s.cursor.commit) ∨
        (k + 1 = ps.length ∧ ∃ e e', s.value = .failed e slot ∧ r.value = .failed e' slot)) ∧
      ((∀ m ∈ moves, m.1 = c.position) ∧ d.position = c.position ↔ ∀ m ∈ moves, m.2 = m.1) ∧
      (d.position = c.position → d = { c.push with window := d.window }) := by
  obtain ⟨node, c₁, es, hr, rfl⟩ | ⟨node, c₁, es, hr, rfl⟩ := reply?_any_eq_some_iff.mp h
  all_goals
    have ⟨k, hk, moves, d, s, hd, hs, he, hv⟩ := exists_declines hne hks hc.push hr
    have ht : ∀ p ∈ ps.take k, p.Tidy := fun p hp => hps p (List.mem_of_mem_take hp)
    refine ⟨k, hk, moves, d, s, hd, hs, ?_, hd.starts_eq_iff, hd.eq_of_position_eq ht hc.push⟩
  case inl =>
    obtain ⟨n, hs, hn⟩ | ⟨_, _, _, hn⟩ := hv <;> cases hn
    exact .inl ⟨node, hs, rfl, congrArg Cursor.commit he⟩
  case inr =>
    obtain ⟨_, _, hn⟩ | ⟨hl, e, hs, hn⟩ := hv <;> cases hn
    exact .inr ⟨hl, e, _, hs, rfl⟩

theorem alternatives_start_at_choice_iff_of_pair :
    let env : Env := { limit := 4, rule := fun _ _ => Run.exhausted }
    let pair : Grammar := .seq [.literal (.byte 1), .literal (.byte 9)]
    let gs : List Grammar := [pair, .literal (.bytes [1, 2])]
    let c : Cursor := { data := [0, 1, 2], position := 1, saved := [0], window := 2 }
    ∃ r d s, (any "A" (Grammar.parsers env gs) .empty).reply? c = some r ∧
      d = { c.push with window := d.window } ∧
      (∃ p ∈ Grammar.parsers env gs, (p .empty).reply? d = some s) ∧
      s.value = .matched (.leaf (.token [1, 2])) ∧ r.cursor = s.cursor.commit ∧
      r.cursor.position = 3 := by
  intro env pair gs c
  have hl : ∀ p ∈ Grammar.parsers env gs, p.Lawful := by
    rw [Grammar.parsers_eq_map]
    refine List.forall_mem_map.mpr (List.forall_mem_cons.mpr ⟨?_, List.forall_mem_singleton.mpr ?_⟩)
    all_goals exact Grammar.parser_lawful_of_leaves_eq_nil rfl
  have h : ((any "A" (Grammar.parsers env gs) .empty).reply? c).map (fun r =>
      (r.value, r.cursor.position)) = some (.matched (.leaf (.token [1, 2])), 3) := by
    decide +kernel
  have ⟨r, hr, h⟩ := Option.map_eq_some_iff.mp h
  have ⟨hv, hp⟩ := Prod.mk.inj h
  have hc : c.Valid := by decide
  have hne : Grammar.parsers env gs ≠ [] := List.cons_ne_nil _ _
  have ⟨k, hk, moves, d, s, hd, hs, ha, hq, hw⟩ := alternatives_start_at_choice_iff hne
    (fun p hp => (hl p hp).tidy) (fun p hp => (hl p hp).keepsSlot) hc hr
  have hm := hd.moves_eq (fun p hp => hl p (List.mem_of_mem_take hp)) hc.push
  obtain ⟨node, hsv, hrv, he⟩ | ⟨_, _, _, _, hrv⟩ := ha <;> cases hv.symm.trans hrv
  exact ⟨r, d, s, hr, hw (hq.mpr hm).right, ⟨_, List.getElem_mem hk, hs⟩, hsv, he, hp⟩

-- The routine leaves the open transactions and its slot as they were, but not the position, so the
-- alternative after it starts one byte further on than the choice.
theorem any_passes_skipped_byte :
    let env : Env := { limit := 4, rule := fun _ _ => Run.exhausted }
    let stray := Script.parser env [.tryRequest 1, .advance, .fail Script.unfinished]
    let byte := Matcher.byte.parser
    let c : Cursor := .start [1, 2]
    (∀ p ∈ [stray, byte], p.Tidy) ∧ (∀ p ∈ [stray, byte], p.KeepsSlot) ∧ c.Valid ∧
      ((stray .empty).reply? c.push).map (fun r => r.cursor) =
        some { c.push with position := 1, window := 0 } ∧
      ((any "A" [stray, byte] .empty).reply? c).map (fun r => (r.value, r.cursor.position)) =
        some (.matched (.leaf (.token [2])), 2) ∧
      ((byte .empty).reply? c).map (fun r => (r.value, r.cursor.position)) =
        some (.matched (.leaf (.token [1])), 1) := by
  intro env stray byte c
  have ht : stray.Tidy := by
    intro slot d r _ h
    cases h
    exact Cursor.request_preserves_saved
  have hk : stray.KeepsSlot := by
    intro slot d r _ h e node hv
    cases h
    cases hv
    rfl
  have hl : byte.Lawful := Matcher.parser_lawful
  refine ⟨?tidy, ?keepsSlot, .start, ?stray, ?any, ?byte⟩
  case tidy      => exact List.forall_mem_cons.mpr ⟨ht, List.forall_mem_singleton.mpr hl.tidy⟩
  case keepsSlot => exact List.forall_mem_cons.mpr ⟨hk, List.forall_mem_singleton.mpr hl.keepsSlot⟩
  all_goals decide +kernel

end Parser
end Backtrack
