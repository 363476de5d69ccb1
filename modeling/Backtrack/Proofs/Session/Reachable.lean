import Mathlib.Algebra.Group.Nat.Defs
import Backtrack.Script
import Backtrack.Session
import Backtrack.Proofs.Cursor.Valid
import Backtrack.Proofs.Parser.Replies

namespace Backtrack

namespace Cursor

variable {c : Cursor}

theorem buffer_request_one (h : 1 ≤ c.remaining) :
    ∃ b, c.data[c.position]? = some b ∧ (c.request 1).buffer = [b] := by
  have hp : c.position < c.data.length := Nat.lt_of_sub_pos h
  refine ⟨c.data[c.position], List.getElem?_eq_getElem hp, ?_⟩
  have hb : { c with window := 1 }.buffer = (c.data.drop c.position).take 1 := buffer_of_le hp
  rw [request_of_le h, hb, List.drop_eq_getElem_cons hp]
  rfl

end Cursor

theorem Matcher.failed_of_width_eq_one {m : Matcher} {slot node : Node} {e : Failure} {c : Cursor}
    {r : Reply Answer} (hm : m.width = 1) (h : (m.parser slot).reply? c = some r)
    (he : r.value = .failed e node) :
    e = .insufficient 1 c.remaining c.position ∨
      ∃ b, c.data[c.position]? = some b ∧ e = m.rejection [b] c.position := by
  by_cases hw : m.width ≤ c.remaining
  case neg =>
    rw [m.reply?_parser_of_lt (Nat.lt_of_not_le hw), hm] at h
    cases h
    cases he
    exact .inl rfl
  case pos =>
    have ⟨b, hb, hw'⟩ := Cursor.buffer_request_one (hm ▸ hw)
    rw [m.reply?_parser_of_le hw, hm, hw'] at h
    split at h <;> cases h <;> cases he
    exact .inr ⟨b, hb, rfl⟩

namespace Session

-- The cursor of the session, the copies that were kept, and every cursor on the way on which an
-- operation was done.
def cursors (s : Session) : List Cursor :=
  s.cursor :: s.kept.map Prod.snd ++ Journal.cursors s.journal

variable {s s' : Session} {motive : Cursor → Prop}

theorem forall_cursors_iff :
    (∀ c ∈ s.cursors, motive c) ↔
      motive s.cursor ∧ (∀ k ∈ s.kept, motive k.2) ∧ ∀ c ∈ Journal.cursors s.journal, motive c := by
  simp only [cursors, List.mem_append, List.mem_cons, List.mem_map]
  grind

variable (step : ∀ {c o}, motive c → motive (c.apply o))

include step in
theorem run_preserves {α : Type} {x : Run α} {a : α} (h : s.run x = some (a, s'))
    (hs : ∀ c ∈ s.cursors, motive c) : ∀ c ∈ s'.cursors, motive c := by
  have ⟨r, hr, he⟩ := Option.map_eq_some_iff.mp h
  cases he
  have ⟨hc, hk, hj⟩ := forall_cursors_iff.mp hs
  have hp := x.replays hr
  refine forall_cursors_iff.mpr ⟨hp.preserves step hc, hk, ?_⟩
  simp only [Journal.cursors_append, List.mem_append]
  rintro d (hd | hd)
  · exact hj d hd
  · exact hp.forall_cursors step hc d hd

include step in
theorem act_preserves {o : Cursor.Op} {a : Outcome} (h : s.act o = some (a, s'))
    (hs : ∀ c ∈ s.cursors, motive c) : ∀ c ∈ s'.cursors, motive c := by
  have ⟨_, hr, he⟩ := Option.map_eq_some_iff.mp h
  cases he
  exact run_preserves step hr hs

theorem restore_preserves {id : Nat} (hs : ∀ c ∈ s.cursors, motive c) :
    motive ((s.kept.lookup id).getD s.cursor) := by
  have ⟨hc, hk, _⟩ := forall_cursors_iff.mp hs
  cases h : s.kept.lookup id
  case none   => exact hc
  case some d =>
    have ⟨_, _, hm⟩ := List.lookup_eq_some_iff.mp h
    exact hk (id, d) (by simp [hm])

include step in
theorem step_preserves {env : Env} {t : Step} {o : Outcome} (h : s.step env t = some (o, s'))
    (hs : ∀ c ∈ s.cursors, motive c) : ∀ c ∈ s'.cursors, motive c := by
  have ⟨hc, hk, hj⟩ := forall_cursors_iff.mp hs
  cases t
  case push    => exact act_preserves step h hs
  case pop     => exact act_preserves step h hs
  case commit  => exact act_preserves step h hs
  case advance => exact act_preserves step h hs
  case source | describe | fill =>
    cases h
    exact hs
  case keep id =>
    cases h
    exact forall_cursors_iff.mpr ⟨hc, List.forall_mem_cons.mpr ⟨hc, hk⟩, hj⟩
  case restore id =>
    cases h
    exact forall_cursors_iff.mpr ⟨restore_preserves hs, hk, hj⟩
  case request n =>
    simp only [Session.step, Option.bind_eq_bind, Option.bind_eq_some_iff] at h
    have ⟨_, hr, he⟩ := h
    cases he
    exact run_preserves step hr hs
  case parse g =>
    have ⟨⟨a, _⟩, hr, he⟩ := Option.bind_eq_some_iff.mp h
    have h₁ := run_preserves step hr hs
    cases a <;> cases he <;> exact h₁

include step in
theorem after?_preserves {env : Env} {ts : List Step} (h : s.after? env ts = some s')
    (hs : ∀ c ∈ s.cursors, motive c) : ∀ c ∈ s'.cursors, motive c := by
  induction ts generalizing s
  case nil =>
    cases h
    exact hs
  case cons t ts hi =>
    have ⟨_, ht, h⟩ := Option.bind_eq_some_iff.mp h
    exact hi h (step_preserves step ht hs)

variable {data : List UInt8} {env : Env} {ts : List Step}

theorem cursors_valid (h : (start data).after? env ts = some s) :
    ∀ c ∈ s.cursors, c.data = data ∧ c.Valid := by
  refine after?_preserves (fun ⟨hd, hv⟩ => ⟨?_, hv.apply⟩) h ?_
  · exact Cursor.apply_preserves_data.trans hd
  · exact List.forall_mem_singleton.mpr ⟨rfl, .start⟩

-- The operations `os` stand for what a parser has done that has not returned yet.
theorem cursors_in_bounds (h : (start data).after? env ts = some s) {c : Cursor}
    (hc : c ∈ s.cursors) (os : List Cursor.Op) :
    let d := c.applyAll os
    d.data = data ∧
    -- The saved positions are in order up to the position, and the window fits.
    (d.position :: d.saved).Pairwise (· ≥ ·) ∧ d.position + d.window ≤ data.length ∧
    -- No input is longer than half the range of a machine word.
    (data.length < 2 ^ 63 → d.position + d.window < 2 ^ 64) ∧
    d.buffer.length = d.window ∧ (d.remaining : Int) = data.length - d.position ∧
    -- A matcher of one byte that turns the input down has a byte in hand.
    ∀ (m : Matcher) (slot node : Node) (e : Failure) (r : Reply Answer), m.width = 1 →
      (m.parser slot).reply? d = some r → r.value = .failed e node →
        e = .insufficient 1 d.remaining d.position ∨
        ∃ b, data[d.position]? = some b ∧ e = m.rejection [b] d.position := by
  intro d
  have ⟨hd, hv⟩ := cursors_valid h c hc
  replace hd : d.data = data := Cursor.applyAll_preserves_data.trans hd
  replace hv : d.Valid := hv.applyAll
  have hf := hd ▸ hv.fits
  have hr := hd ▸ hv.position_add_remaining
  refine ⟨hd, List.pairwise_cons.mpr ⟨hv.behind, hv.ordered⟩, hf, ?_, hv.length_buffer, ?_, ?_⟩
  · omega
  · omega
  · intro m slot node e r hm hr he
    exact hd ▸ Matcher.failed_of_width_eq_one hm hr he

theorem cursors_in_bounds_of_breach :
    let breach := Script.grammar [.pop, .request 1, .advance, .push, .push, .fail Script.unfinished]
    let env : Env := { limit := 4, rule := fun _ _ => Run.exhausted }
    let ts := [.push, .keep 0, .request 2, .advance, .parse (.maybe breach), .keep 1, .restore 0,
      .pop, .pop, .restore 1]
    ∃ s, (start [1, 2, 3]).after? env ts = some s ∧
      s.cursor = { data := [1, 2, 3], position := 3, saved := [3, 0], window := 0 } ∧
      (s.cursor.position :: s.cursor.saved).Pairwise (· ≥ ·) ∧
      s.cursor.position + s.cursor.window ≤ 3 := by
  intro breach env ts
  have h : ((start [1, 2, 3]).after? env ts).map (·.cursor) =
      some { data := [1, 2, 3], position := 3, saved := [3, 0], window := 0 } := by
    decide +kernel
  have ⟨s, hs, hc⟩ := Option.map_eq_some_iff.mp h
  have ⟨_, ho, hf, _⟩ := cursors_in_bounds hs List.mem_cons_self []
  exact ⟨s, hs, hc, ho, hf⟩

end Session
end Backtrack
