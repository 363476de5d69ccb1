import Mathlib.Algebra.BigOperators.Group.List.Basic
import Mathlib.Algebra.Ring.Int.Defs
import Backtrack.Script
import Backtrack.Proofs.Journal.Nested
import Backtrack.Proofs.Parse.Log

namespace Backtrack

-- Negative if the call has closed more transactions than it has opened.
def Entry.opened : Entry → Int
  | leaf entryDepth exitDepth _ => exitDepth - entryDepth
  | _ => 0

namespace Journal

-- Calls count whether or not they were undone later.
def opened (es : Journal) : Int :=
  (es.map Entry.opened).sum

variable {es es' : Journal} {c c₁ : Cursor}

@[simp]
theorem opened_nil : opened [] = 0 :=
  rfl

@[simp]
theorem opened_cons {e : Entry} : opened (e :: es) = e.opened + opened es :=
  List.sum_cons

@[simp]
theorem opened_append : opened (es ++ es') = opened es + opened es' := by
  simp [opened]

theorem Nested.depth_eq {call : Cursor → Journal → Cursor → Prop}
    (hcall : ∀ {c es c₁}, call c es c₁ → c.saved <:+ c₁.saved)
    (hd : ∀ {c es c₁}, call c es c₁ → (c₁.depth : Int) = c.depth + opened es)
    (h : Nested call c es c₁) : (c₁.depth : Int) = c.depth + opened es := by
  induction h
  case nil          => simp
  case request      => simp [Entry.opened, Cursor.depth, Cursor.request_preserves_saved]
  case advance      => simp [Entry.opened, Cursor.depth, Cursor.advance]
  case notice       => simp [Entry.opened]
  case call h       => exact hd h
  case append hi hj => rw [hj, hi, opened_append, Int.add_assoc]
  case undone c c₁ es h hi | kept c c₁ es h hi =>
    have hs := List.length_pos_of_ne_nil (h.saved_ne_nil hcall)
    simp only [Cursor.depth, Cursor.push, Cursor.pop_saved, Cursor.commit, List.length_cons,
      List.length_tail, opened_cons, opened_append, opened_nil, Entry.opened] at hi hs ⊢
    omega

end Journal

-- A call that closes only what it has opened. Its entry has the depths before and after.
structure Journal.Leaks (c : Cursor) (es : Journal) (c₁ : Cursor) : Prop where
  suffix : c.saved <:+ c₁.saved
  entry  : ∃ inner, es = [.leaf c.depth c₁.depth inner]

theorem Journal.Leaks.depth_eq {c c₁ : Cursor} {es : Journal} (h : Leaks c es c₁) :
    (c₁.depth : Int) = c.depth + opened es := by
  have ⟨inner, he⟩ := h.entry
  simp [he, Entry.opened]

-- The parser closes no transaction but those that it has opened.
def Parser.Retains (p : Parser) : Prop :=
  ∀ ⦃slot : Node⦄ ⦃c : Cursor⦄ ⦃r : Reply Answer⦄,
    c.Valid → (p slot).reply? c = some r → c.saved <:+ r.cursor.saved

theorem Parser.Retains.nests_leaf {p : Parser} (hp : p.Retains) : p.leaf.Nests Journal.Leaks := by
  intro slot c r hc h
  have ⟨s, hs, he⟩ := reply?_leaf_eq_some_iff.mp h
  have hl : c.saved <:+ s.cursor.saved := hp hc hs
  exact he ▸ .call ⟨hl, s.journal, rfl⟩

namespace Grammar

variable {g : Grammar} {env : Env} {slot : Node} {c : Cursor} {r : Reply Answer}

section

variable (hg : ∀ r ∈ g.leaves, (r env).Retains)

include hg

theorem parser_nests_leaks : (g.parser env).Nests Journal.Leaks :=
  parser_nests fun r hr => (hg r hr).nests_leaf

theorem depth_eq_of_reply? (hc : c.Valid) (hr : (g.parser env slot).reply? c = some r) :
    (r.cursor.depth : Int) = c.depth + r.journal.opened :=
  (parser_nests_leaks hg hc hr).depth_eq Journal.Leaks.suffix Journal.Leaks.depth_eq

theorem closes_matched (hc : c.Valid) (hr : (g.parser env slot).reply? c = some r) {o : Cursor.Op}
    {d : Cursor} (hm : .op o d ∈ r.journal) (ho : o = .pop ∨ o = .commit) : d.saved ≠ [] := by
  have hn := parser_nests_leaks hg hc hr
  have hd : ∀ e ∈ r.journal, ∀ o d, e = .op o d → Event.ofOp? d o = none := by
    refine hn.forall_mem Journal.Leaks.suffix nofun ?op ?entries
    case op =>
      rintro _ _ ho _ _ ⟨⟩
      exact ho
    case entries =>
      rintro _ _ _ ⟨_, _, rfl⟩ _ he _ _ rfl
      cases List.mem_singleton.mp he
  exact Cursor.saved_ne_nil_of_ofOp?_eq_none ho (hd _ hm o d rfl)

theorem leftOpen_mem_events_iff_opened {o : Parse.Options} {data : List UInt8} {s : Parse.Result}
    (h : g.parse? env o data = some s) :
    ∃ d : Nat, s.journal.opened = d ∧ ∀ n, .leftOpen n ∈ s.events ↔ d ≠ 0 ∧ n = d := by
  have ⟨r, hr, he⟩ := Parser.parse?_eq_some_iff.mp h
  have hd := depth_eq_of_reply? hg .start hr
  have hj : s.journal = r.journal := he ▸ rfl
  have hs : r.cursor.saved ≠ [] ↔ r.cursor.depth ≠ 0 := List.length_eq_zero_iff.not.symm
  refine ⟨r.cursor.depth, ?_, fun n => ?_⟩
  · rw [hj, hd]
    exact (Int.zero_add _).symm
  · rw [he, Parse.leftOpen_mem_events_iff (Run.replays _ hr), hs]

-- If the foreign parsers of a grammar retain what they find, then the depth of a run grows by what
-- their calls have left open, those included whose effect was undone. A parse reports open
-- transactions if and only if that number is not zero, and it reports that number.
theorem leaks_accounted_for :
    (∀ (slot : Node) (c : Cursor) (r : Reply Answer), c.Valid →
      (g.parser env slot).reply? c = some r →
        c.saved <:+ r.cursor.saved ∧
        (∀ o d, .op o d ∈ r.journal → o = .pop ∨ o = .commit → d.saved ≠ []) ∧
        (r.cursor.depth : Int) - c.depth = r.journal.opened) ∧
    ∀ (o : Parse.Options) (data : List UInt8) (s : Parse.Result), g.parse? env o data = some s →
      ((∃ n, .leftOpen n ∈ s.events) ↔ s.journal.opened ≠ 0) ∧
      ∀ n : Nat, .leftOpen n ∈ s.events → (n : Int) = s.journal.opened := by
  constructor
  case left =>
    intro slot c r hc hr
    refine ⟨?_, fun o d => closes_matched hg hc hr, ?_⟩
    · exact (parser_nests_leaks hg hc hr).saved_suffix Journal.Leaks.suffix
    · have hd := depth_eq_of_reply? hg hc hr
      omega
  case right =>
    intro o data s h
    have ⟨d, hd, hl⟩ := leftOpen_mem_events_iff_opened hg h
    simp [hd, hl]

end

-- The option closes what the routine has opened and leaves its own transaction open.
theorem leaks_accounted_for_of_option :
    let stray : Env → Parser := fun env => Script.parser env [.push, .tryRequest 1, .advance,
      .fail Script.unfinished]
    let g : Grammar := .many (.seq [.maybe (.routine stray), .literal (.byte 1)])
    let env : Env := { limit := 4, rule := fun _ _ => Run.exhausted }
    let c : Cursor := { data := [0, 1, 1], position := 1, saved := [1, 0], window := 2 }
    (∃ r, (g.parser env .empty).reply? c = some r ∧ [1, 0] <:+ r.cursor.saved ∧
      r.cursor.depth = 5) ∧
    ∃ s, g.parse? env .default [1, 1] = some s ∧ .leftOpen 3 ∈ s.events := by
  intro stray g env c
  have hs : ∀ r ∈ g.leaves, (r env).Retains := by
    refine List.forall_mem_singleton.mpr fun slot c r _ h => ?_
    cases h
    show c.saved <:+ (c.push.request 1).saved
    rw [Cursor.request_preserves_saved]
    exact List.suffix_cons c.position c.saved
  constructor
  case left =>
    have h : ((g.parser env .empty).reply? c).map (·.journal.opened) = some 3 := by decide +kernel
    have ⟨r, hr, ho⟩ := Option.map_eq_some_iff.mp h
    have ⟨hc, _, hd⟩ := (leaks_accounted_for hs).left _ c r (by decide) hr
    have hc' : c.depth = 2 := rfl
    exact ⟨r, hr, hc, by omega⟩
  case right =>
    have h : (g.parse? env .default [1, 1]).map (·.journal.opened) = some 3 := by decide +kernel
    have ⟨s, hp, ho⟩ := Option.map_eq_some_iff.mp h
    have ⟨hl, hn⟩ := (leaks_accounted_for hs).right _ _ s hp
    have ⟨n, hm⟩ := hl.mpr (by simp [ho])
    have hn : n = 3 := Int.ofNat_inj.mp ((hn n hm).trans ho)
    exact ⟨s, hp, hn ▸ hm⟩

end Grammar
end Backtrack
