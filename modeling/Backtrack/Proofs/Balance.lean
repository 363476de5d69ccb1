import Backtrack.Script
import Backtrack.Session
import Backtrack.Proofs.Journal.Nested
import Backtrack.Proofs.Parse.Log

namespace Backtrack

open Cursor.Op (opens closes Balanced)

namespace Journal

variable {es : Journal}

theorem mem_events_iff {e : Event} : e ∈ events es ↔ ∃ x ∈ es, e ∈ x.events := by
  induction es
  case nil          => simp
  case cons x es hi => simp [hi]

-- Whatever a run does at first cannot be told from its end: a close without an open transaction
-- leaves no trace in the depth. Hence the law is stated for every moment.
theorem Replays.opens_add_countP_of_append {c c₁ : Cursor} {es' : Journal} (h : Replays c es c₁)
    (hp : es' <+: es.unfolded) :
    ∃ d, Replays c es' d ∧
      opens es'.ops + (events es').countP Event.isUnmatchedClose + c.depth =
        closes es'.ops + d.depth := by
  obtain ⟨es'', he⟩ := hp
  have ⟨d, hd, _⟩ := (he ▸ h.unfolded).of_append
  exact ⟨d, hd, hd.opens_add_countP⟩

end Journal

namespace Parse

variable {o : Options} {data : List UInt8} {s : Result}

theorem exists_error_iff_not_balanced {p : Parser} (h : p.parse? o data = some s) :
    (∃ e ∈ s.events, e.level = .error) ↔ ¬Balanced s.journal.ops := by
  have ⟨r, hr, he⟩ := Parser.parse?_eq_some_iff.mp h
  have hj : s.journal = r.journal := he ▸ rfl
  have hp := Run.replays _ hr
  rw [he, exists_error_iff hp, ← he, hj, Cursor.balanced_iff (c := .start data) rfl,
    ← hp.eq_applyAll, ← hp.filter_events, List.filter_eq_nil_iff]
  grind

end Parse

namespace Grammar

variable {g : Grammar} {env : Env} {slot : Node} {c : Cursor} {r : Reply Answer}

theorem parser_nests_of_leaves_eq_nil (hg : g.leaves = []) :
    (g.parser env).Nests fun _ _ _ => False :=
  parser_nests (by simp [hg])

theorem level_of_mem_events (hg : g.leaves = []) (hc : c.Valid)
    (hr : (g.parser env slot).reply? c = some r) {e : Event} (he : e ∈ Journal.events r.journal) :
    e.level = .trace := by
  have ⟨x, hx, hm⟩ := Journal.mem_events_iff.mp he
  have hn := parser_nests_of_leaves_eq_nil hg hc hr
  have ht : ∀ x ∈ r.journal, ∀ e ∈ x.events, e.level = .trace := by
    refine hn.forall_mem False.elim ?notice ?op False.elim
    case notice =>
      intro n
      exact List.forall_mem_singleton.mpr rfl
    case op =>
      intro o d hd
      simp [Entry.events, hd]
  exact ht x hx e hm

theorem events_of_leaves_eq_nil {o : Parse.Options} {data : List UInt8} {s : Parse.Result}
    (hg : g.leaves = []) (h : g.parse? env o data = some s) :
    ∃ ts last, s.events = .started data.length :: (ts ++ [last]) ∧
      (∀ e ∈ ts, e.level = .trace) ∧ last.level = .debug ∧
      ((∃ n q, s.outcome = .ok n ∧ last = .succeeded q) ∨
        ∃ e, s.outcome = .error e ∧ (last = .failed e.position ∨ last = .incomplete e)) := by
  have ⟨r, hr, he⟩ := Parser.parse?_eq_some_iff.mp h
  have hd : r.cursor.data = data := (Run.replays _ hr).data_eq
  have hs : r.cursor.saved = [] := (parser_nests_of_leaves_eq_nil hg .start hr).saved_eq False.elim
  refine ⟨Journal.events r.journal, (Parse.conclude o r.cursor r.value).2, ?_,
    fun e => level_of_mem_events hg .start hr, Parse.conclude_level, ?_⟩
  · simp [he, Parse.events_finish, hd, Parse.balance, hs]
  · have ho : s.outcome = (Parse.conclude o r.cursor r.value).1 := he ▸ rfl
    have hc := Parse.conclude_eq (o := o) (c := r.cursor) (a := r.value)
    rw [ho]
    grind

end Grammar

-- A parse reports an error if and only if its pushes, pops and commits are no balanced word. At
-- every moment of it, the pushes and the closes that found nothing to close are together as many as
-- the closes and the open transactions.
theorem Parse.balance_check_exact :
    (∀ (p : Parser) (o : Options) (data : List UInt8) (s : Result), p.parse? o data = some s →
      ((∃ e ∈ s.events, e.level = .error) ↔ ¬Balanced s.journal.ops) ∧
      ∀ es : Journal, es <+: s.journal.unfolded → ∃ d, Journal.Replays (.start data) es d ∧
        opens es.ops + (Journal.events es).countP Event.isUnmatchedClose =
          closes es.ops + d.depth) ∧
    ∀ (g : Grammar) (env : Env) (o : Options) (data : List UInt8) (s : Result), g.leaves = [] →
      g.parse? env o data = some s →
        ∃ ts last, s.events = .started data.length :: (ts ++ [last]) ∧
          (∀ e ∈ ts, e.level = .trace) ∧ last.level = .debug ∧
          ((∃ n q, s.outcome = .ok n ∧ last = .succeeded q) ∨
            ∃ e, s.outcome = .error e ∧ (last = .failed e.position ∨ last = .incomplete e)) := by
  constructor
  case left =>
    intro p o data s h
    have ⟨r, hr, he⟩ := Parser.parse?_eq_some_iff.mp h
    have hj : s.journal = r.journal := he ▸ rfl
    refine ⟨exists_error_iff_not_balanced h, fun es hp => ?_⟩
    exact (Run.replays _ hr).opens_add_countP_of_append (hj ▸ hp)
  case right => exact fun g env o data s => Grammar.events_of_leaves_eq_nil

-- Nothing is open in the end, but one of the pops has found nothing to close.
theorem Parse.balance_check_exact_of_stray_pop :
    let stray : Grammar := Script.grammar [.pop, .pop]
    let g : Grammar := .seq [stray, Script.grammar [.push]]
    let calm : Grammar := .seq [.maybe (.literal (.byte 1)), .many (.literal (.byte 2))]
    let env : Env := { limit := 4, rule := fun _ _ => Run.exhausted }
    (∃ s, g.parse? env .default [] = some s ∧
      s.journal.ops = [.push, .pop, .pop, .push, .commit] ∧ (∃ e ∈ s.events, e.level = .error)) ∧
    ∃ s ts last, calm.parse? env .default [2] = some s ∧
      s.events = .started 1 :: (ts ++ [last]) ∧ last.level = .debug := by
  intro stray g calm env
  constructor
  case left =>
    have h : (g.parse? env .default []).map (·.journal.ops) =
        some [.push, .pop, .pop, .push, .commit] := by
      decide +kernel
    have ⟨s, hp, ho⟩ := Option.map_eq_some_iff.mp h
    have ⟨hb, _⟩ := balance_check_exact.left _ _ _ s hp
    refine ⟨s, hp, ho, hb.mpr ?_⟩
    rw [ho]
    decide +kernel
  case right =>
    have h : (calm.parse? env .default [2]).isSome := by decide +kernel
    have ⟨s, hs⟩ := Option.isSome_iff_exists.mp h
    have ⟨ts, last, he, _, hl, _⟩ := balance_check_exact.right calm env _ _ s rfl hs
    exact ⟨s, ts, last, hs, he, hl⟩

-- The law is one of runs. A routine that opens a transaction and then puts back a copy of its
-- cursor leaves nothing open and reports no error.
theorem Parse.kept_copy_hides_push :
    let env : Env := { limit := 4, rule := fun _ _ => Run.exhausted }
    ∃ r, Session.routine? env [.keep 0, .push, .restore 0] .empty (.start []) = some r ∧
      r.journal.ops = [.push] ∧ ¬Balanced r.journal.ops ∧
      (∀ e ∈ (finish .default r).events, e.level ≠ .error) ∧
      opens r.journal.ops + (Journal.events r.journal).countP Event.isUnmatchedClose ≠
        closes r.journal.ops + r.cursor.depth := by
  intro env
  exact ⟨⟨.matched .empty, .start [], [.op .push (.start [])]⟩, rfl, rfl, by decide, by decide,
    by decide⟩

end Backtrack
