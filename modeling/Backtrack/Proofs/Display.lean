import Backtrack.Proofs.Meaning.Failures
import Backtrack.Proofs.Parse.Log
import Backtrack.Proofs.Text.Line

namespace Backtrack

open Text (OneLine)

namespace Failure

variable {e : Failure} {name message : String} {position : Nat}

theorem display_eq_intercalate : e.display = "\n".intercalate (e.layers.map headline) := by
  induction e
  case within name message position cause hi =>
    have hn : cause.layers.map headline ≠ [] := mt List.map_eq_nil_iff.mp layers_ne_nil
    rw [display, hi, layers_within, List.map_cons, String.intercalate_cons_of_ne_nil hn]
  all_goals rfl

theorem layers_isChain : e.layers.IsChain fun l m => l.cause? = some m := by
  induction e
  case within cause hi =>
    rw [layers_eq_cons] at hi
    rw [layers_within, layers_eq_cons]
    exact .cons_cons rfl hi
  all_goals exact .singleton _

theorem split_display (h : ∀ l ∈ e.layers, OneLine l.headline) :
    (e.display.split '\n').toList.map (·.copy) = e.layers.map headline := by
  have hl : ∀ s ∈ e.layers.map headline, '\n' ∉ s.toList := List.forall_mem_map.mpr h
  have hn : e.layers.map headline ≠ [] := mt List.map_eq_nil_iff.mp layers_ne_nil
  rw [display_eq_intercalate, show "\n" = String.singleton '\n' from rfl,
    String.toList_split_intercalate hl, if_neg hn]

theorem oneLine_insufficient {requested remaining : Nat} :
    OneLine (insufficient requested remaining position).headline := by
  unfold headline
  simp +decide

theorem oneLine_trailing {remaining : Nat} : OneLine (trailing remaining position).headline := by
  unfold headline
  simp +decide

theorem oneLine_rejected (hn : OneLine name) (hm : OneLine message) :
    OneLine (rejected name message position).headline := by
  unfold headline
  simp +decide [hn, hm]

theorem oneLine_within (hn : OneLine name) (hm : OneLine message) :
    OneLine (within name message position e).headline :=
  oneLine_rejected hn hm

end Failure

namespace Matcher

variable {m : Matcher} {window : List UInt8}

theorem oneLine_name : OneLine (m.name?.getD "") := by
  cases m <;> simp +decide [name?]

@[simp]
theorem oneLine_found : OneLine (found window) := by
  unfold found
  split
  case h_1 => exact .quoteByte
  case h_2 => decide

theorem oneLine_complaint : OneLine (m.complaint window) := by
  unfold complaint
  split <;> simp +decide

end Matcher

namespace Grammar

variable {data : List UInt8} {g : Grammar} {gs : List Grammar} {env : Env} {i : Place data}
variable {e : Failure}

theorem label_mem : g.label ∈ ["Parser", "String", "Byte", "Bytes"] := by
  cases g
  case literal l => cases l <;> simp [label, Literal.label]
  all_goals simp [label]

theorem oneLine_label : OneLine g.label := by
  have h : ∀ s ∈ ["Parser", "String", "Byte", "Bytes"], OneLine s := by decide
  exact h _ label_mem

theorem oneLine_signature {kind : String} (hk : OneLine kind) : OneLine (signature kind gs) :=
  .applied hk (List.forall_mem_map.mpr fun _ _ => oneLine_label)

theorem Reports.oneLine (h : g.Reports i e) : OneLine e.headline := by
  cases h
  case insufficient => exact Failure.oneLine_insufficient
  case mismatch     => exact Failure.oneLine_rejected Matcher.oneLine_name Matcher.oneLine_complaint
  case alternatives => exact Failure.oneLine_rejected (oneLine_signature (by decide)) (by decide)
  case first        => exact Failure.oneLine_within (oneLine_signature (by decide)) (by decide)
  case element      =>
    exact Failure.oneLine_within (oneLine_signature (by decide)) (by simp +decide)

theorem oneLine_of_failed {slot node : Node} {c : Cursor} {r : Reply Answer} (hg : g.leaves = [])
    (hc : c.Valid) (hr : (g.parser env slot).reply? c = some r) (hv : r.value = .failed e node) :
    ∀ l ∈ e.layers, OneLine l.headline := by
  intro l hl
  have ⟨ha, _⟩ := follows_of_reply? hg hc.at_place hr
  cases hm : g.meaning c.data hc.place slot <;> simp only [hm, hv, Verdict.answer] at ha <;>
    cases ha
  obtain ⟨_, _, _, _, _, hp⟩ := exists_reports_of_mem_layers hg hm hl
  exact hp.oneLine

theorem oneLine_of_outcome {o : Parse.Options} {s : Parse.Result} (hg : g.leaves = [])
    (hs : g.parse? env o data = some s) (he : s.outcome = .error e) :
    ∀ l ∈ e.layers, OneLine l.headline := by
  obtain ⟨r, hr, rfl⟩ := Parser.parse?_eq_some_iff.mp hs
  cases hv : r.value <;> simp only [Parse.finish, Parse.conclude, hv] at he
  case failed f node =>
    cases he
    exact oneLine_of_failed hg .start hr hv
  case matched node =>
    split at he <;> cases he
    exact List.forall_mem_singleton.mpr Failure.oneLine_trailing

-- The text of a failure has the texts of its layers one under the other. If it is the failure of a
-- parse, then none of them has a line break, whatever the grammar looks for and finds.
theorem display_lines_up_layers :
    (∀ e : Failure, e.display = "\n".intercalate (e.layers.map Failure.headline) ∧
      e.layers.head? = some e ∧ e.layers.IsChain (fun l m => l.cause? = some m) ∧
      e.layers.getLast? = some e.innermost ∧ e.innermost.cause? = none ∧
      e.sources = e.layers.tail) ∧
    ∀ (g : Grammar) (env : Env) (o : Parse.Options) (data : List UInt8) (s : Parse.Result)
      (e : Failure), g.leaves = [] → g.parse? env o data = some s → s.outcome = .error e →
        (e.display.split '\n').toList.map (·.copy) = e.layers.map Failure.headline := by
  refine ⟨fun e => ⟨Failure.display_eq_intercalate, Failure.head?_layers, Failure.layers_isChain,
    Failure.getLast?_layers, Failure.cause?_innermost, Failure.sources_eq_tail⟩, ?_⟩
  intro g env o data s e hg hs he
  exact Failure.split_display (oneLine_of_outcome hg hs he)

theorem display_lines_up_layers_of_break :
    let g : Grammar := .seq [.literal (.string "\n"), .many (.literal (.bytes [10, 34, 255]))]
    let env : Env := { limit := 5, rule := fun _ _ => Run.exhausted }
    ∃ s e, g.parse? env .default [10, 10, 48, 48] = some s ∧ s.outcome = .error e ∧
      (e.display.split '\n').toList.map (·.copy) =
        ["Seq(String, Parser): element 1 failed at offset 0",
          "Many(Bytes): expected at least one match at offset 1",
          "Bytes(\"\\n\\\"\\xff\"): expected \"\\n\\\"\\xff\", found \"\\n00\" at offset 1"] := by
  intro g env
  let e : Failure := .within "Seq(String, Parser)" "element 1 failed" 0
    (.within "Many(Bytes)" "expected at least one match" 1
      ((Matcher.bytes [10, 34, 255]).rejection [10, 48, 48] 1))
  have h : ((g.parser env .empty).reply? (.start [10, 10, 48, 48])).map (·.value) =
      some (.failed e .empty) := by
    decide +kernel
  obtain ⟨r, hr, hv⟩ := Option.map_eq_some_iff.mp h
  have hs : g.parse? env .default [10, 10, 48, 48] = some (Parse.finish .default r) :=
    Parser.parse?_eq_some_iff.mpr ⟨r, hr, rfl⟩
  have he : (Parse.finish .default r).outcome = .error e := by
    simp only [Parse.finish, Parse.conclude, hv]
  obtain ⟨_, hd⟩ := display_lines_up_layers
  refine ⟨_, e, hs, he, (hd g env .default _ _ e rfl hs he).trans ?_⟩
  decide +kernel

end Grammar
end Backtrack
