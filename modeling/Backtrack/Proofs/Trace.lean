import Backtrack.Proofs.Meaning.Failures

namespace Backtrack

namespace Grammar

-- The grammar fails so on a new cursor that was moved to where it is said to have failed. The limit
-- is one that no repetition exhausts.
def FailsAlone (g : Grammar) (data : List UInt8) (e : Failure) : Prop :=
  ∀ (env : Env) (slot : Node), data.length < env.limit →
    ∃ r, (g.parser env slot).reply? (.startAt data e.position) = some r ∧ r.value = .failed e slot

def MatchAlone (gs : List Grammar) (data : List UInt8) (start stop : Nat) : Prop :=
  ∀ env : Env, data.length < env.limit →
    ∃ r nodes, (Parser.elements 0 (parsers env gs)).reply? (.startAt data start) = some r ∧
      r.value = .ok nodes ∧ r.cursor.position = stop

-- How a grammar comes to pass on a cause. A sequence does so at the first of its elements that
-- fails, and a repetition if it cannot begin.
inductive PassesOn (data : List UInt8) : Grammar → Failure → Prop
  | element {gs : List Grammar} {k position : Nat} {cause : Failure} (hk : k < gs.length) :
    MatchAlone (gs.take k) data position cause.position → gs[k].FailsAlone data cause →
      PassesOn data (seq gs)
        (.within (signature "Seq" gs) ("element " ++ toString k ++ " failed") position cause)
  | first {g : Grammar} {cause : Failure} : g.FailsAlone data cause →
      PassesOn data (many g)
        (.within (signature "Many" [g]) "expected at least one match" cause.position cause)

end Grammar

-- The failure traces back what has happened when the grammar was run on the input.
structure Failure.Traces (e : Failure) (g : Grammar) (data : List UInt8) : Prop where
  ordered   : (e.layers.map position).Pairwise (· ≤ ·)
  bounded   : ∀ l ∈ e.layers, l.position ≤ data.length
  passing   : ∀ l ∈ e.layers.dropLast, ∃ name message position cause,
    l = within name message position cause
  last      : ∃ l, e.layers.getLast? = some l ∧
    ((∃ name message position, l = rejected name message position) ∨
      ∃ requested remaining position, l = insufficient requested remaining position)
  untrailed : ∀ remaining position, trailing remaining position ∉ e.layers
  shortage  : ∀ requested remaining position,
    insufficient requested remaining position ∈ e.layers →
      position + remaining = data.length ∧ remaining < requested
  replayed  : ∀ l ∈ e.layers, ∃ p ∈ g.subgrammars, p.FailsAlone data l ∧
    (l.cause?.isSome → p.PassesOn data l)

namespace Grammar

variable {data : List UInt8} {g : Grammar} {gs : List Grammar} {i j : Place data} {slot : Node}
variable {e : Failure} {nodes : List Node}

theorem failsAlone_of_meaning (hg : g.leaves = []) (h : g.meaning data i slot = .error e) :
    g.FailsAlone data e := by
  intro env slot' hl
  have ⟨_, _, _, hr⟩ := exists_reports hg h
  have ⟨c, es, ha, _⟩ := parser_follows hg hl slot' (.startAt : Cursor.At _ i)
  rw [meaning_error_slot_irrel h slot', ← hr.position_eq] at ha
  exact ⟨_, ha, rfl⟩

theorem matchAlone_of_elements (hgs : ∀ g ∈ gs, g.leaves = [])
    (h : Meaning.elements 0 (meanings data gs) i = .ok (j, nodes)) : MatchAlone gs data i j := by
  intro env hl
  have hf := parsers_follow fun g hg => parser_follows (hgs g hg) hl
  have ⟨c, es, k, hr, ha, _, hv⟩ := Parser.Follows.elements hf 0 (.startAt : Cursor.At _ i)
  cases hv _ h
  rw [h] at hr
  exact ⟨_, nodes, hr, rfl, ha.position_eq⟩

theorem Reports.passesOn (hg : g.leaves = []) (h : g.Reports i e) (hc : e.cause?.isSome) :
    g.PassesOn data e := by
  cases h
  case element gs k j nodes cause hk hv hn =>
    have hgs : ∀ g ∈ gs, g.leaves = [] := fun g hm => leaves_eq_nil_of_mem_parts hg hm
    have hf := hgs _ (List.getElem_mem hk)
    have ⟨_, _, _, hr⟩ := exists_reports hf hv
    have hm := matchAlone_of_elements (fun g hm => hgs g (List.mem_of_mem_take hm)) hn
    exact .element hk (hr.position_eq ▸ hm) (failsAlone_of_meaning hf hv)
  case first g cause hv =>
    have hg : g.leaves = [] := hg
    have ⟨_, _, _, hr⟩ := exists_reports hg hv
    exact hr.position_eq ▸ .first (failsAlone_of_meaning hg hv)
  all_goals cases hc

theorem traces_of_meaning (hg : g.leaves = []) (h : g.meaning data i slot = .error e) :
    e.Traces g data := by
  have hl {l : Failure} (hl : l ∈ e.layers) := exists_reports_of_mem_layers hg h hl
  constructor
  case ordered => exact layers_ordered hg h
  case bounded =>
    intro l hm
    have ⟨_, _, j, _, _, hr⟩ := hl hm
    exact hr.position_eq ▸ Nat.le_of_lt_succ j.isLt
  case passing => exact fun l hm => Failure.within_of_mem_dropLast_layers hm
  case last =>
    refine ⟨e.innermost, Failure.getLast?_layers, ?_⟩
    have ⟨_, _, _, _, _, hr⟩ := hl Failure.innermost_mem_layers
    have hc : e.innermost.cause? = none := Failure.cause?_innermost
    cases he : e.innermost <;> rw [he] at hr hc
    case insufficient => exact .inr ⟨_, _, _, rfl⟩
    case rejected     => exact .inl ⟨_, _, _, rfl⟩
    case within       => cases hc
    case trailing     => cases hr.ne_trailing
  case untrailed =>
    intro _ _ hm
    have ⟨_, _, _, _, _, hr⟩ := hl hm
    exact hr.ne_trailing
  case shortage =>
    intro _ _ _ hm
    have ⟨_, _, _, _, _, hr⟩ := hl hm
    exact hr.shortage
  case replayed =>
    intro l hm
    have ⟨p, hp, j, _, hv, hr⟩ := hl hm
    have hg := leaves_eq_nil_of_mem_subgrammars hg hp
    exact ⟨p, hp, failsAlone_of_meaning hg (hv .empty), hr.passesOn hg⟩

-- The failure of a run gives the position at which the run began. From its outermost to its
-- innermost layer the positions do not go back, and any layer can be had again by running a part of
-- the grammar on a new cursor that is moved to the position of the layer.
theorem failure_traces_run {env : Env} {c : Cursor} {node : Node} {r : Reply Answer}
    (hg : g.leaves = []) (hc : c.Valid) (hr : (g.parser env slot).reply? c = some r)
    (hv : r.value = .failed e node) : e.position = c.position ∧ e.Traces g c.data := by
  have ⟨ha, _⟩ := follows_of_reply? hg hc.at_place hr
  cases hm : g.meaning c.data hc.place slot <;>
    simp only [hm, hv, Verdict.answer] at ha <;> cases ha
  obtain ⟨_, _, _, hp⟩ := exists_reports hg hm
  exact ⟨hp.position_eq, traces_of_meaning hg hm⟩

theorem failure_traces_run_of_nested :
    let pair : Grammar := .seq [.literal (.byte 2), .any [.literal (.byte 3), .matcher .byte]]
    let g : Grammar := .seq [.literal (.bytes [0, 1]), .map (.many pair) fun n => .branch [n]]
    let env : Env := { limit := 7, rule := fun _ _ => Run.exhausted }
    let c : Cursor := { data := [9, 0, 1, 2], position := 1, saved := [1, 0], window := 2 }
    let e : Failure := .within "Seq(Bytes, Parser)" "element 1 failed" 1
      (.within "Many(Parser)" "expected at least one match" 3
        (.within "Seq(Byte, Parser)" "element 1 failed" 3
          (.rejected "Any(Byte, Parser)" "no alternative matched" 4)))
    (∃ r, (g.parser env .empty).reply? c = some r ∧ r.value = .failed e .empty) ∧
      e.Traces g c.data := by
  intro pair g env c e
  have h : ((g.parser env .empty).reply? c).map (·.value) = some (.failed e .empty) := by
    decide +kernel
  have ⟨r, hr, hv⟩ := Option.map_eq_some_iff.mp h
  have ⟨_, ht⟩ := failure_traces_run rfl (by decide) hr hv
  exact ⟨⟨r, hr, hv⟩, ht⟩

end Grammar
end Backtrack
