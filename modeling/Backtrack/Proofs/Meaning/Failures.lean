import Backtrack.Proofs.Meaning.Refinement

namespace Backtrack

variable {data : List UInt8}

namespace Failure

variable {e : Failure}

theorem getLast?_layers : e.layers.getLast? = some e.innermost := by
  induction e
  case within hi => rw [layers_within, List.getLast?_cons, hi, innermost, Option.getD_some]
  all_goals rfl

theorem cause?_innermost : e.innermost.cause? = none := by
  induction e
  case within hi => exact hi
  all_goals rfl

theorem innermost_mem_layers : e.innermost ∈ e.layers :=
  List.mem_of_getLast? getLast?_layers

theorem within_of_mem_dropLast_layers {l : Failure} (h : l ∈ e.layers.dropLast) :
    ∃ name message position cause, l = .within name message position cause := by
  induction e
  case within name message position cause hi =>
    rw [layers_within, List.dropLast_cons_of_ne_nil layers_ne_nil] at h
    cases List.mem_cons.mp h
    case inl h => exact ⟨_, _, _, _, h⟩
    case inr h => exact hi h
  all_goals cases h

end Failure

namespace Meaning

variable {m : Meaning data} {ms : List (Meaning data)} {i : Place data} {name : String}
variable {slot : Node} {e : Failure}

theorem elements_eq_error {k n : Nat} (h : elements k ms i = .error (n, e)) :
    ∃ (l : Nat) (hl : l < ms.length) (j : Place data) (nodes : List Node), n = k + l ∧
      elements k (ms.take l) i = .ok (j, nodes) ∧ ms[l] j .empty = .error e := by
  induction ms generalizing k i
  case nil => cases h
  case cons m ms hi =>
    cases hv : m i .empty <;> simp only [elements, hv] at h
    case error =>
      cases h
      exact ⟨0, Nat.zero_lt_succ _, i, [], rfl, rfl, hv⟩
    case ok v =>
      cases hw : elements (k + 1) ms v.1 <;> simp only [hw, Except.map] at h <;> cases h
      obtain ⟨l, hl, j, nodes, hn, he, hm⟩ := hi hw
      refine ⟨l + 1, Nat.succ_lt_succ hl, j, v.2 :: nodes, by omega, ?_, hm⟩
      simp only [List.take_succ_cons, elements, hv, he, Except.map]

theorem seq_eq_error (h : seq name ms i slot = .error e) :
    ∃ k cause, elements 0 ms i = .error (k, cause) ∧
      e = .within name ("element " ++ toString k ++ " failed") i cause := by
  cases hv : elements 0 ms i <;> simp only [seq, hv] at h <;> cases h
  exact ⟨_, _, rfl, rfl⟩

theorem any_eq_error_iff :
    any name ms i slot = .error e ↔
      (∀ m ∈ ms, ∃ e', m i slot = .error e') ∧ e = .rejected name "no alternative matched" i := by
  have hm (m : Meaning data) : (m i slot).toOption = none ↔ ∃ e', m i slot = .error e' := by
    cases m i slot <;> simp [Except.toOption]
  simp only [← hm, ← List.findSome?_eq_none_iff]
  cases hf : ms.findSome? fun m => (m i slot).toOption <;> simp [any, hf, eq_comm]

theorem maybe_ne_error : maybe m i slot ≠ .error e := by
  cases hv : m i slot <;> simp [maybe, hv]

theorem many_eq_error (h : many name m i slot = .error e) :
    ∃ cause, m i .empty = .error cause ∧
      e = .within name "expected at least one match" i cause := by
  cases hv : m i .empty <;> simp only [many, hv] at h <;> cases h
  exact ⟨_, rfl, rfl⟩

theorem map_eq_error_iff {f : Node → Node} :
    map f m i slot = .error e ↔ m i slot = .error e := by
  cases hv : m i slot <;> simp [map, hv, Except.map]

end Meaning

namespace Cursor

def startAt (data : List UInt8) (position : Nat) : Cursor :=
  ((start data).request position).advance

theorem At.startAt {i : Place data} : (startAt data i).At i := by
  have hi : i.val ≤ (Cursor.start data).remaining := Nat.le_of_lt_succ i.isLt
  refine ⟨Valid.start.request.advance, request_preserves_data, ?_⟩
  rw [Cursor.startAt, request_of_le hi]
  exact Nat.zero_add _

end Cursor

namespace Grammar

variable {g : Grammar} {gs : List Grammar} {i j : Place data} {slot : Node} {e : Failure}

theorem meaning_error_slot_irrel (h : g.meaning data i slot = .error e) (slot' : Node) :
    g.meaning data i slot' = .error e := by
  induction g generalizing e <;> simp only [meaning, meanings_eq_map] at h ⊢
  case boxed hi => exact hi h
  case maybe    => cases Meaning.maybe_ne_error h
  case map hi   => exact Meaning.map_eq_error_iff.mpr (hi (Meaning.map_eq_error_iff.mp h))
  case any gs hi =>
    have ⟨hm, he⟩ := Meaning.any_eq_error_iff.mp h
    refine Meaning.any_eq_error_iff.mpr ⟨List.forall_mem_map.mpr fun g hg => ?_, he⟩
    have ⟨e', hv⟩ := hm _ (List.mem_map_of_mem hg)
    exact ⟨e', hi g hg hv⟩
  all_goals exact h

theorem elements_le {k : Nat} {nodes : List Node} (hgs : ∀ g ∈ gs, g.leaves = [])
    (h : Meaning.elements k (meanings data gs) i = .ok (j, nodes)) : i ≤ j := by
  -- That no match goes back is known of parsers only, so a run stands in for the meaning.
  let env : Env := { limit := data.length + 1, rule := fun _ _ => Run.exhausted }
  have hf : ∀ g ∈ gs, (g.parser env).Follows (g.meaning data) :=
    fun g hg => parser_follows (hgs g hg) (Nat.lt_succ_self _)
  have hl : ∀ p ∈ parsers env gs, p.Lawful := by
    rw [parsers_eq_map]
    exact List.forall_mem_map.mpr fun g hg => parser_lawful_of_leaves_eq_nil (hgs g hg)
  have hc : (Cursor.startAt data i).At i := .startAt
  have ⟨c, _, l, hr, ha, _, hv⟩ := Parser.Follows.elements (parsers_follow hf) k hc
  have ⟨_, hq⟩ := Parser.Lawful.elements hl hc.valid hr
  cases hv _ h
  exact Fin.le_def.mpr (by simpa [hc.position_eq, ha.position_eq] using hq)

def matcher? : Grammar → Option Matcher
  | matcher m => some m
  | literal l => some l.matcher
  | _ => none

-- What a grammar has met when it reports a failure of its own at a place. Grammars that pass on the
-- failures of the grammar inside are left out.
inductive Reports : Grammar → Place data → Failure → Prop
  | insufficient {g : Grammar} {m : Matcher} {i : Place data} :
    g.matcher? = some m → (data.drop i).length < m.width →
      Reports g i (.insufficient m.width (data.drop i).length i)
  | mismatch {g : Grammar} {m : Matcher} {i : Place data} :
    g.matcher? = some m → m.width ≤ (data.drop i).length →
      ¬m.accepts ((data.drop i).take m.width) →
        Reports g i (m.rejection ((data.drop i).take m.width) i)
  | alternatives {gs : List Grammar} {i : Place data} :
    (∀ g ∈ gs, ∃ e, ∀ slot, g.meaning data i slot = .error e) →
      Reports (any gs) i (.rejected (signature "Any" gs) "no alternative matched" i)
  | element {gs : List Grammar} {k : Nat} {i j : Place data} {nodes : List Node} {e : Failure}
    (hk : k < gs.length) : Meaning.elements 0 (meanings data (gs.take k)) i = .ok (j, nodes) →
      gs[k].meaning data j .empty = .error e →
        Reports (seq gs) i
          (.within (signature "Seq" gs) ("element " ++ toString k ++ " failed") i e)
  | first {g : Grammar} {i : Place data} {e : Failure} : g.meaning data i .empty = .error e →
      Reports (many g) i (.within (signature "Many" [g]) "expected at least one match" i e)

theorem reports_of_matcher? {m : Matcher} (hg : g.matcher? = some m)
    (h : Meaning.matcher m i slot = .error e) : g.Reports i e := by
  by_cases hw : m.width ≤ (data.drop i).length
  case neg =>
    replace hw := Nat.lt_of_not_le hw
    cases h.symm.trans (Meaning.matcher_of_lt hw slot)
    exact .insufficient hg hw
  case pos =>
    by_cases ha : m.accepts ((data.drop i).take m.width)
    case pos =>
      have ⟨_, _, hv⟩ := Meaning.matcher_of_accepts hw ha slot
      cases h.symm.trans hv
    case neg =>
      cases h.symm.trans (Meaning.matcher_of_not_accepts hw ha slot)
      exact .mismatch hg hw ha

-- Some part of a grammar that fails reports the failure, at the same place.
theorem exists_reports (hg : g.leaves = []) (h : g.meaning data i slot = .error e) :
    ∃ p ∈ g.subgrammars, (∀ slot, p.meaning data i slot = .error e) ∧ p.Reports i e := by
  have hs := meaning_error_slot_irrel h
  induction g, hg using leafless_induction <;> simp only [meaning, meanings_eq_map] at h
  case maybe => cases Meaning.maybe_ne_error h
  case boxed hi =>
    have ⟨p, hp, hr⟩ := hi h hs
    exact ⟨p, List.mem_cons_of_mem _ hp, hr⟩
  case map hi =>
    have h := Meaning.map_eq_error_iff.mp h
    have ⟨p, hp, hr⟩ := hi h (meaning_error_slot_irrel h)
    exact ⟨p, List.mem_cons_of_mem _ hp, hr⟩
  all_goals refine ⟨_, mem_subgrammars_self, hs, ?_⟩
  case matcher => exact reports_of_matcher? rfl h
  case literal => exact reports_of_matcher? rfl h
  case seq gs _ _ =>
    have ⟨k, cause, hv, he⟩ := Meaning.seq_eq_error h
    have ⟨l, hl, j, nodes, hk, hn, hm⟩ := Meaning.elements_eq_error hv
    rw [Nat.zero_add] at hk
    rw [← List.map_take, ← meanings_eq_map] at hn
    rw [List.getElem_map] at hm
    exact he ▸ hk ▸ .element (List.length_map (f := meaning data) ▸ hl) hn hm
  case any gs _ _ =>
    have ⟨hm, he⟩ := Meaning.any_eq_error_iff.mp h
    refine he ▸ .alternatives fun g hg => ?_
    have ⟨e', hv⟩ := hm _ (List.mem_map_of_mem hg)
    exact ⟨e', meaning_error_slot_irrel hv⟩
  case many g _ _ =>
    have ⟨cause, hv, he⟩ := Meaning.many_eq_error h
    exact he ▸ .first hv

namespace Reports

theorem position_eq (h : g.Reports i e) : e.position = i := by
  cases h <;> rfl

theorem ne_trailing {remaining position : Nat} :
    ¬g.Reports i (.trailing remaining position) :=
  nofun

theorem shortage {requested remaining position : Nat}
    (h : g.Reports i (.insufficient requested remaining position)) :
    position + remaining = data.length ∧ remaining < requested := by
  cases h
  case insufficient hl =>
    have hi := Nat.le_of_lt_succ i.isLt
    simp only [List.length_drop] at hl ⊢
    omega

theorem exists_cause {name message : String} {position : Nat} (hg : g.leaves = [])
    (h : g.Reports i (.within name message position e)) :
    ∃ p ∈ g.subgrammars, ∃ j : Place data, i ≤ j ∧ p.meaning data j .empty = .error e := by
  cases h
  case element gs k j nodes hk hn hv =>
    refine ⟨gs[k], mem_subgrammars_of_mem_parts (List.getElem_mem hk), j, elements_le ?_ hn, hv⟩
    exact fun g hm => leaves_eq_nil_of_mem_parts hg (List.mem_of_mem_take hm)
  case first g hv => exact ⟨g, List.mem_cons_of_mem _ mem_subgrammars_self, i, Fin.le_refl i, hv⟩

end Reports

-- Each layer, with all that is below it, is what some part of the grammar reports at a place that
-- is not before the one of the grammar.
theorem exists_reports_of_mem_layers {l : Failure} (hg : g.leaves = [])
    (h : g.meaning data i slot = .error e) (hl : l ∈ e.layers) :
    ∃ p ∈ g.subgrammars, ∃ j : Place data, i ≤ j ∧ (∀ slot, p.meaning data j slot = .error l) ∧
      p.Reports j l := by
  induction e generalizing g i slot
  case within name message position cause hi =>
    have ⟨p, hp, hv, hr⟩ := exists_reports hg h
    cases List.mem_cons.mp hl
    case inl hl => exact ⟨p, hp, i, Fin.le_refl i, hl ▸ hv, hl ▸ hr⟩
    case inr hl =>
      have ⟨q, hq, j, hj, hv⟩ := hr.exists_cause (leaves_eq_nil_of_mem_subgrammars hg hp)
      have hq := subgrammars_subset hp hq
      have ⟨p, hp, k, hk, hr⟩ := hi (leaves_eq_nil_of_mem_subgrammars hg hq) hv hl
      exact ⟨p, subgrammars_subset hq hp, k, Fin.le_trans hj hk, hr⟩
  all_goals
    cases List.mem_singleton.mp hl
    have ⟨p, hp, hr⟩ := exists_reports hg h
    exact ⟨p, hp, i, Fin.le_refl i, hr⟩

theorem layers_ordered (hg : g.leaves = []) (h : g.meaning data i slot = .error e) :
    (e.layers.map Failure.position).Pairwise (· ≤ ·) := by
  induction e generalizing g i slot
  case within name message position cause hi =>
    have ⟨p, hp, hv, hr⟩ := exists_reports hg h
    have hg := leaves_eq_nil_of_mem_subgrammars hg hp
    have ⟨q, hq, j, hj, hv⟩ := hr.exists_cause hg
    have hg := leaves_eq_nil_of_mem_subgrammars hg hq
    refine List.pairwise_cons.mpr ⟨List.forall_mem_map.mpr fun l hl => ?_, hi hg hv⟩
    have ⟨_, _, k, hk, _, hl⟩ := exists_reports_of_mem_layers hg hv hl
    rw [hr.position_eq, hl.position_eq]
    exact Fin.le_trans hj hk
  all_goals exact List.pairwise_singleton ..

end Grammar
end Backtrack
