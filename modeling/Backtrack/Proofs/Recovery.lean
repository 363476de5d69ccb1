import Backtrack.Parse
import Backtrack.Proofs.Meaning.Failures

namespace Backtrack

variable {data : List UInt8}

theorem Matcher.bytes_value {m : Matcher} {window : List UInt8} (h : m.accepts window) :
    (m.value window).bytes = window := by
  cases m
  case string => exact (beq_iff_eq.mp h).symm
  all_goals rfl

namespace Meaning

-- Given a slot without bytes, the bytes below the node continue with what is left over to the input
-- from the place on.
def Recovers (m : Meaning data) : Prop :=
  ∀ ⦃i j : Place data⦄ ⦃slot node : Node⦄, slot.bytes = [] → m i slot = .ok (j, node) →
    node.bytes ++ data.drop j = data.drop i

namespace Recovers

variable {m : Meaning data} {ms : List (Meaning data)} {i j : Place data} {k : Nat} {name : String}
variable {slot node : Node} {nodes : List Node}

theorem matcher {m : Matcher} : (Meaning.matcher m : Meaning data).Recovers := by
  intro i j slot node _ h
  by_cases hw : m.width ≤ (data.drop i).length
  case neg => cases h.symm.trans (matcher_of_lt (Nat.lt_of_not_le hw) slot)
  case pos =>
    by_cases ha : m.accepts ((data.drop i).take m.width)
    case neg => cases h.symm.trans (matcher_of_not_accepts hw ha slot)
    case pos =>
      have ⟨l, hl, hv⟩ := matcher_of_accepts hw ha slot
      cases h.symm.trans hv
      rw [Node.bytes_leaf, Matcher.bytes_value ha, hl, ← List.drop_drop, List.take_append_drop]

theorem elements (h : ∀ m ∈ ms, m.Recovers) (he : Meaning.elements k ms i = .ok (j, nodes)) :
    nodes.flatMap Node.bytes ++ data.drop j = data.drop i := by
  induction ms generalizing i k nodes
  case nil =>
    cases he
    rfl
  case cons m ms hi =>
    have ⟨hm, hms⟩ := List.forall_mem_cons.mp h
    cases hv : m i .empty <;> simp only [Meaning.elements, hv] at he
    case error => cases he
    case ok v =>
      cases hw : Meaning.elements (k + 1) ms v.1 <;> rw [hw] at he <;> cases he
      rw [List.flatMap_cons, List.append_assoc, hi hms hw]
      exact hm Node.bytes_empty hv

theorem seq (h : ∀ m ∈ ms, m.Recovers) : (Meaning.seq name ms).Recovers := by
  intro i j slot node _ hv
  cases he : Meaning.elements 0 ms i <;> simp only [Meaning.seq, he] at hv <;> cases hv
  rw [Node.bytes_branch, elements h he]

theorem any (h : ∀ m ∈ ms, m.Recovers) : (Meaning.any name ms).Recovers := by
  intro i j slot node hs hv
  cases hf : ms.findSome? fun m => (m i slot).toOption <;>
    simp only [Meaning.any, hf] at hv <;> cases hv
  obtain ⟨m, hm, ho⟩ := List.exists_of_findSome?_eq_some hf
  cases hw : m i slot <;> simp only [hw, Except.toOption] at ho <;> cases ho
  exact h m hm hs hw

theorem maybe (h : m.Recovers) : (Meaning.maybe m).Recovers := by
  intro i j slot node hs hv
  cases hw : m i slot <;> simp only [Meaning.maybe, hw] at hv <;> cases hv
  case ok    => exact h hs hw
  case error => rw [hs, List.nil_append]

-- The match that does not move forward is left out, and there are no bytes below it.
theorem repetitions (h : m.Recovers) :
    (m.repetitions i).2.flatMap Node.bytes ++ data.drop (m.repetitions i).1 = data.drop i := by
  induction i using Meaning.repetitions.induct m
  case case1 hv =>
    rw [repetitions_of_error hv]
    rfl
  case case2 hv hj _ _ _ hi =>
    rw [repetitions_of_lt hv hj, List.flatMap_cons, List.append_assoc, hi]
    exact h Node.bytes_empty hv
  case case3 hv hj =>
    rw [repetitions_of_not_lt hv hj]
    rfl

theorem many (h : m.Recovers) : (Meaning.many name m).Recovers := by
  intro i j slot node _ hv
  cases hw : m i .empty <;> simp only [Meaning.many, hw] at hv <;> cases hv
  rw [Node.bytes_branch, List.flatMap_cons, List.append_assoc, repetitions h]
  exact h Node.bytes_empty hw

theorem map {f : Node → Node} (h : m.Recovers) (hf : ∀ n, (f n).bytes = n.bytes) :
    (Meaning.map f m).Recovers := by
  intro i j slot node hs hv
  cases hw : m i slot <;> simp only [Meaning.map, hw, Except.map] at hv <;> cases hv
  rw [hf]
  exact h hs hw

theorem eq_extract (h : m.Recovers) (hs : slot.bytes = []) (hv : m i slot = .ok (j, node)) :
    i ≤ j ∧ node.bytes = data.extract i j := by
  have hb := h hs hv
  have hl := congrArg List.length hb
  simp only [List.length_append, List.length_drop] at hl
  refine ⟨Fin.le_def.mpr (by omega), ?_⟩
  rw [List.extract_eq_take_drop, ← hb]
  exact (List.take_left' (by omega)).symm

end Recovers
end Meaning

namespace Grammar

variable {g : Grammar} {env : Env}

theorem meaning_recovers (hf : ∀ f ∈ g.mappers, ∀ n, (f n).bytes = n.bytes) :
    (g.meaning data).Recovers := by
  induction g <;> simp only [meaning, meanings_eq_map]
  case matcher  => exact .matcher
  case literal  => exact .matcher
  case boxed hi => exact hi hf
  case maybe hi => exact (hi hf).maybe
  case many hi  => exact (hi hf).many
  case map hi   =>
    have hf := List.forall_mem_cons.mp hf
    exact (hi hf.right).map hf.left
  case rule     => exact .any (List.forall_mem_nil _)
  case routine  => exact .any (List.forall_mem_nil _)
  case seq gs hi =>
    exact .seq (List.forall_mem_map.mpr fun g hg =>
      hi g hg fun f hm => hf f (collect_subset_of_mem_parts (seq gs) hg hm))
  case any gs hi =>
    exact .any (List.forall_mem_map.mpr fun g hg =>
      hi g hg fun f hm => hf f (collect_subset_of_mem_parts (any gs) hg hm))

def outcome? (g : Grammar) (env : Env) (data : List UInt8) (complete : Bool) :
    Option (Except Failure Node) :=
  (g.parse? env (Parse.Options.default.setRequireComplete complete) data).map (·.outcome)

def leftover (data : List UInt8) (n : Node) : Failure :=
  .trailing (data.length - n.bytes.length) n.bytes.length

theorem outcome?_eq {complete : Bool} :
    g.outcome? env data complete = ((g.parser env .empty).reply? (.start data)).map fun r =>
      (Parse.conclude ⟨complete⟩ r.cursor r.value).1 := by
  simp only [outcome?, parse?, Parser.parse?, Option.map_map]
  rfl

section

variable (hg : g.leaves = []) (hf : ∀ f ∈ g.mappers, ∀ n, (f n).bytes = n.bytes)

include hg hf in
theorem bytes_of_reply? {c : Cursor} {slot node : Node} {r : Reply Answer} (hc : c.Valid)
    (hs : slot.bytes = []) (hr : (g.parser env slot).reply? c = some r)
    (hv : r.value = .matched node) :
    c.position ≤ r.cursor.position ∧ node.bytes = c.data.extract c.position r.cursor.position := by
  have ⟨hv', ha, _⟩ := follows_of_reply? hg hc.at_place hr
  cases hm : g.meaning c.data hc.place slot <;>
    simp only [hm, Verdict.answer, Verdict.stop] at hv' ha <;> cases hv.symm.trans hv'
  rw [ha.position_eq]
  exact (meaning_recovers hf).eq_extract hs hm

include hg in
theorem outcome?_false_ne_trailing {remaining position : Nat} :
    g.outcome? env data false ≠ some (.error (.trailing remaining position)) := by
  intro h
  have ⟨r, hr, he⟩ := Option.map_eq_some_iff.mp (outcome?_eq ▸ h)
  have ⟨hv, _⟩ := follows_of_reply? hg .start hr
  cases hm : g.meaning data 0 .empty <;> rw [hv, hm] at he <;> cases he
  have ⟨_, _, _, hr⟩ := exists_reports hg hm
  exact hr.ne_trailing

include hg hf in
theorem bytes_prefix_of_outcome? {n : Node} (h : g.outcome? env data false = some (.ok n)) :
    n.bytes <+: data := by
  have ⟨r, hr, he⟩ := Option.map_eq_some_iff.mp (outcome?_eq ▸ h)
  cases hv : r.value <;> rw [hv] at he <;> cases he
  have ⟨_, hb⟩ := bytes_of_reply? hg hf .start Node.bytes_empty hr hv
  exact hb ▸ List.take_prefix ..

-- Insisting on the whole input comes to a check of the bytes below the node.
include hg hf in
theorem outcome?_true_eq :
    g.outcome? env data true = (g.outcome? env data false).map fun o => o >>= fun n =>
      if n.bytes.length < data.length then .error (leftover data n) else .ok n := by
  rw [outcome?_eq, outcome?_eq]
  cases hr : (g.parser env .empty).reply? (.start data)
  case none => rfl
  case some r =>
    cases hv : r.value
    case failed => simp [hv, Parse.conclude, bind, Except.bind]
    case matched node =>
      have ⟨_, hb⟩ := bytes_of_reply? hg hf .start Node.bytes_empty hr hv
      have hd : r.cursor.data = data := (Run.replays _ hr).data_eq
      have hq := hd ▸ (Run.valid_of_reply? hr .start).position_le
      have hl : node.bytes.length = r.cursor.position := by
        simp [hb, Cursor.start, hq]
      have he : r.cursor.atEnd = !decide (r.cursor.position < data.length) := by
        rw [Cursor.atEnd, Cursor.remaining, hd, Bool.eq_iff_iff]
        simp [Nat.sub_eq_zero_iff_le]
      by_cases hp : r.cursor.position < data.length <;>
        simp [hv, Parse.conclude, he, hp, hl, hd, leftover, Cursor.remaining, bind, Except.bind]

end

end Grammar
end Backtrack
