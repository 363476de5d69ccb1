import Backtrack.Proofs.Meaning.Failures

namespace Backtrack

variable {data : List UInt8}

theorem Verdict.eq_ok_of_answer {v : Verdict data} {slot n : Node} (i : Place data)
    (h : v.answer slot = .matched n) : v = .ok (v.stop i, n) := by
  cases v <;> cases h
  rfl

namespace Meaning

variable {m m' : Meaning data} {i j k : Place data} {node node' slot : Node} {e : Failure}
variable {name : String}

theorem many_of_ok (h : m i .empty = .ok (j, node)) :
    many name m i slot = .ok ((m.repetitions j).1, .branch (node :: (m.repetitions j).2)) := by
  simp only [many, h]

theorem many_of_error (h : m i .empty = .error e) :
    many name m i slot = .error (.within name "expected at least one match" i e) := by
  simp only [many, h]

theorem seq_pair_of_ok (h : m i .empty = .ok (j, node)) (h' : m' j .empty = .ok (k, node')) :
    seq name [m, m'] i slot = .ok (k, .branch [node, node']) := by
  simp only [seq, elements, h, h', Except.map]

theorem seq_pair_of_error (h : m i .empty = .error e) :
    seq name [m, m'] i slot = .error (.within name "element 0 failed" i e) := by
  simp only [seq, elements, h]
  rfl

-- The option of a repetition ends where the repetitions do that go on from the place. A match that
-- does not move sets them apart: a repetition may begin with it, but none goes on with it.
theorem maybe_many (hm : ∀ k n, m j .empty = .ok (k, n) → j ≤ k) :
    ∃ second, maybe (many name m) j .empty = .ok ((m.repetitions j).1, second) ∧
      (second = .empty ∨ ∃ ns, second = .branch ns) ∧
      ((∀ k n, m j .empty = .ok (k, n) → j < k) → (m.repetitions j).2 = second.children) ∧
      (∀ n, m j .empty = .ok (j, n) → (m.repetitions j).2 = []) := by
  cases hv : m j .empty
  case error e =>
    rw [repetitions_of_error hv]
    exact ⟨.empty, by simp only [maybe, many_of_error hv], .inl rfl, fun _ => rfl, fun _ _ => rfl⟩
  case ok v =>
    obtain ⟨k, n⟩ := v
    by_cases hk : j < k
    case pos =>
      rw [repetitions_of_lt hv hk]
      refine ⟨_, by simp only [maybe, many_of_ok hv], .inr ⟨_, rfl⟩, fun _ => rfl, ?_⟩
      intro _ he
      cases he
      exact absurd hk (Nat.lt_irrefl _)
    case neg =>
      have hj : k = j := Fin.le_antisymm (Fin.not_lt.mp hk) (hm k n hv)
      cases hj
      rw [repetitions_of_not_lt hv hk]
      refine ⟨.branch [n], ?_, .inr ⟨_, rfl⟩, fun hl => absurd (hl _ _ rfl) hk, fun _ _ => rfl⟩
      simp only [maybe, many_of_ok hv, repetitions_of_not_lt hv hk]

end Meaning

namespace Grammar

variable {g : Grammar} {env : Env} {i j : Place data} {node : Node}

theorem meaning_le (hg : g.leaves = []) (h : g.meaning data i .empty = .ok (j, node)) : i ≤ j := by
  have he : Meaning.elements 0 (meanings data [g]) i = .ok (j, [node]) := by
    simp only [meanings, Meaning.elements, h, Except.map]
  exact elements_le (List.forall_mem_singleton.mpr hg) he

-- A repetition and its unfolding fail together on the same first match, or succeed together and end
-- at the same position. The further nodes of the repetition are those below the second node of the
-- unfolding, unless the match after the first one does not move.
theorem many_unfolds (hg : g.leaves = []) {c : Cursor} (hc : c.Valid) (slot : Node)
    (hl : c.data.length < env.limit) :
    let unfolded : Grammar := seq [g, maybe (many g)]
    ∃ r s t, ((many g).parser env slot).reply? c = some r ∧
      (unfolded.parser env slot).reply? c = some s ∧ (g.parser env .empty).reply? c = some t ∧
      r.cursor.position = s.cursor.position ∧ r.cursor.saved = c.saved ∧ s.cursor.saved = c.saved ∧
      ((∃ cause, t.value = .failed cause .empty ∧ r.cursor.position = c.position ∧
        r.value = .failed (.within (signature "Many" [g]) "expected at least one match" c.position
          cause) slot ∧
        s.value = .failed (.within (signature "Seq" [g, maybe (many g)]) "element 0 failed"
          c.position cause) slot) ∨
      ∃ first second rest u, t.value = .matched first ∧
        (g.parser env .empty).reply? t.cursor = some u ∧
        r.value = .matched (.branch (first :: rest)) ∧
        s.value = .matched (.branch [first, second]) ∧
        (second = .empty ∨ ∃ ns, second = .branch ns) ∧
        (((∃ e, u.value = .failed e .empty) ∨ t.cursor.position < u.cursor.position) →
          rest = second.children) ∧
        ((∃ n, u.value = .matched n) → u.cursor.position = t.cursor.position → rest = [])) := by
  intro unfolded
  have hu : unfolded.leaves = [] :=
    leaves_eq_nil_iff.mpr ⟨rfl, List.forall_mem_cons.mpr ⟨hg, List.forall_mem_singleton.mpr hg⟩⟩
  have hi := hc.at_place
  have ⟨c₁, es₁, hr, ha₁, hs₁⟩ := @parser_follows _ (many g) _ hg hl _ _ slot hi
  have ⟨c₂, es₂, hs, ha₂, hs₂⟩ := parser_follows hu hl slot hi
  have ⟨c₃, es₃, ht, ha₃, _⟩ := parser_follows hg hl .empty hi
  refine ⟨_, _, _, hr, hs, ht, ?_⟩
  cases hv : g.meaning c.data hc.place .empty
  case error cause =>
    have hm : (many g).meaning c.data hc.place slot = _ := Meaning.many_of_error hv
    have hm' : unfolded.meaning c.data hc.place slot = _ := Meaning.seq_pair_of_error hv
    rw [hm] at ha₁ ⊢
    rw [hm'] at ha₂ ⊢
    have hq := ha₁.position_eq
    exact ⟨hq.trans ha₂.position_eq.symm, hs₁, hs₂, .inl ⟨cause, rfl, hq, rfl, rfl⟩⟩
  case ok v =>
    obtain ⟨j, first⟩ := v
    simp only [hv, Verdict.stop] at ha₃
    obtain ⟨c₄, es₄, hu, ha₄, _⟩ := parser_follows hg hl .empty ha₃
    have hle k n (h : g.meaning c.data j .empty = .ok (k, n)) : j ≤ k := meaning_le hg h
    obtain ⟨second, hn, hb, hmoves, hstays⟩ := @Meaning.maybe_many _ _ j (signature "Many" [g]) hle
    have hm : (many g).meaning c.data hc.place slot = _ := Meaning.many_of_ok hv
    have hm' : unfolded.meaning c.data hc.place slot = _ := Meaning.seq_pair_of_ok hv hn
    rw [hm] at ha₁ ⊢
    rw [hm'] at ha₂ ⊢
    refine ⟨ha₁.position_eq.trans ha₂.position_eq.symm, hs₁, hs₂, .inr ?_⟩
    refine ⟨first, second, _, _, rfl, hu, rfl, rfl, hb, ?moves, ?stays⟩
    case moves =>
      refine fun h => hmoves fun k n hw => ?_
      simp only [hw, Verdict.answer, Verdict.stop] at h ha₄
      rw [ha₃.position_eq, ha₄.position_eq] at h
      obtain ⟨_, he⟩ | hj := h
      case inl => cases he
      case inr => exact hj
    case stays =>
      rintro ⟨n, ha⟩ hq
      have hk : (g.meaning c.data j .empty).stop j = j :=
        Fin.ext (ha₄.position_eq.symm.trans (hq.trans ha₃.position_eq))
      have hw := Verdict.eq_ok_of_answer j ha
      rw [hk] at hw
      exact hstays n hw

-- Behind the only one, the unfolding has a match that the repetition leaves out.
theorem many_unfolds_of_one :
    let one : Node := .leaf (.token [1])
    let g : Grammar := .any [.literal (.byte 1), .seq []]
    let env : Env := { limit := 4, rule := fun _ _ => Run.exhausted }
    let c : Cursor := { data := [9, 1, 2], position := 1, saved := [1, 0], window := 2 }
    ∃ r s, ((many g).parser env .empty).reply? c = some r ∧
      ((seq [g, maybe (many g)]).parser env .empty).reply? c = some s ∧
      r.cursor.position = s.cursor.position ∧ r.value = .matched (.branch [one]) ∧
      s.value = .matched (.branch [one, .branch [.branch []]]) := by
  intro one g env c
  have ⟨r, s, t, hr, hs, ht, hp, _, _, h⟩ :=
    @many_unfolds g env rfl c (by decide) .empty (by decide)
  refine ⟨r, s, hr, hs, hp, ?_⟩
  have hs' : (((seq [g, maybe (many g)]).parser env .empty).reply? c).map (·.value) =
    some (.matched (.branch [one, .branch [.branch []]])) := by decide +kernel
  have ht' : ((g.parser env .empty).reply? c).map (fun t => (t.value, t.cursor)) =
    some (.matched one, { c with position := 2, window := 0 }) := by decide +kernel
  have hu' : ((g.parser env .empty).reply? { c with position := 2, window := 0 }).map
    (fun u => (u.value, u.cursor.position)) = some (.matched (.branch []), 2) := by decide +kernel
  rw [hs] at hs'
  rw [ht] at ht'
  have ⟨htv, htc⟩ := Prod.mk.inj (Option.some.inj ht')
  obtain ⟨_, hv, _⟩ | ⟨first, second, rest, u, hv, hu, hrv, hsv, _, _, hstays⟩ := h
  case inl => cases htv.symm.trans hv
  case inr =>
    rw [← htc, hu] at hu'
    have ⟨huv, hup⟩ := Prod.mk.inj (Option.some.inj hu')
    cases htv.symm.trans hv
    have hn := hstays ⟨_, huv⟩ (hup.trans (congrArg Cursor.position htc).symm)
    exact ⟨hn ▸ hrv, Option.some.inj hs'⟩

end Grammar
end Backtrack
