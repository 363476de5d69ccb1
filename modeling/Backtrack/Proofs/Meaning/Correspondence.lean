import Mathlib.Data.List.Forall2
import Backtrack.Proofs.Meaning.Refinement

namespace Backtrack

-- How the places, nodes and failures of one run stand for those of another. What the matchers keep
-- to, all that is built from them keeps to.
structure Correspondence (data data' : List UInt8) where
  place   : Place data → Place data'
  name    : String → String → Prop
  node    : Node → Node → Prop
  failure : Failure → Failure → Prop
  -- The same bytes lie ahead of both runs.
  drop_place {i : Place data} : data'.drop (place i) = data.drop i
  empty : node .empty .empty
  branch {ns ns' : List Node} : List.Forall₂ node ns ns' → node (.branch ns) (.branch ns')
  insufficient {requested remaining : Nat} {i : Place data} :
    failure (.insufficient requested remaining i) (.insufficient requested remaining (place i))
  rejected {n n' message : String} {i : Place data} :
    name n n' → failure (.rejected n message i) (.rejected n' message (place i))
  within {n n' message : String} {i : Place data} {e e' : Failure} : name n n' → failure e e' →
    failure (.within n message i e) (.within n' message (place i) e')

namespace Correspondence

-- The way to the end of the input is the same, hence the places differ by a fixed distance.
theorem place_add {data data' : List UInt8} (R : Correspondence data data') (i j : Place data) :
    (R.place j).val + i = R.place i + j := by
  have hi := congrArg List.length (R.drop_place (i := i))
  have hj := congrArg List.length (R.drop_place (i := j))
  simp only [List.length_drop] at hi hj
  omega

theorem place_lt_iff {data data' : List UInt8} (R : Correspondence data data') {i j : Place data} :
    R.place i < R.place j ↔ i < j := by
  have := R.place_add i j
  simp only [Fin.lt_def]
  omega

variable {data data' : List UInt8} (R : Correspondence data data')

def Verdicts (v : Verdict data) (v' : Verdict data') : Prop :=
  (∃ j n n', v = .ok (j, n) ∧ v' = .ok (R.place j, n') ∧ R.node n n') ∨
    ∃ e e', v = .error e ∧ v' = .error e' ∧ R.failure e e'

def Meanings (m : Meaning data) (m' : Meaning data') : Prop :=
  ∀ (i : Place data) ⦃slot slot' : Node⦄,
    R.node slot slot' → R.Verdicts (m i slot) (m' (R.place i) slot')

variable {R} {m : Meaning data} {m' : Meaning data'}
variable {ms : List (Meaning data)} {ms' : List (Meaning data')}
variable {i : Place data} {slot slot' n n' : Node} {e e' : Failure} {name name' : String}

theorem Verdicts.ok (h : R.node n n') : R.Verdicts (.ok (i, n)) (.ok (R.place i, n')) :=
  .inl ⟨i, n, n', rfl, rfl, h⟩

theorem Verdicts.error (h : R.failure e e') : R.Verdicts (.error e) (.error e') :=
  .inr ⟨e, e', rfl, rfl, h⟩

namespace Meanings

theorem matcher {m n : Matcher} (hw : n.width = m.width)
    (ha : ∀ window, n.accepts window = m.accepts window)
    (hv : ∀ window, m.accepts window → R.node (.leaf (m.value window)) (.leaf (n.value window)))
    (hr : ∀ window (i : Place data),
      R.failure (m.rejection window i) (n.rejection window (R.place i))) :
    R.Meanings (Meaning.matcher m) (Meaning.matcher n) := by
  intro i slot slot' _
  have hd : data'.drop (R.place i) = data.drop i := R.drop_place
  have hl : (data'.drop (R.place i)).length = (data.drop i).length := congrArg List.length hd
  by_cases hm : m.width ≤ (data.drop i).length
  case neg =>
    replace hm := Nat.lt_of_not_le hm
    rw [Meaning.matcher_of_lt hm, Meaning.matcher_of_lt (by omega), hw, hd]
    exact .error R.insufficient
  case pos =>
    have hn : n.width ≤ (data'.drop (R.place i)).length := by omega
    have ha : n.accepts ((data'.drop (R.place i)).take n.width) =
      m.accepts ((data.drop i).take m.width) := by rw [hd, hw, ha]
    by_cases hm' : m.accepts ((data.drop i).take m.width)
    case neg =>
      rw [Meaning.matcher_of_not_accepts hm hm', Meaning.matcher_of_not_accepts hn (ha ▸ hm'), hd,
        hw]
      exact .error (hr _ i)
    case pos =>
      have ⟨j, hj, he⟩ := Meaning.matcher_of_accepts hm hm' slot
      have ⟨j', hj', he'⟩ := Meaning.matcher_of_accepts hn (ha ▸ hm') slot'
      have hp := R.place_add i j
      have hp : j' = R.place j := Fin.ext (by omega)
      rw [he, he', hp, hd, hw]
      exact .ok (hv _ hm')

theorem elements (h : List.Forall₂ R.Meanings ms ms') (k : Nat) (i : Place data) :
    (∃ j ns ns', Meaning.elements k ms i = .ok (j, ns) ∧
      Meaning.elements k ms' (R.place i) = .ok (R.place j, ns') ∧ List.Forall₂ R.node ns ns') ∨
    ∃ l e e', Meaning.elements k ms i = .error (l, e) ∧
      Meaning.elements k ms' (R.place i) = .error (l, e') ∧ R.failure e e' := by
  induction h generalizing k i
  case nil => exact .inl ⟨i, [], [], rfl, rfl, .nil⟩
  case cons m m' ms ms' hm _ hi =>
    obtain ⟨j, n, n', hv, hv', hn⟩ | ⟨e, e', hv, hv', he⟩ := hm i R.empty
    all_goals simp only [Meaning.elements, hv, hv']
    case inr => exact .inr ⟨k, e, e', rfl, rfl, he⟩
    case inl =>
      obtain ⟨l, ns, ns', hw, hw', hns⟩ | ⟨l, e, e', hw, hw', he⟩ := hi (k + 1) j
      all_goals simp only [hw, hw', Except.map]
      case inl => exact .inl ⟨l, n :: ns, n' :: ns', rfl, rfl, .cons hn hns⟩
      case inr => exact .inr ⟨l, e, e', rfl, rfl, he⟩

theorem seq (h : List.Forall₂ R.Meanings ms ms') (hn : R.name name name') :
    R.Meanings (Meaning.seq name ms) (Meaning.seq name' ms') := by
  intro i slot slot' _
  obtain ⟨j, ns, ns', hv, hv', hns⟩ | ⟨l, e, e', hv, hv', he⟩ := elements h 0 i
  all_goals simp only [Meaning.seq, hv, hv']
  case inl => exact .ok (R.branch hns)
  case inr => exact .error (R.within hn he)

theorem findSome? (h : List.Forall₂ R.Meanings ms ms') (i : Place data) (hs : R.node slot slot') :
    let found := ms.findSome? fun m => (m i slot).toOption
    let found' := ms'.findSome? fun m => (m (R.place i) slot').toOption
    (∃ j n n', found = some (j, n) ∧ found' = some (R.place j, n') ∧ R.node n n') ∨
      found = none ∧ found' = none := by
  induction h
  case nil => exact .inr ⟨rfl, rfl⟩
  case cons hm _ hi =>
    obtain ⟨j, n, n', hv, hv', hn⟩ | ⟨e, e', hv, hv', _⟩ := hm i hs
    all_goals simp only [List.findSome?_cons, hv, hv', Except.toOption]
    case inl => exact .inl ⟨j, n, n', rfl, rfl, hn⟩
    case inr => exact hi

theorem any (h : List.Forall₂ R.Meanings ms ms') (hn : R.name name name') :
    R.Meanings (Meaning.any name ms) (Meaning.any name' ms') := by
  intro i slot slot' hs
  obtain ⟨j, n, n', hv, hv', hn⟩ | ⟨hv, hv'⟩ := findSome? h i hs
  all_goals simp only [Meaning.any, hv, hv']
  case inl => exact .ok hn
  case inr => exact .error (R.rejected hn)

theorem maybe (h : R.Meanings m m') : R.Meanings (Meaning.maybe m) (Meaning.maybe m') := by
  intro i slot slot' hs
  obtain ⟨j, n, n', hv, hv', hn⟩ | ⟨e, e', hv, hv', _⟩ := h i hs
  all_goals simp only [Meaning.maybe, hv, hv']
  case inl => exact .ok hn
  case inr => exact .ok hs

theorem repetitions (h : R.Meanings m m') (i : Place data) :
    (m'.repetitions (R.place i)).1 = R.place (m.repetitions i).1 ∧
      List.Forall₂ R.node (m.repetitions i).2 (m'.repetitions (R.place i)).2 := by
  induction i using Meaning.repetitions.induct m
  case case1 i e hw =>
    obtain ⟨_, _, _, he, _⟩ | ⟨_, _, _, hw', _⟩ := h i R.empty
    case inl => cases hw.symm.trans he
    case inr =>
      rw [Meaning.repetitions_of_error hw, Meaning.repetitions_of_error hw']
      exact ⟨rfl, .nil⟩
  case case2 i j n hw hj _ _ _ hi =>
    obtain ⟨_, _, _, he, hw', hn⟩ | ⟨_, _, he, _⟩ := h i R.empty <;> cases hw.symm.trans he
    rw [Meaning.repetitions_of_lt hw hj, Meaning.repetitions_of_lt hw' (R.place_lt_iff.mpr hj)]
    exact ⟨hi.left, .cons hn hi.right⟩
  case case3 i j n hw hj =>
    obtain ⟨_, _, _, he, hw', _⟩ | ⟨_, _, he, _⟩ := h i R.empty <;> cases hw.symm.trans he
    have hj' := R.place_lt_iff.not.mpr hj
    rw [Meaning.repetitions_of_not_lt hw hj, Meaning.repetitions_of_not_lt hw' hj']
    exact ⟨rfl, .nil⟩

theorem many (h : R.Meanings m m') (hn : R.name name name') :
    R.Meanings (Meaning.many name m) (Meaning.many name' m') := by
  intro i slot slot' _
  obtain ⟨j, n, n', hv, hv', hm⟩ | ⟨e, e', hv, hv', he⟩ := h i R.empty
  all_goals simp only [Meaning.many, hv, hv']
  case inl =>
    obtain ⟨hp, hns⟩ := repetitions h j
    rw [hp]
    exact .ok (R.branch (.cons hm hns))
  case inr => exact .error (R.within hn he)

theorem map {f f' : Node → Node} (h : R.Meanings m m')
    (hf : ∀ n n', R.node n n' → R.node (f n) (f' n')) :
    R.Meanings (Meaning.map f m) (Meaning.map f' m') := by
  intro i slot slot' hs
  obtain ⟨j, n, n', hv, hv', hn⟩ | ⟨e, e', hv, hv', he⟩ := h i hs
  all_goals simp only [Meaning.map, hv, hv', Except.map]
  case inl => exact .ok (hf n n' hn)
  case inr => exact .error he

end Meanings
end Correspondence

namespace Grammar

variable {data data' : List UInt8} {R : Correspondence data data'} {g h : Grammar}
variable {gs hs : List Grammar} {env env' : Env} {i : Place data} {slot slot' : Node}
variable {c d : Cursor} {r s : Reply Answer}

theorem meanings_correspond
    (h : List.Forall₂ (fun g h => R.Meanings (g.meaning data) (h.meaning data')) gs hs) :
    List.Forall₂ R.Meanings (meanings data gs) (meanings data' hs) := by
  rwa [meanings_eq_map, meanings_eq_map, List.forall₂_map_left_iff, List.forall₂_map_right_iff]

theorem replies_correspond (hm : R.Meanings (g.meaning data) (h.meaning data'))
    (hg : g.leaves = []) (hh : h.leaves = []) (hc : c.At i) (hd : d.At (R.place i))
    (hs : R.node slot slot') (hr : (g.parser env slot).reply? c = some r)
    (hr' : (h.parser env' slot').reply? d = some s) :
    s.cursor.position + c.position = d.position + r.cursor.position ∧
      ((∃ n n', r.value = .matched n ∧ s.value = .matched n' ∧ R.node n n') ∨
        ∃ e e', r.value = .failed e slot ∧ s.value = .failed e' slot' ∧ R.failure e e') := by
  have ⟨hv, ha, _⟩ := follows_of_reply? hg hc hr
  have ⟨hv', ha', _⟩ := follows_of_reply? hh hd hr'
  have hp := ha.position_eq
  have hp' := ha'.position_eq
  rw [hc.position_eq, hd.position_eq]
  obtain ⟨j, n, n', hw, hw', hn⟩ | ⟨e, e', hw, hw', he⟩ := hm i hs
  all_goals
    simp only [hw, hw', Verdict.answer, Verdict.stop] at hv hv' hp hp'
    rw [hp, hp']
  case inl => exact ⟨R.place_add i j, .inl ⟨n, n', hv, hv', hn⟩⟩
  case inr => exact ⟨rfl, .inr ⟨e, e', hv, hv', he⟩⟩

end Grammar
end Backtrack
