import Backtrack.Proofs.Meaning.Failures

namespace Backtrack

variable {data : List UInt8}

-- Both match up to the same place, or both fail. How what they come to compares is left open.
def Verdict.Agree (nodes : Node → Node → Prop) (failures : Failure → Failure → Prop)
    (v w : Verdict data) : Prop :=
  (∃ j n n', v = .ok (j, n) ∧ w = .ok (j, n') ∧ nodes n n') ∨
    ∃ e e', v = .error e ∧ w = .error e' ∧ failures e e'

namespace Meaning

variable {ms ns os : List (Meaning data)} {i j : Place data} {slot : Node} {nodes : List Node}
variable {name name' inner : String} {k : Nat}

theorem toOption_any :
    (any name ms i slot).toOption = ms.findSome? fun m => (m i slot).toOption := by
  cases h : ms.findSome? fun m => (m i slot).toOption <;> simp only [any, h] <;> rfl

theorem any_of_toOption_eq (h : (any name ms i slot).toOption = (any name' ns i slot).toOption) :
    Verdict.Agree (· = ·)
      (fun e e' => e = .rejected name "no alternative matched" i ∧
        e' = .rejected name' "no alternative matched" i)
      (any name ms i slot) (any name' ns i slot) := by
  rw [toOption_any, toOption_any] at h
  cases hf : ns.findSome? fun m => (m i slot).toOption <;> rw [hf] at h
  case some v =>
    exact .inl ⟨v.1, v.2, v.2, by simp only [any, h], by simp only [any, hf], rfl⟩
  case none =>
    exact .inr ⟨_, _, by simp only [any, h], by simp only [any, hf], rfl, rfl⟩

-- The number of the first element has a part only in the index of the one that fails.
theorem elements_eq_mapError :
    elements k ms i = (elements 0 ms i).mapError fun e => (k + e.1, e.2) := by
  induction ms generalizing k i
  case nil => rfl
  case cons m ms hi =>
    cases hv : m i .empty
    case error => simp only [elements, hv, Except.mapError, Nat.add_zero]
    case ok v =>
      simp only [elements, hv, @hi v.1 (k + 1), @hi v.1 (0 + 1)]
      cases elements 0 ms v.1 <;> simp [Except.map, Except.mapError, Nat.add_assoc]

theorem elements_append :
    elements k (ms ++ ns) i =
      match elements k ms i with
      | .error e => .error e
      | .ok (j, nodes) =>
        (elements (k + ms.length) ns j).map fun (l, more) => (l, nodes ++ more) := by
  induction ms generalizing k i
  case nil =>
    simp only [List.nil_append, elements, List.length_nil, Nat.add_zero]
    cases elements k ns i <;> rfl
  case cons m ms hi =>
    cases hv : m i .empty
    case error => simp only [List.cons_append, elements, hv]
    case ok v =>
      simp only [List.cons_append, elements, hv, hi, List.length_cons]
      cases elements (k + 1) ms v.1
      case error => rfl
      case ok w =>
        simp only [Except.map, Nat.add_assoc, Nat.add_comm 1]
        cases elements (k + (ms.length + 1)) ns w.1 <;> rfl

theorem length_of_elements (h : elements k ms i = .ok (j, nodes)) : nodes.length = ms.length := by
  induction ms generalizing k i j nodes
  case nil =>
    cases h
    rfl
  case cons m ms hi =>
    cases hv : m i .empty <;> simp only [elements, hv] at h
    case error => cases h
    case ok v =>
      cases hw : elements (k + 1) ms v.1 <;> simp only [hw, Except.map] at h <;> cases h
      rw [List.length_cons, List.length_cons, hi hw]

-- Opening the inner sequence moves the index of the element that fails, but not its failure, which
-- the inner sequence has only passed on.
theorem elements_nested :
    (∃ j nodes more rest, nodes.length = ms.length ∧
      elements 0 (ms ++ [seq inner ns] ++ os) i = .ok (j, nodes ++ .branch more :: rest) ∧
      elements 0 (ms ++ ns ++ os) i = .ok (j, nodes ++ more ++ rest)) ∨
    ∃ k l e e', elements 0 (ms ++ [seq inner ns] ++ os) i = .error (k, e) ∧
      elements 0 (ms ++ ns ++ os) i = .error (l, e') ∧ e.innermost = e'.innermost := by
  simp only [elements_append, @elements_eq_mapError _ ns _ (0 + _),
    @elements_eq_mapError _ os _ (0 + _)]
  cases hv : elements 0 ms i
  case error e => exact .inr ⟨_, _, _, _, rfl, rfl, rfl⟩
  case ok v =>
    cases hw : elements 0 ns v.1
    all_goals simp only [elements, seq, hw, Except.mapError, Except.map]
    case error e => exact .inr ⟨_, _, _, _, rfl, rfl, rfl⟩
    case ok w =>
      cases elements 0 os w.1
      case error e => exact .inr ⟨_, _, _, _, rfl, rfl, rfl⟩
      case ok x =>
        refine .inl ⟨x.1, v.2, w.2, x.2, length_of_elements hv, ?_, rfl⟩
        simp only [List.append_assoc, List.singleton_append]

end Meaning

namespace Grammar

variable {g h : Grammar} {gs hs ks : List Grammar} {env : Env} {c : Cursor} {i : Place data}
variable {slot : Node}

theorem any_nested_agree :
    Verdict.Agree (· = ·)
      (fun e e' =>
        e = .rejected (signature "Any" (gs ++ [any hs] ++ ks)) "no alternative matched" i ∧
        e' = .rejected (signature "Any" (gs ++ hs ++ ks)) "no alternative matched" i)
      ((any (gs ++ [any hs] ++ ks)).meaning data i slot)
      ((any (gs ++ hs ++ ks)).meaning data i slot) := by
  simp only [meaning, meanings_eq_map, List.map_append, List.map_singleton]
  refine Meaning.any_of_toOption_eq ?_
  simp only [Meaning.toOption_any, List.findSome?_append, List.findSome?_singleton]

theorem seq_nested_agree :
    Verdict.Agree
      (fun n n' => ∃ nodes more rest, nodes.length = gs.length ∧
        n = .branch (nodes ++ .branch more :: rest) ∧ n' = .branch (nodes ++ more ++ rest))
      (fun e e' => e.position = i ∧ e'.position = i ∧ e.innermost = e'.innermost)
      ((seq (gs ++ [seq hs] ++ ks)).meaning data i slot)
      ((seq (gs ++ hs ++ ks)).meaning data i slot) := by
  simp only [meaning, meanings_eq_map, List.map_append, List.map_singleton]
  obtain ⟨j, nodes, more, rest, hn, hv, hv'⟩ | ⟨k, l, e, e', hv, hv', he⟩ :=
    @Meaning.elements_nested _ (gs.map fun g => g.meaning data) (hs.map fun g => g.meaning data)
      (ks.map fun g => g.meaning data) i (signature "Seq" hs)
  all_goals simp only [Meaning.seq, hv, hv']
  case inl =>
    rw [List.length_map] at hn
    exact .inl ⟨j, _, _, rfl, rfl, nodes, more, rest, hn, rfl, rfl⟩
  case inr => exact .inr ⟨_, _, rfl, rfl, rfl, rfl, he⟩

theorem replies_agree {nodes : Node → Node → Prop} {failures : Failure → Failure → Prop}
    (hg : g.leaves = []) (hh : h.leaves = []) (hc : c.Valid) (slot : Node)
    (hl : c.data.length < env.limit)
    (hm : Verdict.Agree nodes failures (g.meaning c.data hc.place slot)
      (h.meaning c.data hc.place slot)) :
    ∃ r s, (g.parser env slot).reply? c = some r ∧ (h.parser env slot).reply? c = some s ∧
      r.cursor.position = s.cursor.position ∧ r.cursor.saved = c.saved ∧ s.cursor.saved = c.saved ∧
      ((∃ n n', r.value = .matched n ∧ s.value = .matched n' ∧ nodes n n') ∨
      ∃ e e', r.cursor.position = c.position ∧ r.value = .failed e slot ∧
        s.value = .failed e' slot ∧ failures e e') := by
  have ⟨c₁, es₁, hr, ha₁, hs₁⟩ := parser_follows hg hl slot hc.at_place
  have ⟨c₂, es₂, ht, ha₂, hs₂⟩ := parser_follows hh hl slot hc.at_place
  refine ⟨_, _, hr, ht, ?_⟩
  obtain ⟨j, n, n', hv, hv', hn⟩ | ⟨e, e', hv, hv', he⟩ := hm
  all_goals
    rw [hv] at ha₁ ⊢
    rw [hv'] at ha₂ ⊢
    have hp := ha₁.position_eq.trans ha₂.position_eq.symm
  case inl => exact ⟨hp, hs₁, hs₂, .inl ⟨n, n', rfl, rfl, hn⟩⟩
  case inr => exact ⟨hp, hs₁, hs₂, .inr ⟨e, e', ha₁.position_eq, rfl, rfl, he⟩⟩

-- The parts of a grammar may stand in its place.
theorem leaves_eq_nil_of_spliced {g : Grammar} (hn : g.leaf? = none)
    (hg : ∀ h ∈ gs ++ g.parts ++ ks, h.leaves = []) : ∀ h ∈ gs ++ [g] ++ ks, h.leaves = [] := by
  simp only [List.forall_mem_append, List.forall_mem_singleton] at hg ⊢
  exact ⟨⟨hg.left.left, leaves_eq_nil_iff.mpr ⟨hn, hg.left.right⟩⟩, hg.right⟩

-- A choice in a choice and the choice of all alternatives come to the same position with the same
-- slot, or both fail where they have begun.
theorem nested_choice_flattens (hg : ∀ g ∈ gs ++ hs ++ ks, g.leaves = []) (hc : c.Valid)
    (slot : Node) (hl : c.data.length < env.limit) :
    let nested : Grammar := any (gs ++ [any hs] ++ ks)
    let flat : Grammar := any (gs ++ hs ++ ks)
    ∃ r s, (nested.parser env slot).reply? c = some r ∧ (flat.parser env slot).reply? c = some s ∧
      r.cursor.position = s.cursor.position ∧ r.cursor.saved = c.saved ∧ s.cursor.saved = c.saved ∧
      ((∃ node, r.value = .matched node ∧ s.value = .matched node) ∨
        r.cursor.position = c.position ∧
        r.value = .failed (.rejected (signature "Any" (gs ++ [any hs] ++ ks))
          "no alternative matched" c.position) slot ∧
        s.value = .failed (.rejected (signature "Any" (gs ++ hs ++ ks))
          "no alternative matched" c.position) slot) := by
  intro nested flat
  have hn : (any (gs ++ [any hs] ++ ks)).leaves = [] :=
    leaves_eq_nil_iff.mpr ⟨rfl, leaves_eq_nil_of_spliced rfl hg⟩
  have hf : (any (gs ++ hs ++ ks)).leaves = [] := leaves_eq_nil_iff.mpr ⟨rfl, hg⟩
  obtain ⟨r, s, hr, hs, hp, hd, hd', hv⟩ := replies_agree hn hf hc slot hl any_nested_agree
  refine ⟨r, s, hr, hs, hp, hd, hd', ?_⟩
  obtain ⟨node, _, hv, hv', rfl⟩ | ⟨_, _, hq, hv, hv', rfl, rfl⟩ := hv
  case inl => exact .inl ⟨node, hv, hv'⟩
  case inr => exact .inr ⟨hq, hv, hv'⟩

theorem nested_choice_flattens_of_option :
    let gs : List Grammar := [.literal (.byte 7)]
    let hs : List Grammar :=
      [.seq [.literal (.byte 1), .literal (.byte 9)], .maybe (.literal (.string "x"))]
    let ks : List Grammar := [.matcher .byte]
    let env : Env := { limit := 4, rule := fun _ _ => Run.exhausted }
    let c : Cursor := { data := [0, 1, 2], position := 1, saved := [0], window := 2 }
    let slot : Node := .leaf (.text "kept")
    ∃ r s, ((any (gs ++ [any hs] ++ ks)).parser env slot).reply? c = some r ∧
      ((any (gs ++ hs ++ ks)).parser env slot).reply? c = some s ∧
      r.value = .matched slot ∧ s.value = .matched slot ∧ r.cursor.position = 1 := by
  intro gs hs ks env c slot
  have hg : ∀ g ∈ gs ++ hs ++ ks, g.leaves = [] := List.flatMap_eq_nil_iff.mp rfl
  have ⟨r, s, hr, ht, hp, _, _, h⟩ :=
    @nested_choice_flattens gs hs ks env c hg (by decide) slot (by decide)
  have hd : (((any (gs ++ hs ++ ks)).parser env slot).reply? c).map (fun s =>
      (s.value, s.cursor.position)) = some (.matched slot, 1) := by
    decide +kernel
  rw [ht] at hd
  have ⟨hv, hq⟩ := Prod.mk.inj (Option.some.inj hd)
  obtain ⟨node, hr', hv'⟩ | ⟨_, _, hv'⟩ := h <;> cases hv.symm.trans hv'
  exact ⟨r, s, hr, ht, hr', hv, hp.trans hq⟩

-- A sequence in a sequence and the sequence of all elements come to the same position, and the
-- nodes of the one become those of the other when the branch of the inner sequence is opened. If
-- they fail, then on the same failure of an element.
theorem nested_sequence_regroups (hg : ∀ g ∈ gs ++ hs ++ ks, g.leaves = []) (hc : c.Valid)
    (slot : Node) (hl : c.data.length < env.limit) :
    let nested : Grammar := seq (gs ++ [seq hs] ++ ks)
    let flat : Grammar := seq (gs ++ hs ++ ks)
    ∃ r s, (nested.parser env slot).reply? c = some r ∧ (flat.parser env slot).reply? c = some s ∧
      r.cursor.position = s.cursor.position ∧ r.cursor.saved = c.saved ∧ s.cursor.saved = c.saved ∧
      ((∃ nodes more rest, nodes.length = gs.length ∧
        r.value = .matched (.branch (nodes ++ .branch more :: rest)) ∧
        s.value = .matched (.branch (nodes ++ more ++ rest))) ∨
      ∃ e e', r.cursor.position = c.position ∧ e.position = c.position ∧
        e'.position = c.position ∧ e.innermost = e'.innermost ∧ r.value = .failed e slot ∧
        s.value = .failed e' slot) := by
  intro nested flat
  have hn : (seq (gs ++ [seq hs] ++ ks)).leaves = [] :=
    leaves_eq_nil_iff.mpr ⟨rfl, leaves_eq_nil_of_spliced rfl hg⟩
  have hf : (seq (gs ++ hs ++ ks)).leaves = [] := leaves_eq_nil_iff.mpr ⟨rfl, hg⟩
  obtain ⟨r, s, hr, hs, hp, hd, hd', hv⟩ := replies_agree hn hf hc slot hl seq_nested_agree
  refine ⟨r, s, hr, hs, hp, hd, hd', ?_⟩
  obtain ⟨_, _, hv, hv', nodes, more, rest, hn, rfl, rfl⟩ | ⟨e, e', hq, hv, hv', he, he', hi⟩ := hv
  case inl => exact .inl ⟨nodes, more, rest, hn, hv, hv'⟩
  case inr => exact .inr ⟨e, e', hq, he, he', hi, hv, hv'⟩

theorem nested_sequence_regroups_of_rollback :
    let gs : List Grammar := [.literal (.byte 1)]
    let hs : List Grammar := [.maybe (.literal (.byte 5)), .literal (.byte 2)]
    let ks : List Grammar := [.literal (.bytes [9])]
    let env : Env := { limit := 5, rule := fun _ _ => Run.exhausted }
    let c : Cursor := { data := [0, 1, 2, 3], position := 1, saved := [0], window := 2 }
    let root : Failure := (Matcher.bytes [9]).rejection [3] 3
    ∃ r s e e', ((seq (gs ++ [seq hs] ++ ks)).parser env .empty).reply? c = some r ∧
      ((seq (gs ++ hs ++ ks)).parser env .empty).reply? c = some s ∧
      r.value = .failed e .empty ∧ s.value = .failed e' .empty ∧ r.cursor.position = 1 ∧
      r.cursor.saved = [0] ∧ e.innermost = root ∧ e'.innermost = root := by
  intro gs hs ks env c root
  have hg : ∀ g ∈ gs ++ hs ++ ks, g.leaves = [] := List.flatMap_eq_nil_iff.mp rfl
  have ⟨r, s, hr, ht, _, hd, _, h⟩ :=
    @nested_sequence_regroups gs hs ks env c hg (by decide) .empty (by decide)
  have hv : (((seq (gs ++ hs ++ ks)).parser env .empty).reply? c).map (·.value) =
      some (.failed (.within "Seq(Byte, Parser, Byte, Bytes)" "element 3 failed" 1 root)
        .empty) := by
    decide +kernel
  rw [ht] at hv
  replace hv := Option.some.inj hv
  obtain ⟨_, _, _, _, _, hv'⟩ | ⟨e, e', hp, _, _, he, hr', hv'⟩ := h <;> cases hv.symm.trans hv'
  exact ⟨r, s, e, _, hr, ht, hr', hv, hp, hd, he, rfl⟩

end Grammar
end Backtrack
