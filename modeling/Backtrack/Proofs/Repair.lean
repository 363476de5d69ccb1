import Backtrack.Script
import Backtrack.Proofs.Journal.Nested

namespace Backtrack

-- Closing the transaction of a run that has left all others as they were undoes the run.
theorem Run.pop_of_reply? {α : Type} {x : Run α} {c : Cursor} {r : Reply α}
    (h : x.reply? c.push = some r) (hs : r.cursor.saved = c.push.saved) :
    r.cursor.pop = { c with window := 0 } := by
  have hd : r.cursor.data = c.data := (x.replays h).data_eq
  rw [Cursor.pop_of_saved_eq_push hs, hd]

namespace Parser

-- A tidy parser leaves the open transactions as it found them. It may move the cursor and write to
-- the slot before it fails.
def Tidy (p : Parser) : Prop :=
  ∀ ⦃slot : Node⦄ ⦃c : Cursor⦄ ⦃r : Reply Answer⦄,
    c.Valid → (p slot).reply? c = some r → r.cursor.saved = c.saved

theorem Lawful.tidy {p : Parser} (hp : p.Lawful) : p.Tidy := by
  intro slot c r hc h
  have hl := hp hc h
  unfold Reply.Lawful at hl
  split at hl
  · exact hl.left
  · exact hl.right.left

-- Matches that follow one another, each in a transaction of its own that is kept.
inductive Rounds (p : Parser) : Cursor → List Node → Cursor → Prop
  | nil {c : Cursor} : Rounds p c [] c
  | cons {c c₁ d : Cursor} {node : Node} {nodes : List Node} {es : Journal} :
    (p .empty).reply? c.push = some ⟨.matched node, c₁, es⟩ → Rounds p c₁.commit nodes d →
      Rounds p c (node :: nodes) d

-- One more attempt from the cursor is no round: it fails, or it matches without moving.
def Stops (p : Parser) (c : Cursor) : Prop :=
  ∃ r, (p .empty).reply? c.push = some r ∧
    ((∃ e node, r.value = .failed e node) ∨ r.cursor.position = c.position)

namespace Tidy

variable {p : Parser} {ps : List Parser} {name : String} {i limit : Nat} {slot node : Node}
variable {c d : Cursor} {e : Failure} {r : Reply Answer}

theorem nests (hp : p.Tidy) : p.Nests fun c _ c₁ => c₁.saved = c.saved :=
  fun _ _ _ hc h => .call (hp hc h)

section

variable (hps : ∀ p ∈ ps, p.Tidy) (hc : c.Valid)

include hps hc

theorem elements {r : Reply (Except (Nat × Failure) (List Node))}
    (h : (elements i ps).reply? c = some r) : r.cursor.saved = c.saved :=
  (Nests.elements (fun p hp => (hps p hp).nests) hc h).saved_eq id

theorem firstOf {r : Reply (Except Node Node)} (h : (firstOf ps slot).reply? c = some r) :
    r.cursor.saved = c.saved :=
  (Nests.firstOf (fun p hp => (hps p hp).nests) hc h).saved_eq id

theorem seq (h : (Parser.seq name ps slot).reply? c = some r) (hv : r.value = .failed e node) :
    r.cursor = { c with window := 0 } ∧ node = slot := by
  cases reply?_seq_eq_some_iff.mp h
  case inl h =>
    have ⟨_, _, _, _, he⟩ := h
    cases he ▸ hv
  case inr h =>
    have ⟨_, _, _, _, hr, he⟩ := h
    cases he
    cases hv
    exact ⟨Run.pop_of_reply? hr (elements hps hc.push hr), rfl⟩

theorem any (h : (Parser.any name ps slot).reply? c = some r) (hv : r.value = .failed e node) :
    r.cursor = { c with window := 0 } := by
  cases reply?_any_eq_some_iff.mp h
  case inl h =>
    have ⟨_, _, _, _, he⟩ := h
    cases he ▸ hv
  case inr h =>
    have ⟨_, _, _, hr, he⟩ := h
    cases he
    exact Run.pop_of_reply? hr (firstOf hps hc.push hr)

end

theorem rounds_saved_eq {nodes : List Node} (hp : p.Tidy) (hc : c.Valid)
    (h : p.Rounds c nodes d) : d.saved = c.saved := by
  induction h
  case nil => rfl
  case cons hr _ hi =>
    have hs := Cursor.commit_saved_of_eq_push (hp hc.push hr)
    exact (hi (Run.valid_of_reply? hr hc.push).commit).trans hs

section

variable (hp : p.Tidy) (hc : c.Valid)

include hp hc

theorem maybe (h : (p slot).reply? c.push = some r) (hv : r.value = .failed e node) :
    ∃ s, (Parser.maybe name p slot).reply? c = some s ∧ s.value = .matched node ∧
      s.cursor = { c with window := 0 } := by
  have ⟨_, c₁, es⟩ := r
  cases hv
  exact ⟨_, reply?_maybe_eq_some_iff.mpr (.inr ⟨_, _, _, _, h, rfl⟩), rfl,
    Run.pop_of_reply? h (hp hc.push h)⟩

theorem repetitions {r : Reply (List Node)} (h : (repetitions name p limit).reply? c = some r) :
    ∃ d, p.Rounds c r.value d ∧ p.Stops d ∧ r.cursor = { d with window := 0 } := by
  induction limit generalizing c r
  case zero => cases h
  case succ limit hi =>
    rcases reply?_repetitions_succ_eq_some_iff.mp h with
      ⟨_, _, _, _, hr, rfl⟩ | ⟨_, _, _, hr, hq, rfl⟩ | ⟨_, _, _, _, hr, _, ht, rfl⟩
    case inl =>
      exact ⟨c, .nil, ⟨_, hr, .inl ⟨_, _, rfl⟩⟩, Run.pop_of_reply? hr (hp hc.push hr)⟩
    case inr.inl =>
      exact ⟨c, .nil, ⟨_, hr, .inr hq⟩, Run.pop_of_reply? hr (hp hc.push hr)⟩
    case inr.inr =>
      have ⟨d, hd, hs, he⟩ := hi (Run.valid_of_reply? hr hc.push).commit ht
      exact ⟨d, .cons hr hd, hs, he⟩

theorem many_of_failed (h : (Parser.many limit name p slot).reply? c = some r)
    (hv : r.value = .failed e node) : r.cursor = { c with window := 0 } ∧ node = slot := by
  rcases reply?_many_eq_some_iff.mp h with ⟨_, _, _, _, hr, rfl⟩ | ⟨_, _, _, _, _, _, rfl⟩ <;>
    cases hv
  exact ⟨Run.pop_of_reply? hr (hp hc.push hr), rfl⟩

theorem many_of_matched (h : (Parser.many limit name p slot).reply? c = some r)
    (hv : r.value = .matched node) :
    ∃ nodes d, node = .branch nodes ∧ nodes ≠ [] ∧ p.Rounds c nodes d ∧ p.Stops d ∧
      r.cursor = { d with window := 0 } := by
  rcases reply?_many_eq_some_iff.mp h with ⟨_, _, _, _, _, rfl⟩ | ⟨_, _, _, s, hr, ht, rfl⟩ <;>
    cases hv
  have ⟨d, hd, hs, he⟩ := repetitions hp (Run.valid_of_reply? hr hc.push).commit ht
  exact ⟨_, d, rfl, List.cons_ne_nil _ _, .cons hr hd, hs, he⟩

end

end Tidy

-- Whatever tidy parsers have done before they fail, a sequence and a repetition that fail leave the
-- cursor and the slot as they found them, a choice that fails leaves the cursor so, and an option
-- around a failure matches without having moved.
theorem combinators_repair {p : Parser} {ps : List Parser} {slot : Node} {c : Cursor}
    (hp : p.Tidy) (hps : ∀ p ∈ ps, p.Tidy) (hc : c.Valid) (name : String) (limit : Nat) :
    (∀ r e node, (seq name ps slot).reply? c = some r → r.value = .failed e node →
      r.cursor = { c with window := 0 } ∧ node = slot) ∧
    (∀ r e node, (any name ps slot).reply? c = some r → r.value = .failed e node →
      r.cursor = { c with window := 0 }) ∧
    (∀ r e node, (p slot).reply? c.push = some r → r.value = .failed e node →
      ∃ s, (maybe name p slot).reply? c = some s ∧ s.value = .matched node ∧
        s.cursor = { c with window := 0 }) ∧
    ∀ r, (many limit name p slot).reply? c = some r →
      (∀ e node, r.value = .failed e node → r.cursor = { c with window := 0 } ∧ node = slot) ∧
      ∀ node, r.value = .matched node →
        ∃ nodes d, node = .branch nodes ∧ nodes ≠ [] ∧ p.Rounds c nodes d ∧ p.Stops d ∧
          r.cursor = { d with window := 0 } ∧ d.saved = c.saved := by
  refine ⟨fun r e node h => Tidy.seq hps hc h, fun r e node h => Tidy.any hps hc h,
    fun r e node h => hp.maybe hc h, fun r h => ⟨fun e node => hp.many_of_failed hc h, ?_⟩⟩
  intro node hv
  have ⟨nodes, d, hn, hne, hr, hs, he⟩ := hp.many_of_matched hc h hv
  exact ⟨nodes, d, hn, hne, hr, hs, he, hp.rounds_saved_eq hc hr⟩

end Parser

theorem Script.parser_tidy {env : Env} {ss : List Script.Step}
    (h : ∀ s ∈ ss, (s.parser env).Tidy) : (Script.parser env ss).Tidy := by
  induction ss
  case nil =>
    intro slot c r _ hr
    cases hr
    rfl
  case cons s ss hi =>
    have ⟨hs, hss⟩ := List.forall_mem_cons.mp h
    intro slot c r hc hr
    have ⟨⟨a, c₁, es⟩, t, hq, ht, he⟩ := Run.reply?_bind_eq_some_iff.mp hr
    cases he
    have hs := hs hc hq
    cases a <;> dsimp only at ht
    case failed =>
      cases ht
      exact hs
    case matched => exact (hi hss (Run.valid_of_reply? hq hc) ht).trans hs

theorem Parser.combinators_repair_of_script :
    let env : Env := { limit := 5, rule := fun _ _ => Run.exhausted }
    let p := Script.parser env [.tryRequest 1, .advance, .token, .parse (.literal (.byte 1))]
    let c : Cursor := { data := [0, 1, 0, 1, 0, 2], position := 0, saved := [0], window := 3 }
    (∃ nodes d, p.Rounds c nodes d ∧ nodes.length = 2 ∧ d.position = 4 ∧ d.saved = [0]) ∧
    ∃ r e, (Parser.seq "P" [p, p, p] .empty).reply? c = some r ∧ r.value = .failed e .empty ∧
      r.cursor = { c with window := 0 } := by
  intro env p c
  have hp : p.Tidy := by
    refine Script.parser_tidy (List.forall_mem_cons.mpr ⟨?request, List.forall_mem_cons.mpr
      ⟨?advance, List.forall_mem_cons.mpr ⟨?token, List.forall_mem_singleton.mpr ?parse⟩⟩⟩)
    case parse => exact Matcher.parser_lawful.tidy
    all_goals
      intro slot c r _ h
      cases h
    case request => exact Cursor.request_preserves_saved
    all_goals rfl
  have hps : ∀ q ∈ [p, p, p], q.Tidy := by simp [hp]
  have ⟨hs, _, _, hm⟩ := @combinators_repair p [p, p, p] .empty c hp hps (by decide) "P" 5
  constructor
  case left =>
    have h : ((Parser.many 5 "P" p .empty).reply? c).map (fun r => (r.value, r.cursor.position)) =
        some (.matched (.branch [.leaf (.token [1]), .leaf (.token [1])]), 4) := by
      decide +kernel
    have ⟨r, hr, h⟩ := Option.map_eq_some_iff.mp h
    have ⟨hv, hq⟩ := Prod.mk.inj h
    have ⟨nodes, d, hn, _, hd, _, he, hd'⟩ := (hm r hr).right _ hv
    cases hn
    exact ⟨_, d, hd, rfl, (congrArg Cursor.position he).symm.trans hq, hd'⟩
  case right =>
    let e : Failure := .within "P" "element 2 failed" 0 ((Matcher.oneOf [1]).rejection [2] 5)
    have h : ((Parser.seq "P" [p, p, p] .empty).reply? c).map (·.value) =
        some (.failed e .empty) := by
      decide +kernel
    have ⟨r, hr, hv⟩ := Option.map_eq_some_iff.mp h
    have ⟨hc, _⟩ := hs r e .empty hr hv
    exact ⟨r, e, hr, hv, hc⟩

end Backtrack
