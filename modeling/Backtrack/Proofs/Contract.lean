import Backtrack.Proofs.Cursor.Valid
import Backtrack.Proofs.Grammar.Parts
import Backtrack.Proofs.Parser.Replies

namespace Backtrack

theorem Run.valid_of_reply? {α : Type} {x : Run α} {c : Cursor} {r : Reply α}
    (h : x.reply? c = some r) (hc : c.Valid) : r.cursor.Valid :=
  (x.replays h).valid hc

namespace Cursor

variable {c c₁ : Cursor}

-- What closing a transaction does that was opened on `c` and has not been closed since.
theorem pop_of_saved_eq_push (h : c₁.saved = c.push.saved) :
    c₁.pop = { c₁ with position := c.position, saved := c.saved, window := 0 } :=
  pop_of_saved_cons h

theorem commit_saved_of_eq_push (h : c₁.saved = c.push.saved) : c₁.commit.saved = c.saved := by
  simp [commit, h, push]

end Cursor

-- A parser that succeeds leaves the transactions as they were and does not go back. One that fails
-- leaves everything as it was, but for the window.
def Reply.Lawful (r : Reply Answer) (slot : Node) (c : Cursor) : Prop :=
  match r.value with
  | .matched _ => r.cursor.saved = c.saved ∧ c.position ≤ r.cursor.position
  | .failed _ node => r.cursor.position = c.position ∧ r.cursor.saved = c.saved ∧ node = slot

namespace Parser

def Lawful (p : Parser) : Prop :=
  ∀ ⦃slot : Node⦄ ⦃c : Cursor⦄ ⦃r : Reply Answer⦄,
    c.Valid → (p slot).reply? c = some r → r.Lawful slot c

namespace Lawful

variable {p : Parser} {ps : List Parser} {name : String} {i limit : Nat} {slot : Node}
variable {c : Cursor}

theorem leaf (hp : p.Lawful) : p.leaf.Lawful := by
  intro slot c r hc h
  obtain ⟨_, hr, rfl⟩ := reply?_leaf_eq_some_iff.mp h
  have hl := hp hc hr
  exact hl

theorem map {f : Node → Node} (hp : p.Lawful) : (p.map f).Lawful := by
  intro slot c r hc h
  obtain ⟨_, _, _, hr, rfl⟩ | ⟨_, _, _, _, hr, rfl⟩ := reply?_map_eq_some_iff.mp h
  all_goals
    have hl := hp hc hr
    exact hl

theorem elements {r : Reply (Except (Nat × Failure) (List Node))} (hps : ∀ p ∈ ps, p.Lawful)
    (hc : c.Valid) (h : (elements i ps).reply? c = some r) :
    r.cursor.saved = c.saved ∧ c.position ≤ r.cursor.position := by
  induction ps generalizing i c r
  case nil => cases h; simp
  case cons p ps hi =>
    have ⟨hp, hps⟩ := List.forall_mem_cons.mp hps
    obtain ⟨_, _, _, _, hr, rfl⟩ | ⟨_, _, _, _, hr, ht, rfl⟩ :=
      reply?_elements_cons_eq_some_iff.mp h
    case inl =>
      have ⟨hq, hs, _⟩ := hp hc hr
      exact ⟨hs, Nat.le_of_eq hq.symm⟩
    case inr =>
      have ⟨hs, hq⟩ := hp hc hr
      have ⟨hs', hq'⟩ := hi hps (Run.valid_of_reply? hr hc) ht
      exact ⟨hs'.trans hs, Nat.le_trans hq hq'⟩

theorem seq (hps : ∀ p ∈ ps, p.Lawful) : (Parser.seq name ps).Lawful := by
  intro slot c r hc h
  obtain ⟨_, _, _, hr, rfl⟩ | ⟨_, _, _, _, hr, rfl⟩ := reply?_seq_eq_some_iff.mp h
  all_goals have ⟨hs, hq⟩ := elements hps hc.push hr
  case inl => exact ⟨Cursor.commit_saved_of_eq_push hs, hq⟩
  case inr => simp [Reply.Lawful, Cursor.pop_of_saved_eq_push hs]

-- The slot passes from one alternative to the next, so each has to hand it back as it was.
theorem firstOf {r : Reply (Except Node Node)} (hps : ∀ p ∈ ps, p.Lawful) (hc : c.Valid)
    (h : (firstOf ps slot).reply? c = some r) :
    r.cursor.saved = c.saved ∧ c.position ≤ r.cursor.position ∧
      ∀ node, r.value = .error node → node = slot := by
  induction ps generalizing c slot r
  case nil => cases h; simp
  case cons p ps hi =>
    have ⟨hp, hps⟩ := List.forall_mem_cons.mp hps
    obtain ⟨_, _, _, hr, rfl⟩ | ⟨_, _, _, _, _, hr, ht, rfl⟩ :=
      reply?_firstOf_cons_eq_some_iff.mp h
    case inl =>
      have ⟨hs, hq⟩ := hp hc hr
      exact ⟨hs, hq, nofun⟩
    case inr =>
      have ⟨hq, hs, hn⟩ := hp hc hr
      have ⟨hs', hq', hn'⟩ := hi hps (Run.valid_of_reply? hr hc) ht
      exact ⟨hs'.trans hs, hq ▸ hq', fun node he => (hn' node he).trans hn⟩

theorem any (hps : ∀ p ∈ ps, p.Lawful) : (Parser.any name ps).Lawful := by
  intro slot c r hc h
  obtain ⟨_, _, _, hr, rfl⟩ | ⟨_, _, _, hr, rfl⟩ := reply?_any_eq_some_iff.mp h
  all_goals have ⟨hs, hq, hn⟩ := firstOf hps hc.push hr
  case inl => exact ⟨Cursor.commit_saved_of_eq_push hs, hq⟩
  case inr => simp [Reply.Lawful, Cursor.pop_of_saved_eq_push hs, hn _ rfl]

theorem maybe (hp : p.Lawful) : (Parser.maybe name p).Lawful := by
  intro slot c r hc h
  obtain ⟨_, _, _, hr, rfl⟩ | ⟨_, _, _, _, hr, rfl⟩ := reply?_maybe_eq_some_iff.mp h
  case inl =>
    have ⟨hs, hq⟩ := hp hc.push hr
    exact ⟨Cursor.commit_saved_of_eq_push hs, hq⟩
  case inr =>
    have ⟨_, hs, _⟩ := hp hc.push hr
    simp [Reply.Lawful, Cursor.pop_of_saved_eq_push hs]

theorem repetitions {r : Reply (List Node)} (hp : p.Lawful) (hc : c.Valid)
    (h : (repetitions name p limit).reply? c = some r) :
    r.cursor.saved = c.saved ∧ c.position ≤ r.cursor.position := by
  induction limit generalizing c r
  case zero => cases h
  case succ limit hi =>
    obtain ⟨_, _, _, _, hr, rfl⟩ | ⟨_, _, _, hr, _, rfl⟩ | ⟨_, _, _, _, hr, _, ht, rfl⟩ :=
      reply?_repetitions_succ_eq_some_iff.mp h
    case inl =>
      have ⟨_, hs, _⟩ := hp hc.push hr
      simp [Cursor.pop_of_saved_eq_push hs]
    case inr.inl =>
      have ⟨hs, _⟩ := hp hc.push hr
      simp [Cursor.pop_of_saved_eq_push hs]
    case inr.inr =>
      have ⟨hs, hq⟩ := hp hc.push hr
      have ⟨hs', hq'⟩ := hi (Run.valid_of_reply? hr hc.push).commit ht
      exact ⟨hs'.trans (Cursor.commit_saved_of_eq_push hs), Nat.le_trans hq hq'⟩

theorem many (hp : p.Lawful) : (Parser.many limit name p).Lawful := by
  intro slot c r hc h
  obtain ⟨_, _, _, _, hr, rfl⟩ | ⟨_, _, _, _, hr, ht, rfl⟩ := reply?_many_eq_some_iff.mp h
  case inl =>
    have ⟨_, hs, _⟩ := hp hc.push hr
    simp [Reply.Lawful, Cursor.pop_of_saved_eq_push hs]
  case inr =>
    have ⟨hs, hq⟩ := hp hc.push hr
    have ⟨hs', hq'⟩ := repetitions hp (Run.valid_of_reply? hr hc.push).commit ht
    exact ⟨hs'.trans (Cursor.commit_saved_of_eq_push hs), Nat.le_trans hq hq'⟩

end Lawful
end Parser

theorem Matcher.parser_lawful {m : Matcher} : m.parser.Lawful := by
  intro slot c r _ h
  by_cases hm : m.width ≤ c.remaining
  case neg =>
    rw [m.reply?_parser_of_lt (Nat.lt_of_not_le hm)] at h
    cases h
    simp [Reply.Lawful]
  case pos =>
    rw [m.reply?_parser_of_le hm, Cursor.request_of_le hm] at h
    split at h <;> cases h <;> simp [Reply.Lawful, Cursor.advance]

namespace Grammar

variable {env : Env}

theorem parser_lawful {g : Grammar} (h : ∀ r ∈ g.leaves, (r env).Lawful) :
    (g.parser env).Lawful := by
  induction g <;> simp only [parser, parsers_eq_map]
  case matcher => exact Matcher.parser_lawful
  case literal => exact Matcher.parser_lawful
  case boxed hi => exact hi h
  case maybe hi => exact (hi h).maybe
  case many hi => exact (hi h).many
  case map hi => exact (hi h).map
  case rule => exact .leaf (h _ List.mem_cons_self)
  case routine => exact .leaf (h _ List.mem_cons_self)
  case seq gs hi =>
    exact .seq (List.forall_mem_map.mpr fun g hg =>
      hi g hg fun r hr => h r (collect_subset_of_mem_parts (seq gs) hg hr))
  case any gs hi =>
    exact .any (List.forall_mem_map.mpr fun g hg =>
      hi g hg fun r hr => h r (collect_subset_of_mem_parts (any gs) hg hr))

theorem parser_lawful_of_leaves_eq_nil {g : Grammar} (hg : g.leaves = []) :
    (g.parser env).Lawful :=
  parser_lawful (by simp [hg])

-- The contract of `parser_lawful`, written out.
theorem parser_keeps_contract {g : Grammar} (hg : ∀ r ∈ g.leaves, (r env).Lawful) {slot : Node}
    {c : Cursor} (hc : c.Valid) {r : Reply Answer} (hr : (g.parser env slot).reply? c = some r) :
    (∀ e node, r.value = .failed e node →
      r.cursor.position = c.position ∧ r.cursor.saved = c.saved ∧ node = slot) ∧
    (∀ node, r.value = .matched node →
      r.cursor.saved = c.saved ∧ c.position ≤ r.cursor.position) := by
  have hl := parser_lawful hg hc hr
  constructor
  case left =>
    intro e node hv
    simpa [Reply.Lawful, hv] using hl
  case right =>
    intro node hv
    simpa [Reply.Lawful, hv] using hl

theorem parser_keeps_contract_of_choice :
    let seven : Env → Parser := fun _ => (Matcher.bytes [7]).parser
    let g : Grammar := .many (.any [.seq [.routine seven, .literal (.byte 9)], .routine seven,
      .rule "one"])
    let env : Env := { limit := 5, rule := fun _ => (Matcher.oneOf [1]).parser }
    let c : Cursor := { data := [7, 7, 1, 9], position := 1, saved := [1, 0], window := 3 }
    ∃ r node, (g.parser env .empty).reply? c = some r ∧ r.value = .matched node ∧
      r.cursor.position = 3 ∧ r.cursor.saved = c.saved ∧ c.position ≤ r.cursor.position := by
  intro seven g env c
  have hg : ∀ r ∈ g.leaves, (r env).Lawful :=
    List.forall_mem_cons.mpr ⟨Matcher.parser_lawful, List.forall_mem_cons.mpr
      ⟨Matcher.parser_lawful, List.forall_mem_singleton.mpr Matcher.parser_lawful⟩⟩
  have h : ((g.parser env .empty).reply? c).map (fun r => (r.value, r.cursor.position)) =
      some (.matched (.branch [.leaf (.token [7]), .leaf (.token [1])]), 3) := by
    decide +kernel
  have ⟨r, hr, hv⟩ := Option.map_eq_some_iff.mp h
  have ⟨hv, hp⟩ := Prod.mk.inj hv
  have ⟨_, hm⟩ := parser_keeps_contract hg (by decide) hr
  exact ⟨r, _, hr, hv, hp, hm _ hv⟩

end Grammar
end Backtrack
