import Mathlib.Data.List.Forall2
import Backtrack.Proofs.Contract
import Backtrack.Proofs.Meaning.Basic
import Backtrack.Proofs.Parser.Limit

namespace Backtrack

variable {data : List UInt8}

namespace Cursor

structure At (c : Cursor) (i : Place data) : Prop where
  valid       : c.Valid
  data_eq     : c.data = data
  position_eq : c.position = i

def Valid.place {c : Cursor} (h : c.Valid) : Place c.data :=
  ⟨c.position, Nat.lt_succ_of_le h.position_le⟩

theorem Valid.at_place {c : Cursor} (h : c.Valid) : c.At h.place :=
  ⟨h, rfl, rfl⟩

namespace At

variable {c c₁ : Cursor} {i j : Place data}

theorem start : (Cursor.start data).At (0 : Place data) :=
  ⟨.start, rfl, rfl⟩

theorem remaining_eq (h : c.At i) : c.remaining = (data.drop i).length := by
  simp [remaining, h.data_eq, h.position_eq]

theorem push (h : c.At i) : c.push.At i :=
  ⟨h.valid.push, h.data_eq, h.position_eq⟩

theorem commit (h : c.At i) : c.commit.At i :=
  ⟨h.valid.commit, h.data_eq, h.position_eq⟩

theorem pop (h : c.At i) (h₁ : c₁.At j) (hs : c₁.saved = c.push.saved) :
    c₁.pop.At i ∧ c₁.pop.saved = c.saved := by
  have hv := h₁.valid.pop
  rw [pop_of_saved_eq_push hs] at hv ⊢
  exact ⟨⟨hv, h₁.data_eq, h.position_eq⟩, rfl⟩

theorem buffer_request {n : Nat} (h : c.At i) (hn : n ≤ c.remaining) :
    (c.request n).buffer = (data.drop i).take n := by
  have hv : (c.request n).Valid := h.valid.request
  rw [hv.buffer_eq, request_of_le hn, h.data_eq, h.position_eq]

end At
end Cursor

namespace Verdict

@[simp]
def answer (slot : Node) : Verdict data → Answer
  | .ok (_, node) => .matched node
  | .error e => .failed e slot

@[simp]
def stop (i : Place data) : Verdict data → Place data
  | .ok (j, _) => j
  | .error _ => i

end Verdict

namespace Parser

-- Wherever the parser is started, it replies what the meaning says and leaves the transactions as
-- they were.
def Follows (p : Parser) (m : Meaning data) : Prop :=
  ∀ ⦃c : Cursor⦄ ⦃i : Place data⦄ (slot : Node), c.At i → ∃ c₁ es,
    (p slot).reply? c = some ⟨(m i slot).answer slot, c₁, es⟩ ∧ c₁.At ((m i slot).stop i) ∧
      c₁.saved = c.saved

namespace Follows

variable {p : Parser} {m : Meaning data} {ps : List Parser} {ms : List (Meaning data)}
variable {c : Cursor} {i j : Place data} {name : String}

theorem map {f : Node → Node} (h : p.Follows m) : (p.map f).Follows (m.map f) := by
  intro c i slot hc
  have ⟨c₁, es, hr, ha, hs⟩ := h slot hc
  refine ⟨c₁, es, reply?_map_eq_some_iff.mpr ?_, ?_, hs⟩
  all_goals cases hv : m i slot <;> simp_all [Meaning.map, Except.map]

theorem elements (h : List.Forall₂ Follows ps ms) (k : Nat) (hc : c.At i) :
    ∃ c₁ es j, (elements k ps).reply? c = some ⟨(Meaning.elements k ms i).map Prod.snd, c₁, es⟩ ∧
      c₁.At j ∧ c₁.saved = c.saved ∧ ∀ v, Meaning.elements k ms i = .ok v → v.1 = j := by
  induction h generalizing k c i
  case nil => exact ⟨c, [], i, rfl, hc, rfl, by simp [Meaning.elements]⟩
  case cons p m ps ms hp hps hi =>
    have ⟨c₁, es, hr, ha, hs⟩ := hp .empty hc
    cases hv : m i .empty
    case error e =>
      simp only [hv, Verdict.answer, Verdict.stop] at hr ha
      refine ⟨c₁, es, i,
        reply?_elements_cons_eq_some_iff.mpr (.inl ⟨_, _, _, _, hr, ?_⟩), ha, hs, ?_⟩
      all_goals simp [Meaning.elements, hv, Except.map]
    case ok v =>
      simp only [hv, Verdict.answer, Verdict.stop] at hr ha
      have ⟨c₂, es₂, j, hr', ha', hs', hj⟩ := hi (k + 1) ha
      refine ⟨c₂, es ++ es₂, j,
        reply?_elements_cons_eq_some_iff.mpr (.inr ⟨_, _, _, _, hr, hr', ?_⟩), ha',
        hs'.trans hs, ?_⟩
      all_goals cases hw : Meaning.elements (k + 1) ms v.1 <;>
        simp_all [Meaning.elements, Except.map]

theorem seq (h : List.Forall₂ Follows ps ms) :
    (Parser.seq name ps).Follows (Meaning.seq name ms) := by
  intro c i slot hc
  have ⟨c₁, es, j, hr, ha, hs, hj⟩ := elements h 0 hc.push
  have ⟨hp, hps⟩ := hc.pop ha hs
  cases hv : Meaning.elements 0 ms i <;> simp only [hv, Except.map] at hr
  case ok v =>
    simp only [Meaning.seq, hv, Verdict.answer, Verdict.stop, hj v hv]
    exact ⟨_, _, reply?_seq_eq_some_iff.mpr (.inl ⟨_, _, _, hr, rfl⟩), ha.commit,
      Cursor.commit_saved_of_eq_push hs⟩
  case error v =>
    simp only [Meaning.seq, hv, Verdict.answer, Verdict.stop, ← hp.position_eq]
    exact ⟨_, _, reply?_seq_eq_some_iff.mpr (.inr ⟨_, _, _, _, hr, rfl⟩), hp, hps⟩

-- An alternative that fails has not moved the cursor, so the next one starts at the same place.
theorem firstOf (slot : Node) (h : List.Forall₂ Follows ps ms) (hc : c.At i) :
    let found := ms.findSome? fun m => (m i slot).toOption
    ∃ c₁ es, (firstOf ps slot).reply? c =
        some ⟨(found.map Prod.snd).elim (.error slot) .ok, c₁, es⟩ ∧
      c₁.At ((found.map Prod.fst).getD i) ∧ c₁.saved = c.saved := by
  intro found
  induction h generalizing c
  case nil => exact ⟨c, [], rfl, hc, rfl⟩
  case cons p m ps ms hp hps hi =>
    have ⟨c₁, es, hr, ha, hs⟩ := hp slot hc
    cases hv : m i slot <;> simp only [hv, Verdict.answer, Verdict.stop] at hr ha
    case ok v =>
      simp only [found, List.findSome?_cons, hv, Except.toOption]
      exact ⟨_, _, reply?_firstOf_cons_eq_some_iff.mpr (.inl ⟨_, _, _, hr, rfl⟩), ha, hs⟩
    case error e =>
      have ⟨c₂, es₂, hr', ha', hs'⟩ := hi ha
      simp only [found, List.findSome?_cons, hv, Except.toOption]
      exact ⟨_, _, reply?_firstOf_cons_eq_some_iff.mpr (.inr ⟨_, _, _, _, _, hr, hr', rfl⟩), ha',
        hs'.trans hs⟩

theorem any (h : List.Forall₂ Follows ps ms) :
    (Parser.any name ps).Follows (Meaning.any name ms) := by
  intro c i slot hc
  have ⟨c₁, es, hr, ha, hs⟩ := firstOf slot h hc.push
  have ⟨hp, hps⟩ := hc.pop ha hs
  cases hv : ms.findSome? fun m => (m i slot).toOption <;>
    simp only [hv, Option.map, Option.elim, Option.getD] at hr ha
  case some v =>
    simp only [Meaning.any, hv, Verdict.answer, Verdict.stop]
    exact ⟨_, _, reply?_any_eq_some_iff.mpr (.inl ⟨_, _, _, hr, rfl⟩), ha.commit,
      Cursor.commit_saved_of_eq_push hs⟩
  case none =>
    simp only [Meaning.any, hv, Verdict.answer, Verdict.stop, ← hp.position_eq]
    exact ⟨_, _, reply?_any_eq_some_iff.mpr (.inr ⟨_, _, _, hr, rfl⟩), hp, hps⟩

theorem maybe (h : p.Follows m) : (Parser.maybe name p).Follows (Meaning.maybe m) := by
  intro c i slot hc
  have ⟨c₁, es, hr, ha, hs⟩ := h slot hc.push
  have ⟨hp, hps⟩ := hc.pop ha hs
  cases hv : m i slot <;> simp only [hv, Verdict.answer, Verdict.stop] at hr ha
  case ok v =>
    simp only [Meaning.maybe, hv, Verdict.answer, Verdict.stop]
    exact ⟨_, _, reply?_maybe_eq_some_iff.mpr (.inl ⟨_, _, _, hr, rfl⟩), ha.commit,
      Cursor.commit_saved_of_eq_push hs⟩
  case error e =>
    simp only [Meaning.maybe, hv, Verdict.answer, Verdict.stop]
    exact ⟨_, _, reply?_maybe_eq_some_iff.mpr (.inr ⟨_, _, _, _, hr, rfl⟩), hp, hps⟩

-- The parser never goes back, so a match that does not end where it started has moved forward.
-- Hence the rounds are no more than the bytes that remain and one.
theorem repetitions (name : String) {n : Nat} (h : p.Follows m) (hl : p.Lawful) (hc : c.At i)
    (hn : data.length - i < n) :
    ∃ c₁ es, (repetitions name p n).reply? c = some ⟨(m.repetitions i).2, c₁, es⟩ ∧
      c₁.At (m.repetitions i).1 ∧ c₁.saved = c.saved := by
  induction n generalizing c i
  case zero => omega
  case succ n hi =>
    have ⟨c₁, es, hr, ha, hs⟩ := h .empty hc.push
    have ⟨hp, hps⟩ := hc.pop ha hs
    cases hv : m i .empty <;> simp only [hv, Verdict.answer, Verdict.stop] at hr ha
    case error e =>
      rw [Meaning.repetitions_of_error hv]
      exact ⟨_, _, reply?_repetitions_succ_eq_some_iff.mpr (.inl ⟨_, _, _, _, hr, rfl⟩), hp, hps⟩
    case ok v =>
      have ⟨_, hij⟩ := hl hc.push.valid hr
      have hi₁ := hc.position_eq
      have hj₁ := ha.position_eq
      replace hij : c.position ≤ c₁.position := hij
      by_cases hj : i < v.1
      case neg =>
        replace hj : ¬i.val < v.1.val := hj
        rw [Meaning.repetitions_of_not_lt hv hj]
        exact ⟨_, _, reply?_repetitions_succ_eq_some_iff.mpr
          (.inr (.inl ⟨_, _, _, hr, by omega, rfl⟩)), hp, hps⟩
      case pos =>
        replace hj : i.val < v.1.val := hj
        have ⟨c₂, es₂, hr', ha', hs'⟩ := hi ha.commit (by omega)
        rw [Meaning.repetitions_of_lt hv hj]
        exact ⟨_, _, reply?_repetitions_succ_eq_some_iff.mpr
          (.inr (.inr ⟨_, _, _, _, hr, by omega, hr', rfl⟩)), ha',
          hs'.trans (Cursor.commit_saved_of_eq_push hs)⟩

theorem many {limit : Nat} (h : p.Follows m) (hl : p.Lawful) (hn : data.length < limit) :
    (Parser.many limit name p).Follows (m.many name) := by
  intro c i slot hc
  have ⟨c₁, es, hr, ha, hs⟩ := h .empty hc.push
  have ⟨hp, hps⟩ := hc.pop ha hs
  cases hv : m i .empty <;> simp only [hv, Verdict.answer, Verdict.stop] at hr ha
  case ok v =>
    have hn' : data.length - v.1 < limit := Nat.lt_of_le_of_lt (Nat.sub_le ..) hn
    have ⟨c₂, es₂, hr', ha', hs'⟩ := repetitions name h hl ha.commit hn'
    simp only [Meaning.many, hv, Verdict.answer, Verdict.stop]
    exact ⟨_, _, reply?_many_eq_some_iff.mpr (.inr ⟨_, _, _, _, hr, hr', rfl⟩), ha',
      hs'.trans (Cursor.commit_saved_of_eq_push hs)⟩
  case error e =>
    simp only [Meaning.many, hv, Verdict.answer, Verdict.stop, ← hp.position_eq]
    exact ⟨_, _, reply?_many_eq_some_iff.mpr (.inl ⟨_, _, _, _, hr, rfl⟩), hp, hps⟩

end Follows

end Parser

theorem Matcher.parser_follows {m : Matcher} :
    m.parser.Follows (Meaning.matcher m : Meaning data) := by
  intro c i slot hc
  have hd := hc.remaining_eq
  by_cases hm : m.width ≤ c.remaining
  case neg =>
    replace hm := Nat.lt_of_not_le hm
    rw [Meaning.matcher_of_lt (hd ▸ hm), ← hd, ← hc.position_eq]
    exact ⟨_, _, reply?_parser_of_lt hm, hc, rfl⟩
  case pos =>
    have hr : (m.parser slot).reply? c = _ := reply?_parser_of_le hm
    rw [hc.buffer_request hm] at hr
    by_cases ha : m.accepts ((data.drop i).take m.width)
    case pos =>
      have ⟨j, hj, hv⟩ := Meaning.matcher_of_accepts (hd ▸ hm) ha slot
      rw [if_pos ha] at hr
      rw [hv]
      refine ⟨_, _, hr, ⟨hc.valid.request.advance, ?_, ?_⟩, Cursor.request_preserves_saved⟩
      · exact Cursor.request_preserves_data.trans hc.data_eq
      · simp [Cursor.advance, Cursor.request_of_le hm, hc.position_eq, hj]
    case neg =>
      rw [if_neg ha, hc.position_eq] at hr
      rw [Meaning.matcher_of_not_accepts (hd ▸ hm) ha]
      refine ⟨_, _, hr, ⟨hc.valid.request, ?_, ?_⟩, Cursor.request_preserves_saved⟩
      · exact Cursor.request_preserves_data.trans hc.data_eq
      · exact Cursor.request_preserves_position.trans hc.position_eq

namespace Grammar

variable {g : Grammar} {gs : List Grammar} {env : Env}

theorem parsers_follow (h : ∀ g ∈ gs, (g.parser env).Follows (g.meaning data)) :
    List.Forall₂ Parser.Follows (parsers env gs) (meanings data gs) := by
  rw [parsers_eq_map, meanings_eq_map, List.forall₂_map_left_iff, List.forall₂_map_right_iff]
  exact List.forall₂_same.mpr h

theorem parser_follows (hg : g.leaves = []) (hl : data.length < env.limit) :
    (g.parser env).Follows (g.meaning data) := by
  induction g, hg using leafless_induction
  case matcher    => exact Matcher.parser_follows
  case literal    => exact Matcher.parser_follows
  case boxed hi   => exact hi
  case seq hi     => exact .seq (parsers_follow hi)
  case any hi     => exact .any (parsers_follow hi)
  case maybe hi   => exact hi.maybe
  case many hg hi => exact hi.many (parser_lawful_of_leaves_eq_nil hg) hl
  case map hi     => exact hi.map

theorem follows_of_reply? {c : Cursor} {i : Place data} {slot : Node} {r : Reply Answer}
    (hg : g.leaves = []) (hc : c.At i) (hr : (g.parser env slot).reply? c = some r) :
    r.value = (g.meaning data i slot).answer slot ∧
      r.cursor.At ((g.meaning data i slot).stop i) ∧ r.cursor.saved = c.saved := by
  let env' : Env := { env with limit := max env.limit (data.length + 1) }
  have hm : g.parser env ≤ g.parser env' := parser_mono (Nat.le_max_left ..) (by simp [hg])
  have hl : data.length < env'.limit := Nat.le_max_right ..
  have ⟨c₁, es, hr', ha, hs⟩ := parser_follows hg hl slot hc
  cases (hm slot hr).symm.trans hr'
  exact ⟨rfl, ha, hs⟩

theorem isSome_reply? {c : Cursor} (hg : g.leaves = []) (hc : c.Valid) (slot : Node)
    (hl : c.data.length < env.limit) : ((g.parser env slot).reply? c).isSome := by
  have ⟨_, _, hr, _⟩ := parser_follows hg hl slot hc.at_place
  exact Option.isSome_of_eq_some hr

-- However deep in transactions the cursor is and whatever window it has, the parser replies what
-- the grammar means at its place. It does reply if its limit exceeds the length of the input.
theorem parser_refines_meaning (hg : g.leaves = []) {c : Cursor} (hc : c.Valid) (slot : Node) :
    (c.data.length < env.limit → ((g.parser env slot).reply? c).isSome) ∧
    ∀ r, (g.parser env slot).reply? c = some r →
      r.cursor.saved = c.saved ∧
      match g.meaning c.data hc.place slot with
      | .ok (j, node) => r.value = .matched node ∧ r.cursor.position = j
      | .error e => r.value = .failed e slot ∧ r.cursor.position = c.position := by
  constructor
  case left =>
    intro hl
    have ⟨_, _, hr, _⟩ := parser_follows hg hl slot hc.at_place
    exact Option.isSome_of_eq_some hr
  case right =>
    intro r hr
    have ⟨hv, ha, hs⟩ := follows_of_reply? hg hc.at_place hr
    refine ⟨hs, ?_⟩
    cases hm : g.meaning c.data hc.place slot <;>
      simp only [hm, Verdict.answer, Verdict.stop] at hv ha
    case ok v    => exact ⟨hv, ha.position_eq⟩
    case error e => exact ⟨hv, ha.position_eq⟩

theorem parser_refines_meaning_of_pairs :
    let pair : Grammar := .seq [.any [.seq [.literal (.byte 1), .literal (.byte 3)],
      .literal (.bytes [1, 2])], .maybe (.literal (.byte 0))]
    let g : Grammar := .many (.map pair fun n => .branch [n])
    let c : Cursor := { data := [9, 1, 2, 0, 1, 2, 1], position := 1, saved := [1, 0], window := 4 }
    let node : List UInt8 → Node := fun bs => .leaf (.token bs)
    g.meaning c.data 1 .empty = .ok (6, .branch [.branch [.branch [node [1, 2], node [0]]],
      .branch [.branch [node [1, 2], .empty]]]) := by
  intro pair g c node
  let env : Env := { limit := 8, rule := fun _ _ => Run.exhausted }
  have h : ((g.parser env .empty).reply? c).map (fun r => (r.value, r.cursor.position)) =
      some (.matched (.branch [.branch [.branch [node [1, 2], node [0]]],
        .branch [.branch [node [1, 2], .empty]]]), 6) := by
    decide +kernel
  have ⟨r, hr, h⟩ := Option.map_eq_some_iff.mp h
  have ⟨hv, hp⟩ := Prod.mk.inj h
  have hc : c.Valid := by decide
  have ⟨_, hm⟩ := (parser_refines_meaning rfl hc .empty).right r hr
  rw [show hc.place = 1 from rfl] at hm
  cases hw : g.meaning c.data 1 .empty <;> simp only [hw, hv] at hm
  case error => cases hm.left
  case ok v =>
    have hn := Answer.matched.inj hm.left
    have hj : v.1 = 6 := Fin.ext (hm.right.symm.trans hp)
    exact congrArg Except.ok (Prod.ext hj hn.symm)

end Grammar
end Backtrack
