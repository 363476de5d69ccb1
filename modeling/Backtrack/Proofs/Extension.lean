import Backtrack.Proofs.Journal.Count
import Backtrack.Proofs.Meaning.Refinement

namespace Backtrack

namespace Cursor

def extend (c : Cursor) (more : List UInt8) : Cursor :=
  { c with data := c.data ++ more }

variable {c : Cursor} {more : List UInt8} {n : Nat}

theorem extend_pop : (c.extend more).pop = c.pop.extend more := by
  cases hs : c.saved
  case nil       => rw [pop_of_saved_nil hs, pop_of_saved_nil (c := c.extend more) hs]
  case cons p ps =>
    rw [pop_of_saved_cons hs, pop_of_saved_cons (c := c.extend more) hs]
    rfl

theorem le_remaining_extend (h : n ≤ c.remaining) : n ≤ (c.extend more).remaining := by
  simp only [remaining, extend, List.length_append] at h ⊢
  omega

theorem extend_request (h : n ≤ c.remaining) :
    (c.extend more).request n = (c.request n).extend more := by
  rw [request_of_le h, request_of_le (le_remaining_extend h)]
  rfl

theorem Valid.extend (h : c.Valid) : (c.extend more).Valid where
  ordered := h.ordered
  behind  := h.behind
  fits    := by
    have := h.fits
    simp only [Cursor.extend, List.length_append]
    omega

theorem extend_buffer (h : c.Valid) : (c.extend more).buffer = c.buffer := by
  have hf := h.fits
  rw [h.extend.buffer_eq, h.buffer_eq]
  simp only [extend]
  rw [List.drop_append_of_le_length (by omega), List.take_append_of_le_length]
  rw [List.length_drop]
  omega

end Cursor

-- What the entry says that was missing, if it is a request that has failed.
def Entry.shortage? : Entry → Option Failure
  | .op (.request n) before => before.shortage? n
  | _ => none

namespace Journal

-- No request has failed, not even inside a call.
def Supplied (es : Journal) : Prop :=
  ∀ e ∈ es.unfolded, e.shortage? = none

instance {es : Journal} : Decidable es.Supplied :=
  inferInstanceAs (Decidable (∀ e ∈ es.unfolded, e.shortage? = none))

variable {es es' : Journal}

theorem unfolded_append : unfolded (es ++ es') = unfolded es ++ unfolded es' := by
  induction es
  case nil          => rfl
  case cons e es hi => simp [unfolded, hi]

theorem supplied_append : Supplied (es ++ es') ↔ Supplied es ∧ Supplied es' := by
  rw [Supplied, unfolded_append, List.forall_mem_append, Supplied, Supplied]

end Journal

namespace Run

variable {α β : Type} {x : Run α} {f : α → Run β} {o : Cursor.Op}

-- Where all requests of the run are met, more input makes no difference.
def Settles (x : Run α) : Prop :=
  ∀ ⦃c : Cursor⦄ ⦃r : Reply α⦄ (more : List UInt8), c.Valid → x.reply? c = some r →
    r.journal.Supplied →
      ∃ es, x.reply? (c.extend more) = some ⟨r.value, r.cursor.extend more, es⟩

namespace Settles

theorem pure {a : α} : (Pure.pure a : Run α).Settles := by
  intro c r more _ hr _
  cases hr
  exact ⟨[], rfl⟩

theorem bind (hx : x.Settles) (hf : ∀ a, (f a).Settles) : (x >>= f).Settles := by
  intro c s more hc hs hj
  have ⟨r, s', hr, hs', he⟩ := reply?_bind_eq_some_iff.mp hs
  cases he
  have ⟨hj, hj'⟩ := Journal.supplied_append.mp hj
  have ⟨es, hx⟩ := hx more hc hr hj
  have ⟨es', hf⟩ := hf _ more (valid_of_reply? hr hc) hs' hj'
  exact ⟨es ++ es', reply?_bind_eq_some_iff.mpr ⟨_, _, hx, hf, rfl⟩⟩

theorem exhausted : (Run.exhausted : Run α).Settles :=
  nofun

theorem note {n : Notice} : (Run.note n).Settles := by
  intro c r more _ hr _
  cases hr
  exact ⟨_, rfl⟩

theorem position : Run.position.Settles := by
  intro c r more _ hr _
  cases hr
  exact ⟨_, rfl⟩

theorem buffer : Run.buffer.Settles := by
  intro c r more hc hr _
  cases hr
  exact ⟨[], by rw [reply?_buffer, Cursor.extend_buffer hc]⟩

theorem act (ho : ∀ (c : Cursor) more, (c.extend more).apply o = (c.apply o).extend more) :
    (Run.act o).Settles := by
  intro c r more _ hr _
  rw [reply?_act] at hr
  cases hr
  exact ⟨_, by rw [reply?_act, ho]⟩

theorem push : Run.push.Settles :=
  act fun _ _ => rfl

theorem pop : Run.pop.Settles :=
  act fun _ _ => Cursor.extend_pop

theorem commit : Run.commit.Settles :=
  act fun _ _ => rfl

theorem advance : Run.advance.Settles :=
  act fun _ _ => rfl

-- The one operation that asks where the input ends.
theorem request {n : Nat} : (Run.request n).Settles := by
  intro c r more _ hr hj
  rw [reply?_request] at hr
  cases hr
  have hn : c.shortage? n = none := hj _ (List.mem_singleton_self _)
  have hle := Cursor.shortage?_eq_none_iff.mp hn
  have hle' : n ≤ (c.extend more).remaining := Cursor.le_remaining_extend hle
  exact ⟨_, by rw [reply?_request, Cursor.extend_request hle, hn,
    Cursor.shortage?_eq_none_iff.mpr hle']⟩

end Settles
end Run

namespace Parser

open Run (Settles)

def Settled (p : Parser) : Prop :=
  ∀ slot, (p slot).Settles

namespace Settled

variable {p : Parser} {ps : List Parser} {name : String} {limit : Nat}

theorem map {f : Node → Node} (hp : p.Settled) : (p.map f).Settled := by
  refine fun slot => (hp slot).bind fun a => ?_
  cases a <;> exact .pure

theorem elements (hps : ∀ p ∈ ps, p.Settled) (i : Nat) : (Parser.elements i ps).Settles := by
  induction ps generalizing i
  case nil => exact .pure
  case cons p ps hi =>
    have ⟨hp, hps⟩ := List.forall_mem_cons.mp hps
    refine (hp .empty).bind fun a => ?_
    cases a
    case failed => exact .pure
    case matched =>
      refine (hi hps (i + 1)).bind fun a => ?_
      cases a <;> exact .pure

theorem seq (hps : ∀ p ∈ ps, p.Settled) : (Parser.seq name ps).Settled := by
  refine fun slot => Settles.push.bind fun _ => (elements hps 0).bind fun a => ?_
  cases a
  case ok    => exact Settles.commit.bind fun _ => .pure
  case error =>
    refine Settles.pop.bind fun _ => Settles.position.bind fun _ => ?_
    exact Settles.note.bind fun _ => .pure

theorem firstOf (hps : ∀ p ∈ ps, p.Settled) (slot : Node) : (Parser.firstOf ps slot).Settles := by
  induction ps generalizing slot
  case nil => exact .pure
  case cons p ps hi =>
    have ⟨hp, hps⟩ := List.forall_mem_cons.mp hps
    refine (hp slot).bind fun a => ?_
    cases a
    case matched => exact .pure
    case failed  => exact hi hps _

theorem any (hps : ∀ p ∈ ps, p.Settled) : (Parser.any name ps).Settled := by
  refine fun slot => Settles.push.bind fun _ => (firstOf hps slot).bind fun a => ?_
  cases a
  case ok    => exact Settles.commit.bind fun _ => .pure
  case error =>
    refine Settles.pop.bind fun _ => Settles.position.bind fun _ => ?_
    exact Settles.note.bind fun _ => .pure

theorem maybe (hp : p.Settled) : (Parser.maybe name p).Settled := by
  refine fun slot => Settles.push.bind fun _ => (hp slot).bind fun a => ?_
  cases a
  case matched => exact Settles.commit.bind fun _ => .pure
  case failed  => exact Settles.pop.bind fun _ => Settles.note.bind fun _ => .pure

theorem repetitions (hp : p.Settled) : (Parser.repetitions name p limit).Settles := by
  induction limit
  case zero => exact .exhausted
  case succ limit hi =>
    refine Settles.position.bind fun start => Settles.push.bind fun _ => ?_
    refine (hp .empty).bind fun a => ?_
    cases a
    case failed => exact Settles.pop.bind fun _ => .pure
    case matched =>
      refine Settles.position.bind fun position => ?_
      split
      · exact Settles.pop.bind fun _ => Settles.note.bind fun _ => .pure
      · exact Settles.commit.bind fun _ => hi.bind fun _ => .pure

theorem many (hp : p.Settled) : (Parser.many limit name p).Settled := by
  refine fun slot => Settles.push.bind fun _ => (hp .empty).bind fun a => ?_
  cases a
  case failed  => exact Settles.pop.bind fun _ => Settles.position.bind fun _ => .pure
  case matched => exact Settles.commit.bind fun _ => (repetitions hp).bind fun _ => .pure

end Settled
end Parser

theorem Matcher.parser_settled {m : Matcher} : m.parser.Settled := by
  refine fun slot => Run.Settles.request.bind fun a => ?_
  cases a
  case some => exact .pure
  case none =>
    refine Run.Settles.buffer.bind fun window => ?_
    split
    · exact Run.Settles.advance.bind fun _ => .pure
    · exact Run.Settles.position.bind fun _ => .pure

namespace Grammar

variable {g : Grammar} {env : Env} {slot : Node} {c : Cursor} {r : Reply Answer}

theorem parser_settled (hg : g.leaves = []) : (g.parser env).Settled := by
  induction g, hg using leafless_induction <;> simp only [parser, parsers_eq_map]
  case matcher  => exact Matcher.parser_settled
  case literal  => exact Matcher.parser_settled
  case boxed hi => exact hi
  case seq hi   => exact .seq (List.forall_mem_map.mpr hi)
  case any hi   => exact .any (List.forall_mem_map.mpr hi)
  case maybe hi => exact hi.maybe
  case many hi  => exact hi.many
  case map hi   => exact hi.map

-- If no request has failed, not even in an attempt that was given up, the answer and the position
-- stay as they are when the input goes on after its end.
theorem supplied_run_final (hg : g.leaves = []) (hc : c.Valid)
    (hr : (g.parser env slot).reply? c = some r) (hj : r.journal.Supplied) (more : List UInt8) :
    (∃ s, (g.parser env slot).reply? (c.extend more) = some s ∧ s.value = r.value ∧
      s.cursor.position = r.cursor.position) ∧
    ∀ (d : Cursor) (s : Reply Answer), d.Valid → d.data = c.data ++ more →
      d.position = c.position → (g.parser env slot).reply? d = some s →
        s.value = r.value ∧ s.cursor.position = r.cursor.position := by
  have ⟨es, hs⟩ := parser_settled hg slot more hc hr hj
  refine ⟨⟨_, hs, rfl, rfl⟩, fun d s hd hdata hp hs' => ?_⟩
  have hx : (c.extend more).Valid := hc.extend
  have ha : d.At hx.place := ⟨hd, hdata, hp⟩
  have ⟨hv, hq, _⟩ := follows_of_reply? hg hx.at_place hs
  have ⟨hv', hq', _⟩ := follows_of_reply? hg ha hs'
  exact ⟨hv'.trans hv.symm, hq'.position_eq.trans hq.position_eq.symm⟩

theorem supplied_run_final_of_choice :
    let g : Grammar := .seq [.many (.any [.literal (.bytes [1, 3]), .literal (.byte 1)]),
      .maybe (.literal (.byte 3))]
    let env : Env := { limit := 5, rule := fun _ _ => Run.exhausted }
    let c : Cursor := { data := [9, 1, 1, 2, 0], position := 1, saved := [1, 0], window := 4 }
    ∃ r s, (g.parser env .empty).reply? c = some r ∧ r.journal.Supplied ∧
      (g.parser env .empty).reply? (c.extend [1, 3]) = some s ∧ s.value = r.value ∧
      s.cursor.position = 3 := by
  intro g env c
  have h : ((g.parser env .empty).reply? c).map
      (fun r => (decide r.journal.Supplied, r.cursor.position)) = some (true, 3) := by
    decide +kernel
  have ⟨r, hr, h⟩ := Option.map_eq_some_iff.mp h
  have ⟨hj, hp⟩ := Prod.mk.inj h
  have hc : c.Valid := by decide
  have ⟨⟨s, hs, hv, hq⟩, _⟩ := supplied_run_final rfl hc hr (of_decide_eq_true hj) [1, 3]
  exact ⟨r, s, hr, of_decide_eq_true hj, hs, hv, hq.trans hp⟩

end Grammar
end Backtrack
