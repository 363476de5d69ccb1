import Backtrack.Proofs.Balance
import Backtrack.Proofs.Meaning.Failures

namespace Backtrack

-- The index in the message of a sequence.
def elementIndex? (message : String) : Option Nat :=
  let k := Nat.ofDigitChars 10 (message.toList.filter Char.isDigit) 0
  if message = "element " ++ toString k ++ " failed" then some k else none

theorem ofDigitChars_filter_isDigit {k : Nat} :
    Nat.ofDigitChars 10 (("element " ++ toString k ++ " failed").toList.filter Char.isDigit) 0 =
      k := by
  have hk : (Nat.toDigits 10 k).filter Char.isDigit = Nat.toDigits 10 k :=
    List.filter_eq_self.mpr fun c hc => Nat.isDigit_of_mem_toDigits (by decide) (by decide) hc
  have hb : "element ".toList.filter Char.isDigit = [] := by decide
  have ha : " failed".toList.filter Char.isDigit = [] := by decide
  rw [String.toList_append, String.toList_append, List.filter_append, List.filter_append, hb, ha,
    Nat.toString_eq_ofList_toDigits, String.toList_ofList, hk, List.nil_append, List.append_nil,
    Nat.ofDigitChars_ten_toDigits]

theorem elementIndex?_eq_some_iff {message : String} {k : Nat} :
    elementIndex? message = some k ↔ message = "element " ++ toString k ++ " failed" := by
  constructor
  case mp =>
    intro h
    rw [elementIndex?] at h
    split at h <;> cases h
    assumption
  case mpr =>
    rintro rfl
    simp only [elementIndex?, ofDigitChars_filter_isDigit, if_true]

namespace Failure

-- Matchers and repetitions note nothing along with the layers that they add.
def notice? : Failure → Option Notice
  | rejected name message position =>
    if message = "no alternative matched" then some (.noAlternative name position) else none
  | within name message position _ =>
    (elementIndex? message).map fun k => .sequenceRolledBack name k position
  | _ => none

def notices (e : Failure) : List Notice :=
  e.layers.reverse.filterMap notice?

variable {e : Failure} {name message : String} {position k : Nat}

theorem notices_within :
    (within name message position e).notices =
      e.notices ++ (within name message position e).notice?.toList := by
  rw [notices, layers_within, List.reverse_cons, List.filterMap_append, notices]
  cases hn : (within name message position e).notice? <;> simp [hn]

theorem notice?_element :
    (within name ("element " ++ toString k ++ " failed") position e).notice? =
      some (.sequenceRolledBack name k position) := by
  rw [notice?, elementIndex?_eq_some_iff.mpr rfl, Option.map_some]

theorem notice?_first :
    (within name "expected at least one match" position e).notice? = none := by
  have h : elementIndex? "expected at least one match" = none := by decide
  rw [notice?, h, Option.map_none]

end Failure

-- The complaints of matchers are not mistaken for that of a choice.
theorem Matcher.complaint_ne {m : Matcher} {window : List UInt8} :
    m.complaint window ≠ "no alternative matched" := by
  unfold complaint
  split
  case h_1 => decide
  all_goals
    intro h
    have hh := congrArg (fun s => s.toList.head?) h
    simp at hh

theorem Matcher.notice?_rejection {m : Matcher} {window : List UInt8} {position : Nat} :
    (m.rejection window position).notice? = none := by
  rw [rejection, Failure.notice?, if_neg complaint_ne]

theorem Journal.events_undone {c c₁ : Cursor} {es es' : Journal} (h : c₁.saved ≠ []) :
    events (.op .push c :: es ++ .op .pop c₁ :: es') = events es ++ events es' := by
  simp [Entry.events, Event.ofOp?, h]

namespace Parser

-- When the parser fails, the notices of its failure come last.
def Narrates (p : Parser) : Prop :=
  ∀ ⦃slot node : Node⦄ ⦃c : Cursor⦄ ⦃r : Reply Answer⦄ ⦃e : Failure⦄, c.Valid →
    (p slot).reply? c = some r → r.value = .failed e node →
      e.notices.map .notice <:+ Journal.events r.journal

namespace Narrates

variable {p : Parser} {ps : List Parser} {name : String} {limit : Nat} {c : Cursor}

theorem map {f : Node → Node} (hp : p.Narrates) : (p.map f).Narrates := by
  intro slot node c r e hc h hv
  obtain ⟨_, _, _, hr, rfl⟩ | ⟨_, _, _, _, hr, rfl⟩ := reply?_map_eq_some_iff.mp h <;> cases hv
  have hn := hp hc hr rfl
  exact hn

theorem elements {i k : Nat} {e : Failure} {r : Reply (Except (Nat × Failure) (List Node))}
    (hps : ∀ p ∈ ps, p.Narrates) (hc : c.Valid) (h : (elements i ps).reply? c = some r)
    (hv : r.value = .error (k, e)) : e.notices.map .notice <:+ Journal.events r.journal := by
  induction ps generalizing i c r
  case nil =>
    cases h
    cases hv
  case cons p ps hi =>
    have ⟨hp, hps⟩ := List.forall_mem_cons.mp hps
    obtain ⟨_, _, _, _, hr, rfl⟩ | ⟨_, _, _, s, hr, hs, rfl⟩ :=
      reply?_elements_cons_eq_some_iff.mp h
    case inl =>
      cases hv
      exact hp hc hr rfl
    case inr =>
      cases hw : s.value <;> simp only [hw, Except.map] at hv <;> cases hv
      rw [Journal.events_append]
      exact (hi hps (Run.valid_of_reply? hr hc) hs hw).trans (List.suffix_append ..)

theorem seq (hps : ∀ p ∈ ps, p.Narrates) (hl : ∀ p ∈ ps, p.Lawful) :
    (Parser.seq name ps).Narrates := by
  intro slot node c r e hc h hv
  obtain ⟨_, _, _, hr, rfl⟩ | ⟨_, _, _, _, hr, rfl⟩ := reply?_seq_eq_some_iff.mp h <;> cases hv
  have ⟨hs, _⟩ := Lawful.elements hl hc.push hr
  obtain ⟨ts, hn⟩ := elements hps hc.push hr rfl
  rw [Journal.events_undone (hs ▸ List.cons_ne_nil _ _), ← hn, Failure.notices_within,
    Failure.notice?_element]
  exact ⟨ts, by simp [Entry.events]⟩

theorem any (hl : ∀ p ∈ ps, p.Lawful) : (Parser.any name ps).Narrates := by
  intro slot node c r e hc h hv
  obtain ⟨_, _, _, hr, rfl⟩ | ⟨_, _, _, hr, rfl⟩ := reply?_any_eq_some_iff.mp h <;> cases hv
  have ⟨hs, _⟩ := Lawful.firstOf hl hc.push hr
  rw [Journal.events_undone (hs ▸ List.cons_ne_nil _ _)]
  exact List.suffix_append ..

theorem maybe : (Parser.maybe name p).Narrates := by
  intro slot node c r e hc h hv
  obtain ⟨_, _, _, _, rfl⟩ | ⟨_, _, _, _, _, rfl⟩ := reply?_maybe_eq_some_iff.mp h <;> cases hv

theorem many (hp : p.Narrates) (hl : p.Lawful) : (Parser.many limit name p).Narrates := by
  intro slot node c r e hc h hv
  obtain ⟨_, _, _, _, hr, rfl⟩ | ⟨_, _, _, _, _, _, rfl⟩ := reply?_many_eq_some_iff.mp h
  all_goals cases hv
  have ⟨_, hs, _⟩ := hl hc.push hr
  have hn := hp hc.push hr rfl
  rw [Journal.events_undone (hs ▸ List.cons_ne_nil _ _), Failure.notices_within,
    Failure.notice?_first]
  simpa using hn

end Narrates
end Parser

theorem Matcher.parser_narrates {m : Matcher} : m.parser.Narrates := by
  intro slot node c r e _ hr hv
  have he : e.notices = [] := by
    by_cases hm : m.width ≤ c.remaining
    case neg =>
      rw [m.reply?_parser_of_lt (Nat.lt_of_not_le hm)] at hr
      cases hr
      cases hv
      rfl
    case pos =>
      rw [m.reply?_parser_of_le hm] at hr
      split at hr <;> cases hr <;> cases hv
      exact List.filterMap_cons_none notice?_rejection
  rw [he]
  exact List.nil_suffix

namespace Grammar

-- What the part of a grammar that a layer comes from notes along with it.
inductive Notes : Grammar → Failure → Option Notice → Prop
  | matcher {g : Grammar} {m : Matcher} {e : Failure} : g.matcher? = some m → Notes g e none
  | any {gs : List Grammar} {name message : String} {position : Nat} :
    Notes (any gs) (.rejected name message position) (some (.noAlternative name position))
  | seq {gs : List Grammar} {name : String} {k position : Nat} {cause : Failure} :
    Notes (seq gs) (.within name ("element " ++ toString k ++ " failed") position cause)
      (some (.sequenceRolledBack name k position))
  | many {g : Grammar} {e : Failure} : Notes (many g) e none

variable {g : Grammar} {env : Env} {slot : Node} {data : List UInt8} {i : Place data} {e : Failure}

theorem Reports.notes (h : g.Reports i e) : g.Notes e e.notice? := by
  cases h
  case insufficient hm _ => exact .matcher hm
  case mismatch hm _ _   => exact Matcher.notice?_rejection ▸ .matcher hm
  case alternatives      => exact .any
  case element           => exact Failure.notice?_element ▸ .seq
  case first             => exact Failure.notice?_first ▸ .many

theorem parser_narrates (hg : g.leaves = []) : (g.parser env).Narrates := by
  induction g, hg using leafless_induction <;> simp only [parser, parsers_eq_map]
  case matcher    => exact Matcher.parser_narrates
  case literal    => exact Matcher.parser_narrates
  case boxed hi   => exact hi
  case maybe      => exact .maybe
  case many hg hi => exact hi.many (parser_lawful_of_leaves_eq_nil hg)
  case map hi     => exact hi.map
  case seq hg hi =>
    exact .seq (List.forall_mem_map.mpr hi) (List.forall_mem_map.mpr fun g hm =>
      parser_lawful_of_leaves_eq_nil (leaves_eq_nil_of_mem_parts hg hm))
  case any hg _ =>
    exact .any (List.forall_mem_map.mpr fun g hm =>
      parser_lawful_of_leaves_eq_nil (leaves_eq_nil_of_mem_parts hg hm))

theorem parse?_of_failed {o : Parse.Options} {r : Reply Answer} {node : Node} (hg : g.leaves = [])
    (hr : (g.parser env .empty).reply? (.start data) = some r) (hv : r.value = .failed e node) :
    ∃ s, g.parse? env o data = some s ∧ s.outcome = .error e ∧
      s.events = .started data.length :: (Journal.events r.journal ++ [.failed e.position]) := by
  have hd : r.cursor.data = data := (Run.replays _ hr).data_eq
  have hs : r.cursor.saved = [] := (parser_nests_of_leaves_eq_nil hg .start hr).saved_eq False.elim
  refine ⟨_, Parser.parse?_eq_some_iff.mpr ⟨r, hr, rfl⟩, ?_, ?_⟩
  · simp [Parse.finish, Parse.conclude, hv]
  · simp [Parse.events_finish, Parse.conclude, Parse.balance, hv, hd, hs]

-- A failed run ends with the notices of the layers of its failure, the innermost first: there is
-- one for each choice and each sequence among them. A parse reports the position of the failure
-- right after them, and nothing more.
theorem failed_run_narrated (hg : g.leaves = []) :
    (∀ (c : Cursor) (slot node : Node) (r : Reply Answer) (e : Failure), c.Valid →
      (g.parser env slot).reply? c = some r → r.value = .failed e node →
        e.notices.map .notice <:+ Journal.events r.journal ∧
        ∀ l ∈ e.layers, ∃ p ∈ g.subgrammars,
          (∃ i : Place c.data, p.Reports i l) ∧ p.Notes l l.notice?) ∧
    ∀ (o : Parse.Options) (data : List UInt8) (node : Node) (r : Reply Answer) (e : Failure),
      (g.parser env .empty).reply? (.start data) = some r → r.value = .failed e node →
        ∃ s, g.parse? env o data = some s ∧ s.outcome = .error e ∧
          s.events = .started data.length ::
            (Journal.events r.journal ++ [.failed e.position]) := by
  refine ⟨fun c slot node r e hc hr hv => ⟨parser_narrates hg hc hr hv, fun l hl => ?_⟩,
    fun o data node r e hr hv => parse?_of_failed hg hr hv⟩
  have ⟨ha, _⟩ := follows_of_reply? hg hc.at_place hr
  cases hm : g.meaning c.data hc.place slot <;>
    simp only [hm, hv, Verdict.answer] at ha <;> cases ha
  obtain ⟨p, hp, i, _, _, hr⟩ := exists_reports_of_mem_layers hg hm hl
  exact ⟨p, hp, ⟨i, hr⟩, hr.notes⟩

theorem failed_run_narrated_of_nested :
    let pair : Grammar := .seq [.literal (.byte 2), .any [.literal (.byte 3),
      .literal (.bytes [4, 5])]]
    let g : Grammar := .seq [.maybe (.literal (.byte 9)), .many pair]
    let env : Env := { limit := 4, rule := fun _ _ => Run.exhausted }
    ∃ s ts, g.parse? env .default [2, 4, 7] = some s ∧
      s.events = ts ++ [.notice (.noAlternative "Any(Byte, Bytes)" 1),
        .notice (.sequenceRolledBack "Seq(Byte, Parser)" 1 0),
        .notice (.sequenceRolledBack "Seq(Parser, Parser)" 1 0), .failed 0] := by
  intro pair g env
  let e : Failure := .within "Seq(Parser, Parser)" "element 1 failed" 0
    (.within "Many(Parser)" "expected at least one match" 0
      (.within "Seq(Byte, Parser)" "element 1 failed" 0
        (.rejected "Any(Byte, Bytes)" "no alternative matched" 1)))
  have hn : e.notices = [.noAlternative "Any(Byte, Bytes)" 1,
      .sequenceRolledBack "Seq(Byte, Parser)" 1 0,
      .sequenceRolledBack "Seq(Parser, Parser)" 1 0] := by
    decide +kernel
  have h : ((g.parser env .empty).reply? (.start [2, 4, 7])).map (·.value) =
      some (.failed e .empty) := by
    decide +kernel
  have ⟨r, hr, hv⟩ := Option.map_eq_some_iff.mp h
  have ⟨hends, hparse⟩ := @failed_run_narrated g env rfl
  have ⟨⟨ts, ht⟩, _⟩ := hends _ _ _ r e .start hr hv
  have ⟨s, hs, _, he⟩ := hparse .default _ _ r e hr hv
  refine ⟨s, .started 3 :: ts, hs, ?_⟩
  rw [he, ← ht, hn]
  simp [e, Failure.position]

end Grammar
end Backtrack
