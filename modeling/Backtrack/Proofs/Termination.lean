import Backtrack.Proofs.Leaks
import Backtrack.Proofs.Meaning.Refinement
import Backtrack.Proofs.Repair

namespace Backtrack

theorem Run.commit_of_reply? {α : Type} {x : Run α} {c : Cursor} {r : Reply α}
    (h : x.reply? c.push = some r) (hc : c.Valid) :
    r.cursor.commit.Valid ∧ r.cursor.commit.data = c.data :=
  ⟨(valid_of_reply? h hc.push).commit, (x.replays h).data_eq⟩

namespace Parser

-- The parser replies wherever in the input it is called.
def EndsOn (data : List UInt8) (p : Parser) : Prop :=
  ∀ ⦃slot : Node⦄ ⦃c : Cursor⦄, c.Valid → c.data = data → ((p slot).reply? c).isSome

-- The loop of a repetition, without a limit: the cursors at which its iterations start, each of
-- which is one call of the parser, and the reply.
inductive Iterates (name : String) (p : Parser) : Cursor → List Cursor → Reply (List Node) → Prop
  | failed {c c₁ : Cursor} {e : Failure} {node : Node} {es : Journal} :
    (p .empty).reply? c.push = some ⟨.failed e node, c₁, es⟩ →
      Iterates name p c [c] ⟨[], c₁.pop, .op .push c :: es ++ [.op .pop c₁]⟩
  | unmoved {c c₁ : Cursor} {node : Node} {es : Journal} :
    (p .empty).reply? c.push = some ⟨.matched node, c₁, es⟩ → c₁.position = c.position →
      Iterates name p c [c] ⟨[], c₁.pop,
        .op .push c :: es ++ [.op .pop c₁, .notice (.zeroWidth name c.position)]⟩
  | recorded {c c₁ : Cursor} {starts : List Cursor} {node : Node} {es : Journal}
    {r : Reply (List Node)} :
    (p .empty).reply? c.push = some ⟨.matched node, c₁, es⟩ → c₁.position ≠ c.position →
      Iterates name p c₁.commit starts r →
        Iterates name p c (c :: starts)
          ⟨node :: r.value, r.cursor, .op .push c :: es ++ .op .commit c₁ :: r.journal⟩

variable {p : Parser} {name : String} {limit : Nat} {slot : Node} {c : Cursor}
variable {starts : List Cursor} {r : Reply (List Node)}

theorem Iterates.ne_nil (h : Iterates name p c starts r) : starts ≠ [] := by
  cases h <;> exact List.cons_ne_nil _ _

-- The limit is the number of iterations that the loop may take, and nothing else.
theorem reply?_repetitions_eq_some_iff :
    (repetitions name p limit).reply? c = some r ↔
      ∃ starts, Iterates name p c starts r ∧ starts.length ≤ limit := by
  induction limit generalizing c r
  case zero =>
    refine ⟨nofun, fun ⟨starts, h, hl⟩ => ?_⟩
    exact absurd (List.length_eq_zero_iff.mp (Nat.le_zero.mp hl)) h.ne_nil
  case succ limit hi =>
    rw [reply?_repetitions_succ_eq_some_iff]
    constructor
    case mp =>
      rintro (⟨_, _, _, _, hr, rfl⟩ | ⟨_, _, _, hr, hq, rfl⟩ | ⟨_, _, _, _, hr, hq, ht, rfl⟩)
      case inl => exact ⟨[c], .failed hr, by simp⟩
      case inr.inl => exact ⟨[c], .unmoved hr hq, by simp⟩
      case inr.inr =>
        have ⟨starts, h, hl⟩ := hi.mp ht
        exact ⟨c :: starts, .recorded hr hq h, Nat.succ_le_succ hl⟩
    case mpr =>
      rintro ⟨_, h, hl⟩
      cases h
      case failed hr => exact .inl ⟨_, _, _, _, hr, rfl⟩
      case unmoved hr hq => exact .inr (.inl ⟨_, _, _, hr, hq, rfl⟩)
      case recorded h hr hq =>
        have ht := hi.mpr ⟨_, h, Nat.le_of_succ_le_succ hl⟩
        exact .inr (.inr ⟨_, _, _, _, hr, hq, ht, rfl⟩)

theorem Iterates.length_eq (h : Iterates name p c starts r) :
    starts.length = r.value.length + 1 := by
  induction h
  case failed      => rfl
  case unmoved     => rfl
  case recorded hi => exact congrArg Nat.succ hi

namespace Retains

-- The position that was saved before the call is still among the saved ones, all of which are
-- behind the cursor.
theorem position_le {s : Reply Answer} (hp : p.Retains) (hc : c.Valid)
    (h : (p slot).reply? c.push = some s) : c.position ≤ s.cursor.position := by
  have hm : c.position ∈ s.cursor.saved := (hp hc.push h).subset List.mem_cons_self
  exact (Run.valid_of_reply? h hc.push).behind c.position hm

section

variable (hp : p.Retains) (hc : c.Valid)

include hp hc

theorem position_le_of_mem_starts (h : Iterates name p c starts r) :
    ∀ d ∈ starts, c.position ≤ d.position := by
  induction h
  case failed  => simp
  case unmoved => simp
  case recorded hr _ _ hi =>
    have ⟨hc₁, _⟩ := Run.commit_of_reply? hr hc
    refine List.forall_mem_cons.mpr ⟨Nat.le_refl _, fun d hd => ?_⟩
    exact Nat.le_trans (hp.position_le hc hr) (hi hc₁ d hd)

theorem starts_increase (h : Iterates name p c starts r) :
    (starts.map Cursor.position).Pairwise (· < ·) := by
  induction h
  case failed  => exact List.pairwise_singleton ..
  case unmoved => exact List.pairwise_singleton ..
  case recorded hr hq h hi =>
    have ⟨hc₁, _⟩ := Run.commit_of_reply? hr hc
    have hlt := Nat.lt_of_le_of_ne (hp.position_le hc hr) hq.symm
    refine List.pairwise_cons.mpr ⟨List.forall_mem_map.mpr fun d hd => ?_, hi hc₁⟩
    exact Nat.lt_of_lt_of_le hlt (hp.position_le_of_mem_starts hc₁ h d hd)

theorem length_starts_le (h : Iterates name p c starts r) :
    starts.length ≤ 1 + (c.data.length - c.position) := by
  induction h
  case failed  => simp
  case unmoved => simp
  case recorded c c₁ starts node es r hr hq h hi =>
    have ⟨hc₁, hd⟩ := Run.commit_of_reply? hr hc
    have hle := hp.position_le hc hr
    have hlt := hc₁.position_le
    have hl := hi hc₁
    simp only [Cursor.commit, List.length_cons] at hd hlt hl hle ⊢
    rw [hd] at hlt hl
    omega

theorem exists_iterates (he : p.EndsOn c.data) : ∃ starts r, Iterates name p c starts r := by
  generalize hn : c.data.length - c.position = n
  induction n using Nat.strongRecOn generalizing c
  case ind n hi =>
    have ⟨⟨a, c₁, es⟩, hr⟩ := Option.isSome_iff_exists.mp (@he .empty c.push hc.push rfl)
    cases a
    case failed => exact ⟨_, _, .failed hr⟩
    case matched =>
      by_cases hq : c₁.position = c.position
      case pos => exact ⟨_, _, .unmoved hr hq⟩
      case neg =>
        have ⟨hc₁, hd⟩ := Run.commit_of_reply? hr hc
        have hle : c.position ≤ c₁.position := hp.position_le hc hr
        have hlt : c₁.position ≤ c.data.length := hd ▸ hc₁.position_le
        have hm : c.data.length - c₁.position < n := by omega
        have ⟨starts, r, h⟩ := hi _ hm hc₁ (hd ▸ he) (by rw [hd]; rfl)
        exact ⟨_, _, .recorded hr hq h⟩

end

end Retains

theorem exists_reply?_many (hp : p.Retains) (he : p.EndsOn c.data) (hc : c.Valid) :
    ∃ r, ∀ limit, c.data.length < limit → (many limit name p slot).reply? c = some r := by
  have ⟨⟨a, c₁, es⟩, hr⟩ := Option.isSome_iff_exists.mp (@he .empty c.push hc.push rfl)
  cases a
  case failed e node =>
    exact ⟨_, fun limit _ => reply?_many_eq_some_iff.mpr (.inl ⟨_, _, _, _, hr, rfl⟩)⟩
  case matched first =>
    have ⟨hc₁, hd⟩ := Run.commit_of_reply? hr hc
    have ⟨starts, s, h⟩ := @hp.exists_iterates p name c₁.commit hc₁ (hd ▸ he)
    refine ⟨_, fun limit hl => reply?_many_eq_some_iff.mpr (.inr ⟨_, _, _, s, hr, ?_, rfl⟩)⟩
    have hn := hd ▸ hp.length_starts_le hc₁ h
    exact reply?_repetitions_eq_some_iff.mpr ⟨starts, h, by omega⟩

end Parser

namespace Grammar

theorem exists_reply? {g : Grammar} {c : Cursor} (hg : g.leaves = []) (hc : c.Valid)
    (slot : Node) :
    ∃ r, ∀ env : Env, c.data.length < env.limit → (g.parser env slot).reply? c = some r := by
  let least : Env := { limit := c.data.length + 1, rule := fun _ _ => Run.exhausted }
  have hs : ((g.parser least slot).reply? c).isSome :=
    isSome_reply? hg hc slot (Nat.lt_succ_self _)
  have ⟨r, hr⟩ := Option.isSome_iff_exists.mp hs
  refine ⟨r, fun env hl => ?_⟩
  have hm : g.parser least ≤ g.parser env := parser_mono hl (by simp [hg])
  exact hm slot hr

end Grammar

namespace Parser

-- A repetition of a parser that ends ends as well, and any limit that exceeds the length of the
-- input leaves it to itself. Each byte that is left over after the first match allows for one node
-- more and for one call more, and no iteration starts where an earlier one has started.
theorem repetition_ends :
    (∀ (p : Parser) (name : String) (slot : Node) (c : Cursor), p.Retains → p.EndsOn c.data →
      c.Valid →
        (∃ r, ∀ limit, c.data.length < limit → (many limit name p slot).reply? c = some r) ∧
        ∀ limit r, (many limit name p slot).reply? c = some r →
          (∃ e node c₁ es e', (p .empty).reply? c.push = some ⟨.failed e node, c₁, es⟩ ∧
            r = ⟨.failed e' slot, c₁.pop, .op .push c :: es ++ [.op .pop c₁]⟩) ∨
          ∃ first c₁ es starts s, (p .empty).reply? c.push = some ⟨.matched first, c₁, es⟩ ∧
            Iterates name p c₁.commit starts s ∧
            r = ⟨.matched (.branch (first :: s.value)), s.cursor,
              .op .push c :: es ++ .op .commit c₁ :: s.journal⟩ ∧
            (first :: s.value).length ≤ 1 + (c.data.length - c₁.position) ∧
            1 + starts.length ≤ 2 + (c.data.length - c₁.position) ∧
            (starts.map Cursor.position).Pairwise (· < ·)) ∧
    ∀ (g : Grammar) (slot : Node) (c : Cursor), g.leaves = [] → c.Valid →
      ∃ r, ∀ env : Env, c.data.length < env.limit → (g.parser env slot).reply? c = some r := by
  refine ⟨fun p name slot c hp he hc => ⟨exists_reply?_many hp he hc, ?_⟩,
    fun g slot c hg hc => Grammar.exists_reply? hg hc slot⟩
  intro limit r h
  obtain ⟨_, _, _, _, hr, rfl⟩ | ⟨first, c₁, es, s, hr, ht, rfl⟩ := reply?_many_eq_some_iff.mp h
  case inl => exact .inl ⟨_, _, _, _, _, hr, rfl⟩
  case inr =>
    have ⟨hc₁, hd⟩ := Run.commit_of_reply? hr hc
    have ⟨starts, h, _⟩ := reply?_repetitions_eq_some_iff.mp ht
    have hn : starts.length ≤ 1 + (c.data.length - c₁.position) := hd ▸ hp.length_starts_le hc₁ h
    refine .inr ⟨first, c₁, es, starts, s, hr, h, rfl, ?_, by omega, hp.starts_increase hc₁ h⟩
    rw [List.length_cons, ← h.length_eq]
    exact hn

-- The parser leaves a transaction open at every call. Its third call fails and ends the loop.
theorem repetition_ends_of_ones :
    let p : Parser := fun slot => do
      Run.push
      (Matcher.oneOf [1]).parser slot
    let c : Cursor := { data := [1, 1, 2, 1], position := 0, saved := [0], window := 3 }
    let g : Grammar := .many (.many (.maybe (.seq [])))
    (∃ r, (∀ limit, 4 < limit → (many limit "P" p .empty).reply? c = some r) ∧
      ∃ starts s, Iterates "P" p { c with position := 1, saved := [0, 0], window := 0 } starts s ∧
        r.cursor = s.cursor ∧ 1 + starts.length ≤ 5) ∧
    ∃ r, ∀ env : Env, 4 < env.limit → (g.parser env .empty).reply? c = some r := by
  intro p c g
  have hp : p.Retains := by
    intro slot d r hd h
    have ⟨_, s, hr, hs, he⟩ := Run.reply?_bind_eq_some_iff.mp h
    cases hr
    cases he
    exact Matcher.parser_lawful.tidy hd.push hs ▸ List.suffix_cons d.position d.saved
  have he : p.EndsOn c.data := by
    intro slot d hd _
    let env : Env := { limit := d.data.length + 1, rule := fun _ _ => Run.exhausted }
    have hs : (((Grammar.matcher (.oneOf [1])).parser env slot).reply? d.push).isSome :=
      Grammar.isSome_reply? rfl hd.push slot (Nat.lt_succ_self _)
    have ⟨s, hs⟩ := Option.isSome_iff_exists.mp hs
    exact Option.isSome_of_eq_some (Run.reply?_bind_eq_some_iff.mpr ⟨_, s, rfl, hs, rfl⟩)
  have hc : c.Valid := by decide
  have ⟨hr, hb⟩ := repetition_ends.left p "P" .empty c hp he hc
  have ⟨r, hr⟩ := hr
  refine ⟨⟨r, hr, ?_⟩, repetition_ends.right g .empty c rfl hc⟩
  obtain ⟨_, _, _, _, _, h, _⟩ | ⟨_, _, _, starts, s, h, hi, he, _, hn, _⟩ :=
    hb 5 r (hr 5 (by decide))
  case inl => cases h
  case inr =>
    cases h
    exact ⟨starts, s, hi, congrArg Reply.cursor he, hn⟩

end Parser
end Backtrack
