import Backtrack.Script
import Backtrack.Proofs.Meaning.Refinement

namespace Backtrack

def Answer.map (f : Node → Node) : Answer → Answer
  | matched slot => matched (f slot)
  | failed e slot => failed e slot

namespace Parser

variable {p : Parser} {ps : List Parser} {name : String} {f g : Node → Node} {slot : Node}
variable {c : Cursor}

theorem reply?_map :
    (map f p slot).reply? c =
      ((p slot).reply? c).map fun r => { r with value := r.value.map f } := by
  rcases hp : (p slot).reply? c with _ | ⟨_ | _, c₁, es⟩ <;>
    simp [map, Run.reply?_bind, hp, Answer.map]

theorem map_id : map id p = p := by
  funext slot
  refine Run.ext fun c => ?_
  rw [reply?_map]
  rcases (p slot).reply? c with _ | ⟨_ | _, c₁, es⟩ <;> rfl

theorem map_map : map g (map f p) = map (g ∘ f) p := by
  funext slot
  refine Run.ext fun c => ?_
  rw [reply?_map, reply?_map, reply?_map]
  rcases (p slot).reply? c with _ | ⟨_ | _, c₁, es⟩ <;> rfl

theorem reply?_firstOf_map :
    (firstOf (ps.map (map f)) slot).reply? c =
      ((firstOf ps slot).reply? c).map fun r => { r with value := r.value.map f } := by
  induction ps generalizing slot c
  case nil => rfl
  case cons p ps hi =>
    rcases hp : (p slot).reply? c with _ | ⟨_ | ⟨e, node⟩, c₁, es⟩
    case some.failed =>
      simp only [List.map_cons, firstOf, Run.reply?_bind, reply?_map, hp, Option.map_some,
        Option.bind_some, Answer.map, hi, Option.map_map]
      rfl
    all_goals simp [firstOf, Run.reply?_bind, reply?_map, hp, Answer.map, Except.map]

theorem any_map : any name (ps.map (map f)) = map f (any name ps) := by
  funext slot
  refine Run.ext fun c => ?_
  rw [reply?_map]
  rcases hp : (firstOf ps slot).reply? c.push with _ | ⟨_ | _, c₁, es⟩ <;>
    simp [any, Run.reply?_bind, reply?_firstOf_map, hp, Answer.map, Except.map]

theorem reply?_any_rename {t : Reply Answer} (name' : String)
    (ht : (any name ps slot).reply? c = some t) :
    ∃ u, (any name' ps slot).reply? c = some u ∧ u.cursor = t.cursor ∧
      ((∃ node, t.value = .matched node ∧ u.value = .matched node) ∨
      ∃ node,
        t.value = .failed (.rejected name "no alternative matched" t.cursor.position) node ∧
        u.value = .failed (.rejected name' "no alternative matched" t.cursor.position) node) := by
  obtain ⟨node, c₁, es, hr, rfl⟩ | ⟨node, c₁, es, hr, rfl⟩ := reply?_any_eq_some_iff.mp ht
  case inl =>
    exact ⟨_, reply?_any_eq_some_iff.mpr (.inl ⟨_, _, _, hr, rfl⟩), rfl, .inl ⟨node, rfl, rfl⟩⟩
  case inr =>
    exact ⟨_, reply?_any_eq_some_iff.mpr (.inr ⟨_, _, _, hr, rfl⟩), rfl, .inr ⟨node, rfl, rfl⟩⟩

end Parser

namespace Grammar

variable {gs : List Grammar} {env : Env} {f : Node → Node} {c : Cursor}

-- Only the name tells that the alternatives have been mapped, and not the choice.
theorem parser_any_map :
    (any (gs.map fun g => map g f)).parser env =
      Parser.map f (Parser.any (signature "Any" (gs.map fun g => map g f)) (parsers env gs)) := by
  have hp : parsers env (gs.map fun g => map g f) = (parsers env gs).map (Parser.map f) := by
    rw [parsers_eq_map, parsers_eq_map, List.map_map, List.map_map]
    rfl
  rw [parser, hp, Parser.any_map]

-- Mappings compose over any parser, also one that breaks the rules, and they have no part in a
-- failure. To map the alternatives of a choice is to map the choice, except that each of the two
-- reports its own name when it fails.
theorem map_composes_and_distributes (env : Env) :
    (∀ p : Parser, Parser.map id p = p ∧ ∀ f : Node → Node,
      (∀ g, Parser.map g (Parser.map f p) = Parser.map (g ∘ f) p) ∧
      ∀ slot c e node c₁ es, (p slot).reply? c = some ⟨.failed e node, c₁, es⟩ →
        (Parser.map f p slot).reply? c = some ⟨.failed e node, c₁, es⟩) ∧
    ∀ (gs : List Grammar) (f : Node → Node) (slot : Node) (c : Cursor),
      (∀ g ∈ gs, g.leaves = []) → c.Valid → c.data.length < env.limit →
        ∃ r s t, ((any (gs.map fun g => map g f)).parser env slot).reply? c = some r ∧
          ((map (any gs) f).parser env slot).reply? c = some s ∧
          ((any gs).parser env slot).reply? c = some t ∧
          r.cursor = t.cursor ∧ s.cursor = t.cursor ∧ t.cursor.saved = c.saved ∧
          ((∃ node, t.value = .matched node ∧ r.value = .matched (f node) ∧
            s.value = .matched (f node)) ∨
          t.cursor.position = c.position ∧
            r.value = .failed (.rejected (signature "Any" (gs.map fun g => map g f))
              "no alternative matched" c.position) slot ∧
            s.value = .failed (.rejected (signature "Any" gs)
              "no alternative matched" c.position) slot) := by
  refine ⟨fun p => ⟨Parser.map_id, fun f => ⟨fun g => Parser.map_map, ?failed⟩⟩, ?any⟩
  case failed =>
    intro slot c e node c₁ es h
    exact Parser.reply?_map_eq_some_iff.mpr (.inr ⟨e, node, c₁, es, h, rfl⟩)
  case any =>
    intro gs f slot c hg hc hl
    have hg : (any gs).leaves = [] := leaves_eq_nil_iff.mpr ⟨rfl, hg⟩
    have ⟨t, ht⟩ := Option.isSome_iff_exists.mp (isSome_reply? hg hc slot hl)
    have ⟨u, hu, he, hv⟩ := Parser.reply?_any_rename (signature "Any" (gs.map fun g => map g f)) ht
    have hs : ((map (any gs) f).parser env slot).reply? c = _ := Parser.reply?_map
    rw [ht] at hs
    rw [parser_any_map, Parser.reply?_map, hu]
    refine ⟨_, _, t, rfl, hs, ht, he, rfl, ?_⟩
    have hq := parser_lawful_of_leaves_eq_nil hg hc ht
    obtain ⟨node, hv, hv'⟩ | ⟨node, hv, hv'⟩ := hv
    all_goals simp only [Reply.Lawful, hv] at hq
    case inl =>
      exact ⟨hq.left, .inl ⟨node, hv, congrArg (Answer.map f) hv', congrArg (Answer.map f) hv⟩⟩
    case inr =>
      obtain ⟨hp, hd, rfl⟩ := hq
      rw [hp] at hv hv'
      exact ⟨hd, .inr ⟨hp, congrArg (Answer.map f) hv', congrArg (Answer.map f) hv⟩⟩

theorem map_composes_and_distributes_of_option :
    let env : Env := { limit := 4, rule := fun _ _ => Run.exhausted }
    let half : Node := .leaf (.text "half")
    let stray := Script.parser env [.write half, .tryRequest 1, .advance, .fail Script.unfinished]
    let wrap : Node → Node := fun n => .branch [n]
    let gs : List Grammar := [.literal (.byte 9), .maybe (.literal (.byte 8))]
    let slot : Node := .leaf (.text "kept")
    let c : Cursor := { data := [1, 2], position := 1, saved := [0], window := 1 }
    (∃ r, (Parser.map wrap stray slot).reply? c = some r ∧
      r.value = .failed (Script.unfinished 2) half) ∧
    ∃ r s, ((any (gs.map fun g => map g wrap)).parser env slot).reply? c = some r ∧
      ((map (any gs) wrap).parser env slot).reply? c = some s ∧ r.cursor = s.cursor ∧
      r.value = .matched (.branch [slot]) ∧ s.value = .matched (.branch [slot]) := by
  intro env half stray wrap gs slot c
  have ⟨hmap, hany⟩ := map_composes_and_distributes env
  constructor
  case left =>
    have ⟨_, hf⟩ := hmap stray
    have ⟨_, hf⟩ := hf wrap
    exact ⟨_, hf slot c (Script.unfinished 2) half _ _ rfl, rfl⟩
  case right =>
    have hg : ∀ g ∈ gs, g.leaves = [] := List.flatMap_eq_nil_iff.mp rfl
    have ⟨r, s, t, hr, hs, _, hc, hc', _, h⟩ := hany gs wrap slot c hg (by decide) (by decide)
    have hv : (((map (any gs) wrap).parser env slot).reply? c).map (·.value) =
        some (.matched (.branch [slot])) := by
      decide +kernel
    rw [hs] at hv
    replace hv := Option.some.inj hv
    refine ⟨r, s, hr, hs, hc.trans hc'.symm, ?_, hv⟩
    obtain ⟨node, _, hr', hs'⟩ | ⟨_, _, hs'⟩ := h
    case inl => exact hr'.trans (hs'.symm.trans hv)
    case inr => cases hv.symm.trans hs'

end Grammar
end Backtrack
