import Backtrack.Proofs.Meaning.Correspondence
import Backtrack.Proofs.Meaning.Failures

namespace Backtrack

-- The text in a leaf may have become a token of the same bytes.
inductive Value.Recoded : Value → Value → Prop
  | refl {v : Value} : Recoded v v
  | text {s : String} : Recoded (text s) (token (Text.utf8 s))

inductive Node.Recoded : Node → Node → Prop
  | empty : Recoded empty empty
  | leaf {v w : Value} : v.Recoded w → Recoded (leaf v) (leaf w)
  | branch {ns ms : List Node} : List.Forall₂ Recoded ns ms → Recoded (branch ns) (branch ms)

inductive Matcher.Recoded : Matcher → Matcher → Prop
  | refl {m : Matcher} : Recoded m m
  | string {s : String} : Recoded (string s) (bytes (Text.utf8 s))

-- The grammars have the same structure. Their matchers may be written as literals or not, and those
-- for strings may have become matchers for bytes. Functions on nodes could tell the difference.
inductive Grammar.Recoded : Grammar → Grammar → Prop
  | matcher {g h : Grammar} {m n : Matcher} :
    g.matcher? = some m → h.matcher? = some n → m.Recoded n → Recoded g h
  | boxed {g h : Grammar} : Recoded g h → Recoded (boxed g) (boxed h)
  | seq {gs hs : List Grammar} : List.Forall₂ Recoded gs hs → Recoded (seq gs) (seq hs)
  | any {gs hs : List Grammar} : List.Forall₂ Recoded gs hs → Recoded (any gs) (any hs)
  | maybe {g h : Grammar} : Recoded g h → Recoded (maybe g) (maybe h)
  | many {g h : Grammar} : Recoded g h → Recoded (many g) (many h)

-- A failure without the names and the messages.
def Failure.outline : Failure → Failure
  | rejected _ _ position => rejected "" "" position
  | within _ _ position cause => within "" "" position cause.outline
  | e => e

theorem Value.Recoded.bytes_eq {v w : Value} (h : v.Recoded w) : w.bytes = v.bytes := by
  cases h <;> rfl

theorem Matcher.Recoded.width_eq {m n : Matcher} (h : m.Recoded n) : n.width = m.width := by
  cases h <;> rfl

theorem Matcher.Recoded.accepts_eq {m n : Matcher} {window : List UInt8} (h : m.Recoded n) :
    n.accepts window = m.accepts window := by
  cases h <;> rfl

theorem Matcher.Recoded.value {m n : Matcher} {window : List UInt8} (h : m.Recoded n)
    (ha : m.accepts window) : (m.value window).Recoded (n.value window) := by
  cases h
  case refl   => exact .refl
  case string =>
    rw [beq_iff_eq.mp ha]
    exact .text

section

variable {α β : Type} {R S : α → α → Prop} {as bs : List α}

theorem forall₂_imp_of_mem (h : List.Forall₂ R as bs) (hs : ∀ a ∈ as, ∀ ⦃b⦄, R a b → S a b) :
    List.Forall₂ S as bs :=
  ((List.forall₂_and_left as bs).mpr ⟨hs, h⟩).imp fun _ _ ⟨hs, hr⟩ => hs hr

theorem flatMap_eq_of_forall₂ {f : α → List β} (h : List.Forall₂ (fun a b => f b = f a) as bs) :
    bs.flatMap f = as.flatMap f := by
  induction h
  case nil           => rfl
  case cons hf _ hi  => rw [List.flatMap_cons, List.flatMap_cons, hf, hi]

end

namespace Node

section

variable {motive : Node → Prop}
variable (empty : motive empty) (leaf : ∀ v, motive (leaf v))
variable (branch : ∀ ns, (∀ n ∈ ns, motive n) → motive (branch ns))

include empty leaf branch in
@[induction_eliminator]
theorem induction (n : Node) : motive n := by
  match n with
  | .empty     => exact empty
  | .leaf v    => exact leaf v
  | .branch ns => exact branch ns fun n _ => induction n

end

theorem Recoded.bytes_eq {n m : Node} (h : n.Recoded m) : m.bytes = n.bytes := by
  induction n generalizing m <;> cases h
  case empty     => rfl
  case leaf hv   => rw [bytes_leaf, bytes_leaf, hv.bytes_eq]
  case branch hi _ hm =>
    rw [bytes_branch, bytes_branch]
    exact flatMap_eq_of_forall₂ (forall₂_imp_of_mem hm hi)

end Node

variable {data : List UInt8}

namespace Correspondence

-- The names may differ, hence the failures are compared without them.
def recoding : Correspondence data data where
  place   := id
  name _ _ := True
  node    := Node.Recoded
  failure e e' := e'.outline = e.outline
  drop_place := rfl
  empty := .empty
  branch := .branch
  insufficient := rfl
  rejected _ := rfl
  within _ he := by simp only [Failure.outline, he, id]

end Correspondence

namespace Grammar

variable {g h : Grammar} {env : Env}

theorem leaves_of_matcher? {m : Matcher} (hm : g.matcher? = some m) : g.leaves = [] := by
  cases g
  case matcher | literal => rfl
  all_goals cases hm

theorem meaning_of_matcher? {m : Matcher} (hm : g.matcher? = some m) :
    g.meaning data = Meaning.matcher m := by
  cases g
  case matcher | literal =>
    cases hm
    rfl
  all_goals cases hm

section

variable {motive : Grammar → Grammar → Prop}
variable (matcher : ∀ {g h m n}, g.matcher? = some m → h.matcher? = some n → m.Recoded n →
  motive g h)
variable (boxed : ∀ {g h}, motive g h → motive (.boxed g) (.boxed h))
variable (seq : ∀ {gs hs}, List.Forall₂ motive gs hs → motive (.seq gs) (.seq hs))
variable (any : ∀ {gs hs}, List.Forall₂ motive gs hs → motive (.any gs) (.any hs))
variable (maybe : ∀ {g h}, motive g h → motive (.maybe g) (.maybe h))
variable (many : ∀ {g h}, motive g h → motive (.many g) (.many h))

include matcher boxed seq any maybe many in
@[elab_as_elim]
theorem Recoded.induction (hr : g.Recoded h) : motive g h := by
  induction g generalizing h <;> cases hr
  case boxed.boxed hi _ hr => exact boxed (hi hr)
  case seq.seq hi _ hr     => exact seq (forall₂_imp_of_mem hr hi)
  case any.any hi _ hr     => exact any (forall₂_imp_of_mem hr hi)
  case maybe.maybe hi _ hr => exact maybe (hi hr)
  case many.many hi _ hr   => exact many (hi hr)
  all_goals exact matcher ‹_› ‹_› ‹_›

end

theorem Recoded.leaves_eq_nil (hr : g.Recoded h) : g.leaves = [] ∧ h.leaves = [] := by
  have hl {gs hs : List Grammar}
      (hi : List.Forall₂ (fun g h => g.leaves = [] ∧ h.leaves = []) gs hs) :
      (∀ g ∈ gs, g.leaves = []) ∧ ∀ h ∈ hs, h.leaves = [] := by
    induction hi <;> simp_all
  refine hr.induction ?matcher id ?seq ?any id id
  case matcher => exact fun hm hn _ => ⟨leaves_of_matcher? hm, leaves_of_matcher? hn⟩
  case seq | any =>
    intro gs hs hi
    have ⟨hg, hh⟩ := hl hi
    exact ⟨leaves_eq_nil_iff.mpr ⟨rfl, hg⟩, leaves_eq_nil_iff.mpr ⟨rfl, hh⟩⟩

theorem Recoded.meaning (hr : g.Recoded h) :
    Correspondence.recoding.Meanings (g.meaning data) (h.meaning data) := by
  refine hr.induction ?matcher id ?seq ?any ?maybe ?many
  case seq   => exact fun hi => .seq (meanings_correspond hi) trivial
  case any   => exact fun hi => .any (meanings_correspond hi) trivial
  case maybe => exact fun hi => hi.maybe
  case many  => exact fun hi => hi.many trivial
  case matcher =>
    intro g h m n hm hn hr
    rw [meaning_of_matcher? hm, meaning_of_matcher? hn]
    exact .matcher hr.width_eq (fun _ => hr.accepts_eq) (fun _ ha => .leaf (hr.value ha))
      fun _ _ => rfl

-- Both grammars match up to the same position, or both fail. The nodes have the same bytes below
-- them, and the failures differ by names and messages.
theorem recoded_interchangeable (hgh : g.Recoded h) {c : Cursor} (hc : c.Valid) :
    (c.data.length < env.limit → ((g.parser env .empty).reply? c).isSome ∧
      ((h.parser env .empty).reply? c).isSome) ∧
    ∀ r s, (g.parser env .empty).reply? c = some r → (h.parser env .empty).reply? c = some s →
      s.cursor.position = r.cursor.position ∧
      match r.value, s.value with
      | .matched n, .matched m => n.Recoded m ∧ m.bytes = n.bytes
      | .failed e _, .failed f _ => f.outline = e.outline
      | _, _ => False := by
  have ⟨hg, hh⟩ := hgh.leaves_eq_nil
  constructor
  case left => exact fun hl => ⟨isSome_reply? hg hc .empty hl, isSome_reply? hh hc .empty hl⟩
  case right =>
    intro r s hr hs
    have ⟨hp, hv⟩ := replies_correspond hgh.meaning hg hh hc.at_place hc.at_place .empty hr hs
    refine ⟨by omega, ?_⟩
    obtain ⟨n, m, hv, hv', hn⟩ | ⟨e, f, hv, hv', he⟩ := hv
    all_goals simp only [hv, hv']
    case inl => exact ⟨hn, hn.bytes_eq⟩
    case inr => exact he

theorem recoded_interchangeable_of_cut_off :
    let pair : Grammar := .seq [.matcher (.string ""), .matcher (.string "é")]
    let pair' : Grammar := .seq [.literal (.bytes (Text.utf8 "")), .matcher (.string "é")]
    let g : Grammar := .seq [.many (.literal (.string "é")), .any [pair, .literal (.byte 195)]]
    let h : Grammar := .seq [.many (.matcher (.bytes (Text.utf8 "é"))),
      .any [pair', .matcher (.oneOf [195])]]
    let env : Env := { limit := 7, rule := fun _ _ => Run.exhausted }
    let c : Cursor :=
      { data := [0, 195, 169, 195, 169, 195], position := 1, saved := [1, 0], window := 5 }
    g.Recoded h ∧ ∃ s n, (h.parser env .empty).reply? c = some s ∧ s.value = .matched n ∧
      n.bytes = [195, 169, 195, 169, 195] ∧ s.cursor.position = 6 := by
  intro pair pair' g h env c
  have hr : ((g.parser env .empty).reply? c).map (fun r => (r.value, r.cursor.position)) =
      some (.matched (.branch [.branch [.leaf (.text "é"), .leaf (.text "é")],
        .leaf (.token [195])]), 6) := by
    decide +kernel
  have ⟨r, hr, hv⟩ := Option.map_eq_some_iff.mp hr
  have ⟨hv, hp⟩ := Prod.mk.inj hv
  have hp' : pair.Recoded pair' :=
    .seq (.cons (.matcher rfl rfl .string) (.cons (.matcher rfl rfl .refl) .nil))
  have hgh : g.Recoded h := .seq (.cons (.many (.matcher rfl rfl .string))
    (.cons (.any (.cons hp' (.cons (.matcher rfl rfl .refl) .nil))) .nil))
  have hc : c.Valid := by decide
  have ⟨hl, hrs⟩ := @recoded_interchangeable g h env hgh c hc
  have ⟨s, hs⟩ := Option.isSome_iff_exists.mp (hl (by decide)).right
  have ⟨hq, hm⟩ := hrs r s hr hs
  cases hw : s.value <;> simp only [hv, hw] at hm
  case matched n =>
    refine ⟨hgh, s, n, hs, hw, hm.right.trans ?_, hq.trans hp⟩
    decide +kernel

end Grammar
end Backtrack
