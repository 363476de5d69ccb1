import Mathlib.Data.List.Forall2
import Mathlib.Order.Basic
import Backtrack.Proofs.Grammar.Parts
import Backtrack.Proofs.Parser.Replies

namespace Backtrack

namespace Run

variable {α β : Type}

-- The second run replies at least where the first one does, and the same.
instance : LE (Run α) where
  le x y := ∀ ⦃c r⦄, x.reply? c = some r → y.reply? c = some r

variable {x y : Run α} {f g : α → Run β}

theorem le_refl : x ≤ x :=
  fun _ _ h => h

theorem exhausted_le : exhausted ≤ x :=
  nofun

theorem leaf_mono (h : x ≤ y) : x.leaf ≤ y.leaf := by
  intro c r hr
  have ⟨s, hs, he⟩ := Option.map_eq_some_iff.mp hr
  exact Option.map_eq_some_iff.mpr ⟨s, h hs, he⟩

theorem bind_mono (hx : x ≤ y) (hf : ∀ a, f a ≤ g a) : x >>= f ≤ y >>= g := by
  intro c s h
  have ⟨r, s', hr, hs, he⟩ := reply?_bind_eq_some_iff.mp h
  exact reply?_bind_eq_some_iff.mpr ⟨r, s', hx hr, hf _ hs, he⟩

end Run

namespace Parser

open Run (le_refl bind_mono)

variable {p q : Parser} {ps qs : List Parser} {name : String} {i m n : Nat}

theorem map_mono {f : Node → Node} (h : p ≤ q) : p.map f ≤ q.map f :=
  fun slot => bind_mono (h slot) fun _ => le_refl

theorem elements_mono (h : List.Forall₂ (· ≤ ·) ps qs) : elements i ps ≤ elements i qs := by
  induction h generalizing i
  case nil => exact le_refl
  case cons hp _ hi =>
    refine bind_mono (hp .empty) fun a => ?_
    cases a
    case matched => exact bind_mono hi fun _ => le_refl
    case failed  => exact le_refl

theorem seq_mono (h : List.Forall₂ (· ≤ ·) ps qs) : Parser.seq name ps ≤ Parser.seq name qs :=
  fun _ => bind_mono le_refl fun _ => bind_mono (elements_mono h) fun _ => le_refl

theorem firstOf_mono {slot : Node} (h : List.Forall₂ (· ≤ ·) ps qs) :
    firstOf ps slot ≤ firstOf qs slot := by
  induction h generalizing slot
  case nil => exact le_refl
  case cons hp _ hi =>
    refine bind_mono (hp slot) fun a => ?_
    cases a
    case matched => exact le_refl
    case failed  => exact hi

theorem any_mono (h : List.Forall₂ (· ≤ ·) ps qs) : Parser.any name ps ≤ Parser.any name qs :=
  fun _ => bind_mono le_refl fun _ => bind_mono (firstOf_mono h) fun _ => le_refl

theorem maybe_mono (h : p ≤ q) : Parser.maybe name p ≤ Parser.maybe name q :=
  fun slot => bind_mono le_refl fun _ => bind_mono (h slot) fun _ => le_refl

theorem repetitions_mono (h : p ≤ q) (hn : m ≤ n) :
    repetitions name p m ≤ repetitions name q n := by
  induction m generalizing n
  case zero => exact Run.exhausted_le
  case succ m hi =>
    cases n
    case zero => cases hn
    case succ n =>
      have hr := hi (Nat.le_of_succ_le_succ hn)
      refine bind_mono le_refl fun start => bind_mono le_refl fun _ => ?_
      refine bind_mono (h .empty) fun a => ?_
      cases a
      case failed => exact le_refl
      case matched =>
        refine bind_mono le_refl fun position => ?_
        split
        · exact le_refl
        · exact bind_mono le_refl fun _ => bind_mono hr fun _ => le_refl

theorem many_mono (h : p ≤ q) (hn : m ≤ n) : Parser.many m name p ≤ Parser.many n name q := by
  intro slot
  have hr : repetitions name p m ≤ repetitions name q n := repetitions_mono h hn
  refine bind_mono le_refl fun _ => bind_mono (h .empty) fun a => ?_
  cases a
  case failed  => exact le_refl
  case matched => exact bind_mono le_refl fun _ => bind_mono hr fun _ => le_refl

end Parser

namespace Grammar

variable {g : Grammar} {gs : List Grammar} {env env' : Env}

theorem parsers_mono (h : ∀ g ∈ gs, g.parser env ≤ g.parser env') :
    List.Forall₂ (· ≤ ·) (parsers env gs) (parsers env' gs) := by
  rw [parsers_eq_map, parsers_eq_map, List.forall₂_map_left_iff, List.forall₂_map_right_iff]
  exact List.forall₂_same.mpr h

theorem parser_mono (hl : env.limit ≤ env'.limit) (h : ∀ r ∈ g.leaves, r env ≤ r env') :
    g.parser env ≤ g.parser env' := by
  induction g
  case matcher  => exact fun _ => Run.le_refl
  case literal  => exact fun _ => Run.le_refl
  case boxed hi => exact hi h
  case maybe hi => exact Parser.maybe_mono (hi h)
  case many hi  => exact Parser.many_mono (hi h) hl
  case map hi   => exact Parser.map_mono (hi h)
  case rule     => exact fun slot => Run.leaf_mono (h _ List.mem_cons_self slot)
  case routine  => exact fun slot => Run.leaf_mono (h _ List.mem_cons_self slot)
  case seq gs hi =>
    exact Parser.seq_mono (parsers_mono fun g hg =>
      hi g hg fun r hr => h r (collect_subset_of_mem_parts (seq gs) hg hr))
  case any gs hi =>
    exact Parser.any_mono (parsers_mono fun g hg =>
      hi g hg fun r hr => h r (collect_subset_of_mem_parts (any gs) hg hr))

end Grammar
end Backtrack
