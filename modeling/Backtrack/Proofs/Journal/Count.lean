import Mathlib.Data.List.Basic
import Mathlib.Data.List.Infix
import Backtrack.Journal

namespace Backtrack

def Event.isUnmatchedClose : Event → Bool
  | unmatchedPop _ | unmatchedCommit _ => true
  | _ => false

theorem Event.isUnmatchedClose_of_mem_ofOp? {c : Cursor} {o : Cursor.Op} {e : Event}
    (h : e ∈ (Event.ofOp? c o).toList) : e.isUnmatchedClose := by
  cases o <;> simp only [Event.ofOp?, Option.mem_toList, reduceCtorEq] at h
  case pop | commit =>
    split at h <;> cases h
    rfl

namespace Cursor
namespace Op

def opens (os : List Op) : Nat :=
  os.count push

def closes (os : List Op) : Nat :=
  os.count pop + os.count commit

-- A word of brackets: no more closes than pushes at any time, and as many in the end.
def Balanced (os : List Op) : Prop :=
  (∀ ps, ps <+: os → closes ps ≤ opens ps) ∧ closes os = opens os

instance {os : List Op} : Decidable (Balanced os) :=
  decidable_of_iff ((∀ ps ∈ os.inits, closes ps ≤ opens ps) ∧ closes os = opens os) (by
    simp [Balanced])

variable {os os' : List Op}

@[simp]
theorem opens_append : opens (os ++ os') = opens os + opens os' :=
  List.count_append

@[simp]
theorem closes_append : closes (os ++ os') = closes os + closes os' := by
  simp only [closes, List.count_append]
  omega

end Op

def reports (c : Cursor) : List Op → List Event
  | [] => []
  | o :: os => (Event.ofOp? c o).toList ++ (c.apply o).reports os

variable {c : Cursor} {os os' : List Op}

theorem applyAll_cons {o : Op} : c.applyAll (o :: os) = (c.apply o).applyAll os :=
  rfl

theorem applyAll_append : c.applyAll (os ++ os') = (c.applyAll os).applyAll os' :=
  List.foldl_append

theorem reports_append : c.reports (os ++ os') = c.reports os ++ (c.applyAll os).reports os' := by
  induction os generalizing c
  case nil          => rfl
  case cons o os hi => simp [reports, hi, applyAll]

theorem ofOp?_eq_none_iff {o : Op} :
    Event.ofOp? c o = none ↔ Op.closes [o] ≤ c.depth + Op.opens [o] := by
  cases o <;> simp [Event.ofOp?, Op.opens, Op.closes, depth, Nat.one_le_iff_ne_zero]

theorem saved_ne_nil_of_ofOp?_eq_none {o : Op} (ho : o = .pop ∨ o = .commit)
    (h : Event.ofOp? c o = none) : c.saved ≠ [] := by
  rcases ho with rfl | rfl <;> simpa [Event.ofOp?] using h

-- An operation that is not reported shifts the depth as it says; one that is has no effect.
theorem opens_add_ofOp? {o : Op} :
    Op.opens [o] + (Event.ofOp? c o).toList.length + c.depth =
      Op.closes [o] + (c.apply o).depth := by
  cases o
  case push => simp [Event.ofOp?, Op.opens, Op.closes, apply, push, depth, Nat.add_comm]
  case pop | commit =>
    cases hs : c.saved <;>
      simp [Event.ofOp?, Op.opens, Op.closes, apply, pop, commit, depth, hs, Nat.add_comm]
  case request => simp [Event.ofOp?, Op.opens, Op.closes, apply, depth, request_preserves_saved]
  case advance => simp [Event.ofOp?, Op.opens, Op.closes, apply, depth, advance]

theorem opens_add_reports (c : Cursor) (os : List Op) :
    Op.opens os + (c.reports os).length + c.depth = Op.closes os + (c.applyAll os).depth := by
  induction os generalizing c
  case nil          => simp [Op.opens, Op.closes, reports, applyAll]
  case cons o os hi =>
    have ho := c.opens_add_ofOp? (o := o)
    have hs := hi (c.apply o)
    rw [← List.singleton_append, Op.opens_append, Op.closes_append]
    simp only [List.singleton_append, reports, List.length_append, applyAll_cons]
    omega

theorem reports_eq_nil_iff :
    c.reports os = [] ↔ ∀ ps, ps <+: os → Op.closes ps ≤ c.depth + Op.opens ps := by
  constructor
  case mp =>
    rintro h ps ⟨qs, rfl⟩
    have ⟨hp, _⟩ := List.append_eq_nil_iff.mp (reports_append ▸ h)
    have hd := opens_add_reports c ps
    simp only [hp, List.length_nil] at hd
    omega
  case mpr =>
    intro h
    -- From the end, since the prefixes of a word are those of the word without its last operation,
    -- and the word itself.
    induction os using List.reverseRecOn
    case nil => rfl
    case append_singleton os o hi =>
      have hp := hi fun ps hp => h ps (hp.trans (List.prefix_append ..))
      have hd := opens_add_reports c os
      have hl := h (os ++ [o]) List.prefix_rfl
      simp only [hp, List.length_nil, Op.opens_append, Op.closes_append] at hd hl
      have ho : Event.ofOp? (c.applyAll os) o = none := ofOp?_eq_none_iff.mpr (by omega)
      simp [reports_append, reports, hp, ho]

theorem balanced_iff (h : c.saved = []) :
    Op.Balanced os ↔ c.reports os = [] ∧ (c.applyAll os).saved = [] := by
  have hc : c.depth = 0 := List.length_eq_zero_iff.mpr h
  have hr := @reports_eq_nil_iff c os
  have hd := opens_add_reports c os
  simp only [hc, Nat.zero_add] at hr
  rw [Op.Balanced, ← hr]
  refine and_congr_right fun hn => ?_
  rw [hn, hc, List.length_nil] at hd
  rw [← List.length_eq_zero_iff, ← depth]
  omega

end Cursor

mutual

-- An entry with the calls opened up, so that each operation and each notice stands by itself.
def Entry.unfolded : Entry → Journal
  | .leaf _ _ inner => Journal.unfolded inner
  | e => [e]

def Journal.unfolded : Journal → Journal
  | [] => []
  | e :: es => e.unfolded ++ Journal.unfolded es

end

def Entry.op? : Entry → Option Cursor.Op
  | .op o _ => some o
  | _ => none

namespace Journal

def ops (es : Journal) : List Cursor.Op :=
  es.unfolded.filterMap Entry.op?

variable {c c₁ : Cursor} {es es' inner : Journal}

@[simp]
theorem ops_op {o : Cursor.Op} : ops (.op o c :: es) = o :: ops es :=
  rfl

@[simp]
theorem ops_notice {n : Notice} : ops (.notice n :: es) = ops es :=
  rfl

@[simp]
theorem ops_leaf {m n : Nat} : ops (.leaf m n inner :: es) = ops inner ++ ops es :=
  List.filterMap_append

namespace Replays

theorem eq_applyAll (h : Replays c es c₁) : c₁ = c.applyAll (ops es) := by
  induction h
  case nil        => rfl
  case op hi      => exact hi
  case notice hi  => exact hi
  case leaf hi hj => rw [ops_leaf, Cursor.applyAll_append, ← hi, ← hj]

theorem filter_events (h : Replays c es c₁) :
    (events es).filter Event.isUnmatchedClose = c.reports (ops es) := by
  induction h
  case nil => rfl
  case op c _ o _ _ hi =>
    have ho : ∀ e ∈ (Event.ofOp? c o).toList, e.isUnmatchedClose :=
      fun _ => Event.isUnmatchedClose_of_mem_ofOp?
    simpa [Entry.events, Cursor.reports, List.filter_eq_self.mpr ho] using hi
  case notice hi => simpa [Entry.events, Event.isUnmatchedClose] using hi
  case leaf hl _ hi hj =>
    simp [Entry.events, Cursor.reports_append, ← hl.eq_applyAll, hi, hj]

-- The law of the run: each push is closed, or it is still open, or what should have closed it found
-- nothing to close.
theorem opens_add_countP (h : Replays c es c₁) :
    Cursor.Op.opens (ops es) + (events es).countP Event.isUnmatchedClose + c.depth =
      Cursor.Op.closes (ops es) + c₁.depth := by
  rw [List.countP_eq_length_filter, h.filter_events, h.eq_applyAll]
  exact Cursor.opens_add_reports c (ops es)

theorem forall_mem_events (h : Replays c es c₁) :
    ∀ e ∈ events es, e.isUnmatchedClose ∨ ∃ n, e = .notice n := by
  induction h <;> simp only [events_nil, events_cons]
  case nil        => exact List.forall_mem_nil _
  case op hi      =>
    exact List.forall_mem_append.mpr ⟨fun _ h => .inl (Event.isUnmatchedClose_of_mem_ofOp? h), hi⟩
  case notice hi  => exact List.forall_mem_append.mpr ⟨by simp [Entry.events], hi⟩
  case leaf hi hj => exact List.forall_mem_append.mpr ⟨hi, hj⟩

theorem unfolded (h : Replays c es c₁) : Replays c es.unfolded c₁ := by
  induction h
  case nil => exact .nil
  case op hi => exact .op hi
  case notice hi => exact .notice hi
  case leaf hi hj => exact hi.append hj

theorem of_append (h : Replays c (es ++ es') c₁) : ∃ d, Replays c es d ∧ Replays d es' c₁ := by
  induction es generalizing c
  case nil => exact ⟨c, .nil, h⟩
  case cons e es hi =>
    cases h
    case op h =>
      have ⟨d, hd, hd'⟩ := hi h
      exact ⟨d, .op hd, hd'⟩
    case notice h =>
      have ⟨d, hd, hd'⟩ := hi h
      exact ⟨d, .notice hd, hd'⟩
    case leaf hl h =>
      have ⟨d, hd, hd'⟩ := hi h
      exact ⟨d, .leaf hl hd, hd'⟩

end Replays
end Journal
end Backtrack
