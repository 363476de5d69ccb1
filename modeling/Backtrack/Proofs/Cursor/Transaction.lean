import Backtrack.Proofs.Cursor.Valid
import Backtrack.Proofs.Journal.Count

namespace Backtrack.Cursor

-- The cursor with further transactions open around its own.
def inside (c : Cursor) (ps : List Nat) : Cursor :=
  { c with saved := c.saved ++ ps }

def alone (c : Cursor) : Cursor :=
  { c with saved := [] }

variable {c : Cursor} {os : List Op} {ps : List Nat}

theorem request_inside {n : Nat} : (c.inside ps).request n = (c.request n).inside ps := by
  by_cases hn : c.remaining < n
  case pos =>
    rw [request, request, if_pos hn]
    exact if_pos hn
  case neg =>
    rw [request, request, if_neg hn]
    exact if_neg hn

theorem apply_inside {o : Op} (h : Event.ofOp? c o = none) :
    (c.inside ps).apply o = (c.apply o).inside ps := by
  cases o
  case pop | commit =>
    have hn : c.saved ≠ [] := saved_ne_nil_of_ofOp?_eq_none (by simp) h
    obtain ⟨p, ss, hs⟩ := List.exists_cons_of_ne_nil hn
    simp [apply, pop, commit, inside, hs]
  case request => exact request_inside
  all_goals rfl

-- As long as every close finds what was opened before it, the transactions around are not even
-- read.
theorem applyAll_inside (h : c.reports os = []) :
    (c.inside ps).applyAll os = (c.applyAll os).inside ps := by
  induction os generalizing c
  case nil => rfl
  case cons o os hi =>
    have ⟨ho, hos⟩ := List.append_eq_nil_iff.mp h
    rw [applyAll_cons, applyAll_cons, apply_inside (Option.toList_eq_nil_iff.mp ho), hi hos]

theorem applyAll_of_balanced (h : Op.Balanced os) :
    c.applyAll os = { c.alone.applyAll os with saved := c.saved } := by
  have ⟨hr, hs⟩ := (balanced_iff (c := c.alone) rfl).mp h
  have hi : c.applyAll os = (c.alone.applyAll os).inside c.saved := applyAll_inside hr
  rw [hi, inside, hs, List.nil_append]

theorem saved_of_balanced (h : Op.Balanced os) : (c.applyAll os).saved = c.saved := by
  rw [applyAll_of_balanced h]

theorem applyAll_push_of_balanced (h : Op.Balanced os) :
    c.push.applyAll os = { c.applyAll os with saved := c.position :: c.saved } := by
  rw [applyAll_of_balanced h, applyAll_of_balanced (c := c) h]
  rfl

-- If the close rolls back, then nothing remains of the word, and there is no window. If it commits,
-- then it is as though the transaction had not been opened.
theorem transactions_nest (h : Op.Balanced os) (c : Cursor) :
    c.applyAll (.push :: os ++ [.pop]) = { c with window := 0 } ∧
    c.applyAll (.push :: os ++ [.commit]) = c.applyAll os ∧
    (c.applyAll os).saved = c.saved := by
  have hp : c.applyAll (.push :: os) = { c.applyAll os with saved := c.position :: c.saved } :=
    applyAll_push_of_balanced h
  have hs : (c.applyAll os).saved = c.saved := saved_of_balanced h
  have hd : (c.applyAll os).data = c.data := applyAll_preserves_data
  refine ⟨?pop, ?commit, hs⟩
  all_goals rw [applyAll_append, hp]
  case pop    => exact Cursor.ext hd rfl rfl rfl
  case commit => exact Cursor.ext rfl rfl hs.symm rfl

theorem transactions_nest_of_pair :
    let os : List Op := [.push, .request 2, .advance, .pop, .push, .request 9, .request 1, .advance,
      .commit, .request 1]
    let c : Cursor := { data := [1, 2, 3, 4], position := 1, saved := [0], window := 1 }
    Op.Balanced os ∧
      c.applyAll (.push :: os ++ [.pop]) = { c with window := 0 } ∧
      c.applyAll (.push :: os ++ [.commit]) =
        { data := [1, 2, 3, 4], position := 2, saved := [0], window := 1 } := by
  intro os c
  have hb : Op.Balanced os := by decide +kernel
  have ⟨hp, hc, _⟩ := transactions_nest hb c
  exact ⟨hb, hp, hc.trans (by decide)⟩

end Backtrack.Cursor
