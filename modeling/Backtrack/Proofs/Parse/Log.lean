import Backtrack.Parse
import Backtrack.Proofs.Journal.Count

namespace Backtrack

theorem Parser.parse?_eq_some_iff {p : Parser} {o : Parse.Options} {data : List UInt8}
    {s : Parse.Result} :
    p.parse? o data = some s ↔
      ∃ r, (p .empty).reply? (.start data) = some r ∧ s = Parse.finish o r := by
  simp only [Parser.parse?, Option.map_eq_some_iff, @eq_comm _ s]

theorem Event.level_of_isUnmatchedClose {e : Event} (h : e.isUnmatchedClose) :
    e.level = .error := by
  cases e
  case unmatchedPop | unmatchedCommit => rfl
  all_goals cases h

namespace Parse

variable {o : Options} {c : Cursor} {a : Answer} {r : Reply Answer}

theorem events_finish :
    (finish o r).events = .started r.cursor.data.length :: (Journal.events r.journal ++
      (balance r.cursor ++ [(conclude o r.cursor r.value).2])) :=
  rfl

theorem conclude_eq :
    (∃ n q, conclude o c a = (.ok n, .succeeded q)) ∨
      ∃ e, conclude o c a = (.error e, .failed e.position) ∨
        conclude o c a = (.error e, .incomplete e) := by
  cases a
  case failed e _ => exact .inr ⟨e, .inl rfl⟩
  case matched n =>
    rw [conclude]
    split
    · exact .inr ⟨_, .inr rfl⟩
    · exact .inl ⟨n, _, rfl⟩

theorem mem_balance_iff {e : Event} : e ∈ balance c ↔ c.saved ≠ [] ∧ e = .leftOpen c.depth := by
  unfold balance
  split <;> simp_all

theorem conclude_level : (conclude o c a).2.level = .debug := by
  cases a
  case failed  => rfl
  case matched =>
    rw [conclude]
    split <;> rfl

theorem conclude_ne_leftOpen {n : Nat} : (conclude o c a).2 ≠ .leftOpen n := by
  intro h
  have hl := conclude_level (o := o) (c := c) (a := a)
  rw [h] at hl
  cases hl

theorem leftOpen_mem_events_iff {n : Nat} (h : Journal.Replays c r.journal r.cursor) :
    .leftOpen n ∈ (finish o r).events ↔ r.cursor.saved ≠ [] ∧ n = r.cursor.depth := by
  have hj : .leftOpen n ∉ Journal.events r.journal := fun he => by
    cases h.forall_mem_events _ he
    case inl hu => cases hu
    case inr hn => cases hn.choose_spec
  have hc : .leftOpen n ≠ (conclude o r.cursor r.value).2 := conclude_ne_leftOpen.symm
  simp [events_finish, hj, hc, mem_balance_iff]

-- Errors are closes that found nothing to close, and transactions that are left open.
theorem exists_error_iff (h : Journal.Replays c r.journal r.cursor) :
    (∃ e ∈ (finish o r).events, e.level = .error) ↔
      (∃ e ∈ Journal.events r.journal, e.isUnmatchedClose) ∨ r.cursor.saved ≠ [] := by
  constructor
  case mp =>
    rintro ⟨e, he, hl⟩
    simp only [events_finish, List.mem_cons, List.mem_append, List.not_mem_nil, or_false,
      mem_balance_iff] at he
    rcases he with rfl | hj | ⟨hs, _⟩ | rfl
    · cases hl
    · refine .inl ⟨e, hj, (h.forall_mem_events e hj).resolve_right ?_⟩
      rintro ⟨n, rfl⟩
      cases hl
    · exact .inr hs
    · rw [conclude_level] at hl
      cases hl
  case mpr =>
    rintro (⟨e, he, hu⟩ | hs)
    · exact ⟨e, by simp [events_finish, he], e.level_of_isUnmatchedClose hu⟩
    · exact ⟨.leftOpen r.cursor.depth, by simp [events_finish, mem_balance_iff, hs], rfl⟩

end Parse
end Backtrack
