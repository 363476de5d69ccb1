import Backtrack.Cursor
import Backtrack.Event

namespace Backtrack

-- What a run enters into its journal, in order.
inductive Entry
  | op (o : Cursor.Op) (before : Cursor)
  | notice (n : Notice)
  -- A parser that is no combinator was called: the depth before and after, and what it has done.
  | leaf (entryDepth exitDepth : Nat) (inner : List Entry)

abbrev Journal :=
  List Entry

-- A close without an open transaction does not change the cursor, but it is reported.
def Event.ofOp? (c : Cursor) : Cursor.Op → Option Event
  | .pop => if c.saved = [] then some (.unmatchedPop c.position) else none
  | .commit => if c.saved = [] then some (.unmatchedCommit c.position) else none
  | _ => none

mutual

def Entry.events : Entry → List Event
  | .op o before => (Event.ofOp? before o).toList
  | .notice n => [.notice n]
  | .leaf _ _ inner => Journal.events inner

def Journal.events : Journal → List Event
  | [] => []
  | e :: es => e.events ++ Journal.events es

end

namespace Journal

@[simp]
theorem events_nil : events [] = [] := by
  rw [events]

@[simp]
theorem events_cons {e : Entry} {es : Journal} : events (e :: es) = e.events ++ events es := by
  rw [events]

@[simp]
theorem events_append {es es' : Journal} : events (es ++ es') = events es ++ events es' := by
  induction es with
  | nil => simp
  | cons e es ih => simp [ih]

-- The journal accounts for the way from one cursor to another: nothing but the operations that it
-- lists has changed the cursor.
inductive Replays : Cursor → Journal → Cursor → Prop
  | nil {c : Cursor} : Replays c [] c
  | op {c c' : Cursor} {o : Cursor.Op} {es : Journal} :
    Replays (c.apply o) es c' → Replays c (.op o c :: es) c'
  | notice {c c' : Cursor} {n : Notice} {es : Journal} :
    Replays c es c' → Replays c (.notice n :: es) c'
  | leaf {c c₁ c' : Cursor} {inner es : Journal} :
    Replays c inner c₁ → Replays c₁ es c' → Replays c (.leaf c.depth c₁.depth inner :: es) c'

namespace Replays

variable {c c₁ c₂ : Cursor} {es es' : Journal}

theorem append (h : Replays c es c₁) (h' : Replays c₁ es' c₂) : Replays c (es ++ es') c₂ := by
  induction h with
  | nil => exact h'
  | op _ ih => exact .op (ih h')
  | notice _ ih => exact .notice (ih h')
  | leaf hi _ _ ih => exact .leaf hi (ih h')

-- What every operation keeps, a run keeps.
theorem preserves {motive : Cursor → Prop} (step : ∀ {c o}, motive c → motive (c.apply o))
    (h : Replays c es c₁) (hc : motive c) : motive c₁ := by
  induction h with
  | nil => exact hc
  | op _ ih => exact ih (step hc)
  | notice _ ih => exact ih hc
  | leaf _ _ ihi ih => exact ih (ihi hc)

theorem data_eq (h : Replays c es c₁) : c₁.data = c.data :=
  h.preserves (motive := fun d => d.data = c.data)
    (fun hd => Cursor.apply_preserves_data.trans hd) rfl

end Replays
end Journal
end Backtrack
