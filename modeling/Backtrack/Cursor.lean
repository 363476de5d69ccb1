import Backtrack.Failure

namespace Backtrack

-- A cursor can save its position to return to it later. Before it steps forward, it has the bytes
-- that it is about to pass validated as a window.
@[ext]
structure Cursor where
  data : List UInt8
  position : Nat
  -- One position for each open transaction, the innermost first.
  saved : List Nat
  window : Nat
  deriving DecidableEq

namespace Cursor

-- A transaction is opened by `push`. It is closed by `pop`, which returns to where it was opened,
-- or by `commit`, which stays.
inductive Op
  | push
  | pop
  | commit
  | request (n : Nat)
  | advance
  deriving DecidableEq

def start (data : List UInt8) : Cursor where
  data := data
  position := 0
  saved := []
  window := 0

variable (c : Cursor)

def depth : Nat :=
  c.saved.length

def remaining : Nat :=
  c.data.length - c.position

def atEnd : Bool :=
  c.remaining == 0

-- A window that does not fit the input would have nothing in it.
def buffer : List UInt8 :=
  if c.position + c.window ≤ c.data.length then (c.data.drop c.position).take c.window else []

def push : Cursor :=
  { c with saved := c.position :: c.saved }

-- Without an open transaction nothing happens.
def pop : Cursor :=
  match c.saved with
  | [] => c
  | p :: ps => { c with position := p, saved := ps, window := 0 }

def commit : Cursor :=
  { c with saved := c.saved.tail }

def shortage? (n : Nat) : Option Failure :=
  if c.remaining < n then some (.insufficient n c.remaining c.position) else none

-- A request that fails leaves the window of an earlier one as it is.
def request (n : Nat) : Cursor :=
  if c.remaining < n then c else { c with window := n }

def advance : Cursor :=
  { c with position := c.position + c.window, window := 0 }

def apply : Op → Cursor
  | .push => c.push
  | .pop => c.pop
  | .commit => c.commit
  | .request n => c.request n
  | .advance => c.advance

def applyAll (c : Cursor) (os : List Op) : Cursor :=
  os.foldl apply c

def form : String :=
  Text.record "ByteCursor" [("data", Text.octets c.data), ("position", toString c.position),
    ("saved", Text.numbers c.saved.reverse), ("window", toString c.window)]

variable {c}

theorem pop_of_saved_nil (h : c.saved = []) : c.pop = c := by
  simp [pop, h]

theorem pop_of_saved_cons {p : Nat} {ps : List Nat} (h : c.saved = p :: ps) :
    c.pop = { c with position := p, saved := ps, window := 0 } := by
  simp [pop, h]

theorem pop_preserves_data : c.pop.data = c.data := by
  unfold pop
  split <;> rfl

theorem request_preserves_data {n : Nat} : (c.request n).data = c.data := by
  unfold request
  split <;> rfl

theorem apply_preserves_data {o : Op} : (c.apply o).data = c.data := by
  cases o
  case pop => exact pop_preserves_data
  case request => exact request_preserves_data
  all_goals rfl

theorem request_preserves_position {n : Nat} : (c.request n).position = c.position := by
  unfold request
  split <;> rfl

theorem request_preserves_saved {n : Nat} : (c.request n).saved = c.saved := by
  unfold request
  split <;> rfl

theorem shortage?_eq_none_iff {n : Nat} : c.shortage? n = none ↔ n ≤ c.remaining := by
  simp [shortage?]

theorem request_of_le {n : Nat} (h : n ≤ c.remaining) : c.request n = { c with window := n } := by
  simp [request, Nat.not_lt.mpr h]

theorem buffer_of_le (h : c.position + c.window ≤ c.data.length) :
    c.buffer = (c.data.drop c.position).take c.window :=
  if_pos h

theorem buffer_of_window_eq_zero (h : c.window = 0) : c.buffer = [] := by
  rw [buffer, h, List.take_zero, ite_self]

theorem advance_of_window_eq_zero (h : c.window = 0) : c.advance = c :=
  Cursor.ext rfl (by simp [advance, h]) rfl h.symm

end Cursor
end Backtrack
