import Backtrack.Journal

namespace Backtrack

structure Reply (α : Type) where
  value : α
  cursor : Cursor
  journal : Journal

-- A run starts from a cursor and either replies or exhausts the limit that it was given. It acts on
-- the cursor through the operations alone: a routine that puts a copy of the cursor back is a
-- `Session` and not a run.
structure Run (α : Type) where
  reply? : Cursor → Option (Reply α)
  replays : ∀ {c r}, reply? c = some r → Journal.Replays c r.journal r.cursor

namespace Run

variable {α β : Type}

@[ext]
theorem ext {x y : Run α} (h : ∀ c, x.reply? c = y.reply? c) : x = y := by
  cases x
  cases y
  simp only [mk.injEq]
  exact funext h

def pure (a : α) : Run α where
  reply? c := some ⟨a, c, []⟩
  replays h := by
    cases h
    exact .nil

def bind (x : Run α) (f : α → Run β) : Run β where
  reply? c :=
    match x.reply? c with
    | none => none
    | some r =>
      match (f r.value).reply? r.cursor with
      | none => none
      | some s => some { s with journal := r.journal ++ s.journal }
  replays h := by
    split at h
    case h_1 => cases h
    case h_2 hx =>
      split at h
      case h_1 => cases h
      case h_2 hf =>
        cases h
        exact (x.replays hx).append ((f _).replays hf)

instance : Monad Run where
  pure := pure
  bind := bind

def exhausted : Run α where
  reply? _ := none
  replays h := by cases h

def act (o : Cursor.Op) : Run Unit where
  reply? c := some ⟨(), c.apply o, [.op o c]⟩
  replays h := by
    cases h
    exact .op .nil

def note (n : Notice) : Run Unit where
  reply? c := some ⟨(), c, [.notice n]⟩
  replays h := by
    cases h
    exact .notice .nil

-- Hands out the cursor to be looked at.
def cursor : Run Cursor where
  reply? c := some ⟨c, c, []⟩
  replays h := by
    cases h
    exact .nil

-- Sets the journal of a run apart as that of a leaf.
def leaf (x : Run α) : Run α where
  reply? c := (x.reply? c).map fun r => { r with journal := [.leaf c.depth r.cursor.depth r.journal] }
  replays h := by
    obtain ⟨r, hr, rfl⟩ := Option.map_eq_some_iff.mp h
    exact .leaf (x.replays hr) .nil

def push : Run Unit :=
  act .push

def pop : Run Unit :=
  act .pop

def commit : Run Unit :=
  act .commit

def advance : Run Unit :=
  act .advance

def position : Run Nat := do
  return (← cursor).position

def buffer : Run (List UInt8) := do
  return (← cursor).buffer

-- The failure of the request, or nothing if the window was validated.
def request (n : Nat) : Run (Option Failure) := do
  let c ← cursor
  act (.request n)
  return c.shortage? n

variable {c : Cursor} {a : α} {x : Run α} {f : α → Run β}

@[simp]
theorem reply?_pure : (Pure.pure a : Run α).reply? c = some ⟨a, c, []⟩ :=
  rfl

@[simp]
theorem reply?_act {o : Cursor.Op} : (act o).reply? c = some ⟨(), c.apply o, [.op o c]⟩ :=
  rfl

@[simp]
theorem reply?_note {n : Notice} : (note n).reply? c = some ⟨(), c, [.notice n]⟩ :=
  rfl

@[simp]
theorem reply?_position : position.reply? c = some ⟨c.position, c, []⟩ :=
  rfl

@[simp]
theorem reply?_buffer : buffer.reply? c = some ⟨c.buffer, c, []⟩ :=
  rfl

@[simp]
theorem reply?_request {n : Nat} :
    (request n).reply? c = some ⟨c.shortage? n, c.request n, [.op (.request n) c]⟩ :=
  rfl

theorem reply?_leaf :
    (leaf x).reply? c = (x.reply? c).map fun r =>
      { r with journal := [.leaf c.depth r.cursor.depth r.journal] } :=
  rfl

theorem reply?_bind :
    (x >>= f).reply? c = (x.reply? c).bind fun r =>
      ((f r.value).reply? r.cursor).map fun s => { s with journal := r.journal ++ s.journal } := by
  show (match x.reply? c with | none => none | some r => _) = _
  cases x.reply? c with
  | none => rfl
  | some r =>
    show (match (f r.value).reply? r.cursor with | none => none | some s => _) = _
    cases h : (f r.value).reply? r.cursor <;> simp [h]

theorem reply?_bind_eq_some_iff {s : Reply β} :
    (x >>= f).reply? c = some s ↔
      ∃ r s', x.reply? c = some r ∧ (f r.value).reply? r.cursor = some s' ∧
        s = { s' with journal := r.journal ++ s'.journal } := by
  simp only [reply?_bind, Option.bind_eq_some_iff, Option.map_eq_some_iff]
  grind

end Run
end Backtrack
