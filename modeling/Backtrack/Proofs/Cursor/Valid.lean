import Backtrack.Journal

namespace Backtrack
namespace Cursor

-- A bound on the position alone is not kept: `pop` returns to whatever was saved.
structure Valid (c : Cursor) : Prop where
  ordered : c.saved.Pairwise (· ≥ ·)
  behind  : ∀ p ∈ c.saved, p ≤ c.position
  fits    : c.position + c.window ≤ c.data.length

theorem valid_iff {c : Cursor} :
    c.Valid ↔ c.saved.Pairwise (· ≥ ·) ∧ (∀ p ∈ c.saved, p ≤ c.position) ∧
      c.position + c.window ≤ c.data.length where
  mp  := fun ⟨ordered, behind, fits⟩ => ⟨ordered, behind, fits⟩
  mpr := fun ⟨ordered, behind, fits⟩ => ⟨ordered, behind, fits⟩

instance {c : Cursor} : Decidable c.Valid :=
  decidable_of_iff' _ valid_iff

namespace Valid

variable {c : Cursor}

theorem position_le (h : c.Valid) : c.position ≤ c.data.length :=
  Nat.le_of_add_right_le h.fits

theorem start {data : List UInt8} : (Cursor.start data).Valid where
  ordered := .nil
  behind  := by simp [Cursor.start]
  fits    := by simp [Cursor.start]

theorem push (h : c.Valid) : c.push.Valid where
  ordered := List.pairwise_cons.mpr ⟨h.behind, h.ordered⟩
  behind  := List.forall_mem_cons.mpr ⟨Nat.le_refl _, h.behind⟩
  fits    := h.fits

theorem pop (h : c.Valid) : c.pop.Valid := by
  cases hs : c.saved
  case nil => rwa [pop_of_saved_nil hs]
  case cons p ps =>
    have ⟨hp, ho⟩ := List.pairwise_cons.mp (hs ▸ h.ordered)
    have hb := h.behind p (hs ▸ List.mem_cons_self)
    rw [pop_of_saved_cons hs]
    exact { ordered := ho, behind := hp, fits := Nat.le_trans hb h.position_le }

theorem commit (h : c.Valid) : c.commit.Valid where
  ordered := h.ordered.tail
  behind  := fun p hp => h.behind p (List.mem_of_mem_tail hp)
  fits    := h.fits

theorem request {n : Nat} (h : c.Valid) : (c.request n).Valid := by
  by_cases hn : n ≤ c.remaining
  case neg => simpa [Cursor.request, Nat.lt_of_not_le hn] using h
  case pos =>
    have hp := h.position_le
    rw [request_of_le hn]
    refine { ordered := h.ordered, behind := h.behind, fits := ?_ }
    simp only [remaining] at hn ⊢
    omega

theorem advance (h : c.Valid) : c.advance.Valid where
  ordered := h.ordered
  behind  := fun p hp => Nat.le_trans (h.behind p hp) (Nat.le_add_right ..)
  fits    := h.fits

theorem apply (h : c.Valid) : {o : Op} → (c.apply o).Valid
  | .push      => h.push
  | .pop       => h.pop
  | .commit    => h.commit
  | .request _ => h.request
  | .advance   => h.advance

theorem applyAll (h : c.Valid) {os : List Op} : (c.applyAll os).Valid := by
  induction os generalizing c
  case nil          => exact h
  case cons o os hi => exact hi h.apply

theorem buffer_eq (h : c.Valid) : c.buffer = (c.data.drop c.position).take c.window :=
  buffer_of_le h.fits

theorem length_buffer (h : c.Valid) : c.buffer.length = c.window := by
  have := h.fits
  simp only [h.buffer_eq, List.length_take, List.length_drop]
  omega

theorem position_add_remaining (h : c.Valid) : c.position + c.remaining = c.data.length :=
  Nat.add_sub_of_le h.position_le

end Valid

variable {c : Cursor}

theorem applyAll_preserves_data {os : List Op} : (c.applyAll os).data = c.data := by
  induction os generalizing c
  case nil          => rfl
  case cons o os hi => exact hi.trans apply_preserves_data

end Cursor

mutual

-- The cursors that the operations of an entry were applied to.
def Entry.cursors : Entry → List Cursor
  | .op _ before => [before]
  | .notice _ => []
  | .leaf _ _ inner => Journal.cursors inner

def Journal.cursors : Journal → List Cursor
  | [] => []
  | e :: es => e.cursors ++ Journal.cursors es

end

namespace Journal

theorem cursors_append {es es' : Journal} : cursors (es ++ es') = cursors es ++ cursors es' := by
  induction es
  case nil          => simp [cursors]
  case cons e es hi => simp [cursors, hi]

namespace Replays

variable {c c₁ : Cursor} {es : Journal}

theorem forall_cursors {motive : Cursor → Prop} (step : ∀ {c o}, motive c → motive (c.apply o))
    (h : Replays c es c₁) (hc : motive c) : ∀ d ∈ cursors es, motive d := by
  induction h
  case nil            => simp [cursors]
  case op hi          => simpa [cursors, Entry.cursors, hc] using hi (step hc)
  case notice hi      => simpa [cursors, Entry.cursors] using hi hc
  case leaf h _ hi hj =>
    simp only [cursors, Entry.cursors, List.mem_append]
    rintro d (hd | hd)
    · exact hi hc d hd
    · exact hj (h.preserves step hc) d hd

theorem valid (h : Replays c es c₁) (hc : c.Valid) : c₁.Valid :=
  h.preserves (fun hc => hc.apply) hc

end Replays
end Journal
end Backtrack
