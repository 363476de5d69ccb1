import Backtrack.Proofs.Cursor.Valid
import Backtrack.Proofs.Journal.Count

namespace Backtrack.Cursor

-- The operations after which the window is no longer what it was.
def Voids (c : Cursor) : Op → Prop
  | .request n => c.shortage? n = none
  | .advance => True
  | .pop => c.saved ≠ []
  | .push | .commit => False

instance {c : Cursor} {o : Op} : Decidable (c.Voids o) :=
  match o with
  | .request n => inferInstanceAs (Decidable (c.shortage? n = none))
  | .advance => .isTrue trivial
  | .pop => inferInstanceAs (Decidable (c.saved ≠ []))
  | .push | .commit => .isFalse id

-- The request for `n` bytes that was made after `ps` has succeeded, and nothing of what has been
-- done since then, which is `qs`, has put an end to its window.
structure Stands (c : Cursor) (ps : List Op) (n : Nat) (qs : List Op) : Prop where
  granted : (c.applyAll ps).shortage? n = none
  unspent : ∀ rs o, rs ++ [o] <+: qs → ¬(c.applyAll (ps ++ .request n :: rs)).Voids o

variable {c : Cursor} {os ps qs : List Op} {n : Nat} {o : Op}

theorem apply_of_not_voids (h : ¬c.Voids o) :
    (c.apply o).position = c.position ∧ (c.apply o).window = c.window := by
  cases o
  case push | commit => exact ⟨rfl, rfl⟩
  case pop =>
    have hs : c.saved = [] := not_not.mp h
    rw [apply, pop_of_saved_nil hs]
    exact ⟨rfl, rfl⟩
  case request n =>
    have hn : c.remaining < n := by simpa [Voids, shortage?] using h
    rw [apply, request, if_pos hn]
    exact ⟨rfl, rfl⟩
  case advance => exact absurd trivial h

theorem window_apply_of_voids (h : c.Voids o) :
    (c.apply o).window = 0 ∨ ∃ n, o = .request n ∧ c.shortage? n = none := by
  cases o
  case push | commit => cases h
  case pop =>
    obtain ⟨p, ps, hs⟩ := List.exists_cons_of_ne_nil h
    exact .inl (congrArg window (pop_of_saved_cons hs))
  case request n => exact .inr ⟨n, rfl, h⟩
  case advance   => exact .inl rfl

theorem stands_nil : c.Stands ps n [] ↔ (c.applyAll ps).shortage? n = none where
  mp h  := h.granted
  mpr h := { granted := h, unspent := by simp }

theorem stands_append_singleton :
    c.Stands ps n (qs ++ [o]) ↔
      c.Stands ps n qs ∧ ¬(c.applyAll (ps ++ .request n :: qs)).Voids o where
  mp h := by
    refine ⟨⟨h.granted, fun rs o' hp => h.unspent rs o' ?_⟩, h.unspent qs o List.prefix_rfl⟩
    exact hp.trans (List.prefix_append ..)
  mpr := by
    rintro ⟨h, ho⟩
    refine ⟨h.granted, fun rs o' hp => ?_⟩
    cases List.prefix_concat_iff.mp hp
    case inl he =>
      obtain ⟨rfl, rfl⟩ := List.append_singleton_inj.mp he
      exact ho
    case inr hp => exact h.unspent rs o' hp

namespace Stands

theorem position_window_eq (h : c.Stands ps n qs) :
    (c.applyAll (ps ++ .request n :: qs)).position = (c.applyAll ps).position ∧
      (c.applyAll (ps ++ .request n :: qs)).window = n := by
  induction qs using List.reverseRecOn
  case nil =>
    have hr : (c.applyAll ps).request n = { c.applyAll ps with window := n } :=
      request_of_le (shortage?_eq_none_iff.mp h.granted)
    rw [applyAll_append, applyAll_cons, apply, hr]
    exact ⟨rfl, rfl⟩
  case append_singleton qs o hi =>
    obtain ⟨hqs, ho⟩ := stands_append_singleton.mp h
    obtain ⟨hp, hw⟩ := hi hqs
    obtain ⟨hpo, hwo⟩ := apply_of_not_voids ho
    rw [← List.cons_append, ← List.append_assoc, applyAll_append]
    exact ⟨hpo.trans hp, hwo.trans hw⟩

theorem advance_not_mem (h : c.Stands ps n qs) : .advance ∉ qs := by
  intro ha
  obtain ⟨rs, ts, rfl⟩ := List.append_of_mem ha
  exact h.unspent rs .advance ⟨ts, List.append_assoc ..⟩ trivial

theorem saved_eq_nil_of_pop {rs : List Op} (h : c.Stands ps n qs) (hp : rs ++ [.pop] <+: qs) :
    (c.applyAll (ps ++ .request n :: rs)).saved = [] :=
  not_not.mp (h.unspent rs .pop hp)

end Stands

theorem exists_stands (hc : c.window = 0) (h : (c.applyAll os).window ≠ 0) :
    ∃ ps n qs, os = ps ++ .request n :: qs ∧ c.Stands ps n qs := by
  induction os using List.reverseRecOn
  case nil => exact absurd hc h
  case append_singleton os o hi =>
    rw [applyAll_append] at h
    by_cases hv : (c.applyAll os).Voids o
    case pos =>
      obtain hw | ⟨n, rfl, hn⟩ := window_apply_of_voids hv
      case inl => exact absurd hw h
      case inr => exact ⟨os, n, [], rfl, stands_nil.mpr hn⟩
    case neg =>
      obtain ⟨ps, n, qs, rfl, hs⟩ := hi ((apply_of_not_voids hv).right ▸ h)
      exact ⟨ps, n, qs ++ [o], by simp, stands_append_singleton.mpr ⟨hs, hv⟩⟩

-- A request that stands has fixed the position and what is in the buffer. Without one the buffer is
-- empty and an advance does not move. An advance that moves is the first one since the request
-- whose window it takes.
theorem window_is_of_standing_request (data : List UInt8) (os : List Op) :
    let c := start data
    let d := c.applyAll os
    (∀ ps n qs, os = ps ++ .request n :: qs → c.Stands ps n qs →
      d.position = (c.applyAll ps).position ∧ d.position + n ≤ data.length ∧
        d.buffer = (data.drop d.position).take n) ∧
    ((∀ ps n qs, os = ps ++ .request n :: qs → ¬c.Stands ps n qs) →
      d.buffer = [] ∧ d.advance = d) ∧
    (d.advance.position ≠ d.position →
      ∃ ps n qs, os = ps ++ .request n :: qs ∧ c.Stands ps n qs ∧
        d.advance.position = (c.applyAll ps).position + n ∧ .advance ∉ qs ∧
        ∀ rs, rs ++ [.pop] <+: qs → (c.applyAll (ps ++ .request n :: rs)).saved = []) := by
  intro c d
  have hd : d.data = data := applyAll_preserves_data
  refine ⟨?stands, ?none, ?moves⟩
  case stands =>
    rintro ps n qs rfl hs
    obtain ⟨hp, hw⟩ := hs.position_window_eq
    have hf : d.position + d.window ≤ d.data.length := Valid.start.applyAll.fits
    exact ⟨hp, hd ▸ hw ▸ hf, by rw [buffer_of_le hf, hd, hw]⟩
  case none =>
    intro hn
    have hw : d.window = 0 := by
      by_contra hw
      obtain ⟨ps, n, qs, ho, hs⟩ := exists_stands rfl hw
      exact hn ps n qs ho hs
    exact ⟨buffer_of_window_eq_zero hw, advance_of_window_eq_zero hw⟩
  case moves =>
    intro hm
    have hw : d.window ≠ 0 := fun hw => hm (congrArg position (advance_of_window_eq_zero hw))
    obtain ⟨ps, n, qs, rfl, hs⟩ := exists_stands rfl hw
    obtain ⟨hp, hn⟩ := hs.position_window_eq
    refine ⟨ps, n, qs, rfl, hs, ?_, hs.advance_not_mem, fun rs => hs.saved_eq_nil_of_pop⟩
    exact congrArg₂ (· + ·) hp hn

theorem window_is_of_standing_request_of_detour :
    let c := start [1, 2, 3]
    let qs : List Op := [.push, .request 9, .commit, .pop]
    let d := c.applyAll (.request 2 :: qs)
    let e := c.applyAll [.push, .request 2, .pop]
    c.Stands [] 2 qs ∧ d.position = 0 ∧ d.buffer = [1, 2] ∧
      (∃ ps n qs', .request 2 :: qs = ps ++ .request n :: qs' ∧
        d.advance.position = (c.applyAll ps).position + n) ∧
      e.buffer = [] ∧ e.advance = e := by
  intro c qs d e
  have hs : c.Stands [] 2 ([] ++ [.push] ++ [.request 9] ++ [.commit] ++ [.pop]) := by
    iterate 4 refine stands_append_singleton.mpr ⟨?_, by decide⟩
    exact stands_nil.mpr rfl
  have hn : ∀ ps n qs, [.push, .request 2, .pop] = ps ++ .request n :: qs → ¬c.Stands ps n qs := by
    intro ps n qs h hs
    obtain ⟨rfl, rfl, rfl⟩ : ps = [.push] ∧ n = 2 ∧ qs = [.pop] := by
      simpa [List.append_eq_cons_iff, List.cons_eq_append_iff] using h.symm
    have hp : [] ++ [.pop] <+: [Op.pop] := List.prefix_rfl
    exact absurd (hs.saved_eq_nil_of_pop hp) (by decide)
  have ⟨hd, _, hm⟩ := window_is_of_standing_request [1, 2, 3] (.request 2 :: qs)
  have ⟨hp, _, hb⟩ := hd [] 2 qs rfl hs
  have ⟨ps, n, qs', ho, _, ha, _⟩ := hm (by decide)
  have ⟨_, he, _⟩ := window_is_of_standing_request [1, 2, 3] [.push, .request 2, .pop]
  exact ⟨hs, hp, hb, ⟨ps, n, qs', ho, ha⟩, he hn⟩

end Backtrack.Cursor
