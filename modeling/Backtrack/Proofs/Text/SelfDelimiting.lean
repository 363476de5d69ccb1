import Mathlib.Logic.Function.Defs
import Backtrack.Proofs.Text.Line

namespace Backtrack.Text

-- What is written for one thing never goes on as what is written for another.
def SelfDelimiting {α : Type} (f : α → String) : Prop :=
  ∀ ⦃a b : α⦄ ⦃s t : String⦄, f a ++ s = f b ++ t → a = b

def row {α : Type} (f : α → String) (mark : String) (as : List α) : String :=
  String.join (as.map f) ++ mark

variable {α : Type} {f : α → String} {mark : String} {a b : α} {as : List α} {s t : String}

theorem row_nil : row f mark [] = mark := by
  rw [row, List.map_nil, String.join_nil, String.empty_append]

theorem row_cons : row f mark (a :: as) = f a ++ row f mark as := by
  rw [row, List.map_cons, String.join_cons, String.append_assoc, row]

theorem intercalate_cons_append {sep : String} :
    sep.intercalate (s :: as.map f) ++ mark = s ++ row (fun a => sep ++ f a) mark as := by
  induction as generalizing s
  case nil => rw [List.map_nil, String.intercalate_singleton, row_nil]
  case cons a as hi =>
    rw [List.map_cons, String.intercalate_cons_cons, String.append_assoc, hi, row_cons,
      String.append_assoc, String.append_assoc]

namespace SelfDelimiting

theorem injective (h : SelfDelimiting f) : Function.Injective f :=
  fun _ _ he => h (congrArg (· ++ "") he)

theorem append_eq_append_iff (h : SelfDelimiting f) : f a ++ s = f b ++ t ↔ a = b ∧ s = t where
  mp he := by
    obtain rfl := h he
    exact ⟨rfl, (String.append_right_inj _).mp he⟩
  mpr := by
    rintro ⟨rfl, rfl⟩
    rfl

theorem of_read {read? : List Char → Option α}
    (h : ∀ a cs, read? ((f a).toList ++ cs) = some a) : SelfDelimiting f := by
  intro a b s t he
  have hl : (f a).toList ++ s.toList = (f b).toList ++ t.toList := by
    simpa using congrArg String.toList he
  exact Option.some.inj ((h a s.toList).symm.trans (hl ▸ h b t.toList))

theorem comp (h : SelfDelimiting f) {β : Type} {g : β → α} (hg : Function.Injective g) :
    SelfDelimiting (f ∘ g) :=
  fun _ _ _ _ he => hg (h he)

theorem after (h : SelfDelimiting f) (l : String) : SelfDelimiting fun a => l ++ f a := by
  intro a b s t he
  simp only [String.append_assoc, String.append_right_inj] at he
  exact h he

theorem before (h : SelfDelimiting f) (r : String) : SelfDelimiting fun a => f a ++ r := by
  intro a b s t he
  simp only [String.append_assoc] at he
  exact h he

theorem enclosed_inj_iff (h : SelfDelimiting f) {l r : String} :
    l ++ f a ++ r = l ++ f b ++ r ↔ a = b :=
  ((h.after l).before r).injective.eq_iff

theorem row (h : SelfDelimiting f) (hm : ∀ {a s t}, f a ++ s ≠ mark ++ t) :
    SelfDelimiting (row f mark) := by
  intro as bs s t he
  induction as generalizing bs
  case nil =>
    cases bs
    case nil  => rfl
    case cons =>
      rw [row_nil, row_cons, String.append_assoc] at he
      exact absurd he.symm hm
  case cons hi =>
    cases bs
    case nil =>
      rw [row_nil, row_cons, String.append_assoc] at he
      exact absurd he hm
    case cons =>
      rw [row_cons, row_cons, String.append_assoc, String.append_assoc] at he
      have ⟨ha, has⟩ := h.append_eq_append_iff.mp he
      rw [ha, hi has]

-- The same with a separator. From the second text on, it is a part of what is written for each.
theorem intercalate {sep : String} (h : SelfDelimiting f) (hm : ∀ {a s t}, f a ++ s ≠ mark ++ t)
    (hs : ∀ {s t}, sep ++ s ≠ mark ++ t) :
    SelfDelimiting fun as : List α => sep.intercalate (as.map f) ++ mark := by
  have hr : SelfDelimiting (Text.row (fun a => sep ++ f a) mark) :=
    (h.after sep).row fun he => hs (String.append_assoc .. ▸ he)
  intro as bs s t he
  cases as <;> cases bs <;>
    simp only [List.map_nil, List.map_cons, String.intercalate_nil, String.empty_append,
      intercalate_cons_append, String.append_assoc] at he
  case nil.nil   => rfl
  case nil.cons  => exact absurd he.symm hm
  case cons.nil  => exact absurd he hm
  case cons.cons =>
    have ⟨ha, has⟩ := h.append_eq_append_iff.mp he
    rw [ha, hr has]

end SelfDelimiting
end Backtrack.Text
