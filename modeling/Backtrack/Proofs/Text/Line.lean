import Backtrack.Text.Basic

namespace Backtrack.Text

def OneLine (s : String) : Prop :=
  '\n' ∉ s.toList

instance {s : String} : Decidable (OneLine s) :=
  inferInstanceAs (Decidable ('\n' ∉ s.toList))

theorem exists_digitChar_of_mem_toDigits {b n : Nat} {c : Char} (hb : 1 < b)
    (h : c ∈ Nat.toDigits b n) : ∃ d, c = Nat.digitChar d := by
  induction n using Nat.strongRecOn
  case ind n hi =>
    rw [Nat.toDigits_eq_if hb] at h
    split at h
    case isTrue => exact ⟨n, List.mem_singleton.mp h⟩
    case isFalse hn =>
      cases List.mem_append.mp h
      case inl h => exact hi (n / b) (Nat.div_lt_self (by omega) hb) h
      case inr h => exact ⟨n % b, List.mem_singleton.mp h⟩

theorem toNat_ofNat_toNat {b : UInt8} : (Char.ofNat b.toNat).toNat = b.toNat := by
  have hb : b.toNat.isValidChar := .inl (Nat.lt_trans b.toNat_lt (by decide))
  rw [Char.ofNat, dif_pos hb]
  rfl

theorem ofNat_toNat_inj {b c : UInt8} : Char.ofNat b.toNat = Char.ofNat c.toNat ↔ b = c where
  mp h := by
    have hn := congrArg Char.toNat h
    rw [toNat_ofNat_toNat, toNat_ofNat_toNat] at hn
    exact UInt8.toNat_inj.mp hn
  mpr h := by rw [h]

namespace OneLine

variable {s t : String} {ss : List String}

@[simp]
theorem append_iff : OneLine (s ++ t) ↔ OneLine s ∧ OneLine t := by
  simp [OneLine]

theorem join (h : ∀ s ∈ ss, OneLine s) : OneLine (String.join ss) := by
  rw [OneLine, String.toList_join, List.mem_flatMap]
  exact fun ⟨s, hs, hc⟩ => h s hs hc

theorem intercalate (hs : OneLine s) (h : ∀ t ∈ ss, OneLine t) : OneLine (s.intercalate ss) := by
  induction ss
  case nil => simp [OneLine]
  case cons t ts hi =>
    have ⟨ht, hts⟩ := List.forall_mem_cons.mp h
    cases ts
    case nil => rwa [String.intercalate_singleton]
    case cons =>
      rw [String.intercalate_cons_cons, append_iff, append_iff]
      exact ⟨⟨ht, hs⟩, hi hts⟩

theorem ofList_toDigits {b n : Nat} (hb : 1 < b) : OneLine (String.ofList (Nat.toDigits b n)) := by
  rw [OneLine, String.toList_ofList]
  intro h
  obtain ⟨d, hd⟩ := exists_digitChar_of_mem_toDigits hb h
  exact Nat.digitChar_ne '\n' (by decide) hd.symm

@[simp]
theorem repr {n : Nat} : OneLine n.repr := by
  rw [Nat.repr_eq_ofList_toDigits]
  exact ofList_toDigits (by decide)

@[simp]
theorem hexByte {b : UInt8} : OneLine (hexByte b) := by
  rw [OneLine, Text.hexByte, String.toList_ofList]
  simp only [List.mem_cons, List.not_mem_nil, or_false, not_or]
  exact ⟨(Nat.digitChar_ne _ (by decide)).symm, (Nat.digitChar_ne _ (by decide)).symm⟩

theorem singleton {c : Char} (h : c ≠ '\n') : OneLine (String.singleton c) := by
  rw [OneLine, String.toList_singleton, List.mem_singleton]
  exact h.symm

@[simp]
theorem escapeByte {b : UInt8} : OneLine (escapeByte b) := by
  unfold Text.escapeByte
  iterate 6 (split; case isTrue => decide)
  split
  case isTrue =>
    have hb : ¬b = 10 := ‹_›
    exact singleton fun hc => hb (ofNat_toNat_inj.mp hc)
  case isFalse => simp +decide

@[simp]
theorem quoteByte {b : UInt8} : OneLine (quoteByte b) := by
  simp +decide [Text.quoteByte]

@[simp]
theorem quoteEach {bs : List UInt8} : OneLine (quoteEach bs) :=
  intercalate (by decide) (List.forall_mem_map.mpr fun _ _ => quoteByte)

@[simp]
theorem quoteBytes {bs : List UInt8} : OneLine (quoteBytes bs) := by
  have h : OneLine (String.join (bs.map Text.escapeByte)) :=
    join (List.forall_mem_map.mpr fun _ _ => escapeByte)
  simp +decide [Text.quoteBytes, h]

@[simp]
theorem hexCode {c : Char} : OneLine (hexCode c) :=
  ofList_toDigits (by decide)

@[simp]
theorem escapeChar {c : Char} : OneLine (escapeChar c) := by
  unfold Text.escapeChar
  iterate 6 (split; case isTrue => decide)
  split
  case isTrue  => simp +decide
  case isFalse => exact singleton ‹¬c = '\n'›

@[simp]
theorem quote : OneLine (quote s) := by
  have h : OneLine (String.join (s.toList.map Text.escapeChar)) :=
    join (List.forall_mem_map.mpr fun _ _ => escapeChar)
  simp +decide [Text.quote, h]

theorem applied (hs : OneLine s) (h : ∀ t ∈ ss, OneLine t) : OneLine (applied s ss) := by
  have hi : OneLine (String.intercalate ", " ss) := intercalate (by decide) h
  simp +decide [Text.applied, hs, hi]

end OneLine
end Backtrack.Text
