import Backtrack.Matcher
import Backtrack.Proofs.Text.Escape

namespace Backtrack.Matcher

open Text

variable {m : Matcher}

theorem name?_eq_none_iff : m.name? = none ↔ m = .byte := by
  cases m <;> simp [name?]

-- The kind of a matcher, by the fifth character of its name.
def kind? : Matcher → Option Char
  | byte => none
  | oneOf _ => '('
  | byteRange _ _ => 'R'
  | bytes _ => 's'
  | string _ => 'n'

theorem name?_bind_getElem? : (m.name?.bind fun s => s.toList[4]?) = m.kind? := by
  cases m <;> simp [name?, kind?]

theorem name?_oneOf_inj {vs vs' : List UInt8} :
    (oneOf vs).name? = (oneOf vs').name? ↔ vs = vs' := by
  simp only [name?, Option.some.injEq, String.append_assoc, String.append_right_inj]
  exact selfDelimiting_quoteEach.injective.eq_iff

theorem name?_byteRange_inj {lo lo' hi hi' : UInt8} :
    (byteRange lo hi).name? = (byteRange lo' hi').name? ↔ lo = lo' ∧ hi = hi' := by
  simp only [name?, Option.some.injEq, String.append_assoc, String.append_right_inj,
    selfDelimiting_quoteByte.append_eq_append_iff, and_true]

theorem name?_bytes_inj {bs bs' : List UInt8} :
    (bytes bs).name? = (bytes bs').name? ↔ bs = bs' :=
  Option.some_inj.trans selfDelimiting_quoteBytes.enclosed_inj_iff

theorem name?_string_inj {s s' : String} : (string s).name? = (string s').name? ↔ s = s' :=
  Option.some_inj.trans selfDelimiting_quote.enclosed_inj_iff

-- Matchers have the same name if and only if they are of the same kind and look for the same, in
-- the same order. Only the matcher of any byte has no name.
theorem names_tell_matchers_apart :
    (∀ m : Matcher, m.name? = none ↔ m = .byte) ∧
    ∀ m m' : Matcher, m.name? = m'.name? ↔ m = m' := by
  refine ⟨fun m => name?_eq_none_iff, fun m m' => ⟨fun h => ?_, congrArg name?⟩⟩
  have hk : m.kind? = m'.kind? := by
    rw [← name?_bind_getElem?, h, name?_bind_getElem?]
  cases m <;> cases m' <;> simp only [kind?, Option.some.injEq, reduceCtorEq, Char.reduceEq] at hk
  case byte.byte           => rfl
  case oneOf.oneOf         => rw [name?_oneOf_inj.mp h]
  case bytes.bytes         => rw [name?_bytes_inj.mp h]
  case string.string       => rw [name?_string_inj.mp h]
  case byteRange.byteRange =>
    have ⟨hl, hh⟩ := name?_byteRange_inj.mp h
    rw [hl, hh]

-- What delimits the quotations of a name may itself be quoted.
example : (oneOf [39, 44, 32, 39]).name? = some "Byte('\\'', ',', ' ', '\\'')" := by
  decide

end Backtrack.Matcher
