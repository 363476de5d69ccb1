import Backtrack.Proofs.Text.SelfDelimiting

namespace Backtrack.Text

def hexValue (c : Char) : Nat :=
  if c.isDigit then c.toNat - 48 else c.toNat - 87

def hexNumber (ds : List Char) : Nat :=
  ds.foldl (fun n d => 16 * n + hexValue d) 0

theorem hexValue_digitChar : ∀ {n}, n < 16 → hexValue (Nat.digitChar n) = n := by
  decide

theorem hexNumber_append_singleton {ds : List Char} {d : Char} :
    hexNumber (ds ++ [d]) = 16 * hexNumber ds + hexValue d := by
  rw [hexNumber, List.foldl_append]
  rfl

theorem hexNumber_toDigits {n : Nat} : hexNumber (Nat.toDigits 16 n) = n := by
  induction n using Nat.strongRecOn
  case ind n hi =>
    rw [Nat.toDigits_eq_if (by decide)]
    split
    case isTrue hn => exact (Nat.zero_add _).trans (hexValue_digitChar hn)
    case isFalse hn =>
      rw [hexNumber_append_singleton, hi (n / 16) (by omega),
        hexValue_digitChar (Nat.mod_lt _ (by decide))]
      exact Nat.div_add_mod n 16

-- What a text begins with that is quoted in double quotes: something that stands for itself, or a
-- backslash, a letter and whatever belongs to that letter. A quote is the end.
def read? {α : Type} (plain : Char → α) (escaped : Char → List Char → α) : List Char → Option α
  | '\\' :: c :: cs => some (escaped c cs)
  | c :: _ => if c = '"' then none else some (plain c)
  | [] => none

def readByte? : List Char → Option UInt8 :=
  read? (fun c => .ofNat c.toNat) fun c cs =>
    if c = 't' then 9
    else if c = 'n' then 10
    else if c = 'r' then 13
    else if c = 'x' then .ofNat (hexNumber (cs.take 2))
    else .ofNat c.toNat

def readChar? : List Char → Option Char :=
  read? id fun c cs =>
    if c = '0' then '\x00'
    else if c = 't' then '\t'
    else if c = 'n' then '\n'
    else if c = 'r' then '\r'
    else if c = 'u' then .ofNat (hexNumber (cs.tail.takeWhile (· ≠ '\x7d')))
    else c

variable {α : Type} {plain : Char → α} {escaped : Char → List Char → α} {c : Char} {cs : List Char}

theorem read?_plain (hb : c ≠ '\\') (hq : c ≠ '"') :
    read? plain escaped (c :: cs) = some (plain c) := by
  simp [read?, hb, hq]

theorem readByte?_hexByte {b : UInt8} :
    readByte? (("\\x" ++ hexByte b).toList ++ cs) = some b := by
  have hb := b.toNat_lt
  have hl : ("\\x" ++ hexByte b).toList ++ cs =
      '\\' :: 'x' :: Nat.digitChar (b.toNat / 16) :: Nat.digitChar (b.toNat % 16) :: cs := by
    simp [hexByte]
  have hn : hexNumber [Nat.digitChar (b.toNat / 16), Nat.digitChar (b.toNat % 16)] = b.toNat := by
    simp only [hexNumber, List.foldl_cons, List.foldl_nil]
    rw [hexValue_digitChar (by omega), hexValue_digitChar (by omega)]
    omega
  rw [hl, readByte?, read?]
  simp [hn]

theorem readByte?_escapeByte (b : UInt8) (cs : List Char) :
    readByte? ((escapeByte b).toList ++ cs) = some b := by
  unfold escapeByte
  iterate 6 (split; case isTrue h => subst h; rfl)
  split
  case isTrue =>
    have hb : Char.ofNat b.toNat ≠ '\\' := fun h => ‹b ≠ 92› (ofNat_toNat_inj.mp h)
    have hq : Char.ofNat b.toNat ≠ '"' := fun h => ‹b ≠ 34› (ofNat_toNat_inj.mp h)
    rw [String.toList_singleton]
    refine (read?_plain hb hq).trans ?_
    rw [toNat_ofNat_toNat, UInt8.ofNat_toNat]
  case isFalse => exact readByte?_hexByte

theorem takeWhile_toDigits_append {n : Nat} :
    (Nat.toDigits 16 n ++ '\x7d' :: cs).takeWhile (· ≠ '\x7d') = Nat.toDigits 16 n := by
  have hd : ∀ d ∈ Nat.toDigits 16 n, decide (d ≠ '\x7d') = true := by
    intro d hd
    obtain ⟨k, rfl⟩ := exists_digitChar_of_mem_toDigits (by decide) hd
    exact decide_eq_true (Nat.digitChar_ne _ (by decide))
  rw [List.takeWhile_append_of_pos hd, List.takeWhile_cons_of_neg (by simp), List.append_nil]

theorem readChar?_hexCode {c : Char} :
    readChar? (("\\u\x7b" ++ hexCode c ++ "\x7d").toList ++ cs) = some c := by
  let ds := Nat.toDigits 16 c.toNat ++ '\x7d' :: cs
  have hl : ("\\u\x7b" ++ hexCode c ++ "\x7d").toList ++ cs = '\\' :: 'u' :: '\x7b' :: ds := by
    simp [hexCode, ds]
  calc readChar? (("\\u\x7b" ++ hexCode c ++ "\x7d").toList ++ cs)
    _ = readChar? ('\\' :: 'u' :: '\x7b' :: ds) := by rw [hl]
    _ = some (.ofNat (hexNumber (ds.takeWhile (· ≠ '\x7d')))) := rfl
    _ = some c := by rw [takeWhile_toDigits_append, hexNumber_toDigits, Char.ofNat_toNat]

theorem readChar?_escapeChar (c : Char) (cs : List Char) :
    readChar? ((escapeChar c).toList ++ cs) = some c := by
  unfold escapeChar
  iterate 6 (split; case isTrue h => subst h; rfl)
  split
  case isTrue  => exact readChar?_hexCode
  case isFalse =>
    rw [String.toList_singleton]
    exact read?_plain ‹c ≠ '\\'› ‹c ≠ '"'›

theorem selfDelimiting_row {f : α → String}
    (h : ∀ a cs, read? plain escaped ((f a).toList ++ cs) = some a) :
    SelfDelimiting (row f "\"") := by
  refine (SelfDelimiting.of_read h).row fun {a s t} he => ?_
  have hl : (f a).toList ++ s.toList = '"' :: t.toList := by
    simpa using congrArg String.toList he
  have hr := h a s.toList
  rw [hl] at hr
  cases hr

theorem selfDelimiting_quoteByte : SelfDelimiting quoteByte :=
  (SelfDelimiting.of_read readByte?_escapeByte).after "'" |>.before "'"

-- Neither the bracket that closes a name nor the separator begins with a quote.
theorem selfDelimiting_quoteEach : SelfDelimiting fun bs => quoteEach bs ++ ")" := by
  refine selfDelimiting_quoteByte.intercalate (fun he => ?_) fun he => ?_
  all_goals simpa [quoteByte] using congrArg String.toList he

theorem selfDelimiting_quoteBytes : SelfDelimiting quoteBytes := by
  have hq : quoteBytes = fun bs => "\"" ++ row escapeByte "\"" bs :=
    funext fun _ => String.append_assoc ..
  exact hq ▸ (selfDelimiting_row readByte?_escapeByte).after "\""

theorem selfDelimiting_quote : SelfDelimiting quote := by
  have hq : quote = (fun cs => "\"" ++ row escapeChar "\"" cs) ∘ String.toList :=
    funext fun _ => String.append_assoc ..
  have hr : SelfDelimiting (row escapeChar "\"") := selfDelimiting_row readChar?_escapeChar
  exact hq ▸ (hr.after "\"").comp fun _ _ => String.toList_injective

end Backtrack.Text
