import Backtrack.Proofs.Meaning.Correspondence
import Backtrack.Proofs.Meaning.Refinement

namespace Backtrack

def Failure.shift (k : Nat) : Failure → Failure
  | insufficient requested remaining position => insufficient requested remaining (k + position)
  | rejected name message position => rejected name message (k + position)
  | within name message position cause => within name message (k + position) (cause.shift k)
  | trailing remaining position => trailing remaining (k + position)

def Answer.shift (k : Nat) : Answer → Answer
  | matched node => matched node
  | failed e slot => failed (e.shift k) slot

variable {data : List UInt8}

namespace Correspondence

def shift (k : Place data) : Correspondence (data.drop k) data where
  place i := ⟨k + i, by have := i.isLt; simp only [List.length_drop] at this; omega⟩
  name    := (· = ·)
  node    := (· = ·)
  failure e e' := e' = e.shift k
  drop_place := (List.drop_drop ..).symm
  empty := rfl
  branch h := congrArg Node.branch (List.forall₂_eq_eq_eq ▸ h)
  insufficient := rfl
  rejected h := by rw [h, Failure.shift]
  within h he := by rw [h, he, Failure.shift]

end Correspondence

namespace Grammar

variable {g : Grammar} {env : Env} {slot : Node}

theorem meaning_shift (g : Grammar) (k : Place data) :
    (Correspondence.shift k).Meanings (g.meaning (data.drop k)) (g.meaning data) := by
  induction g
  case matcher   => exact .matcher rfl (fun _ => rfl) (fun _ _ => rfl) fun _ _ => rfl
  case literal   => exact .matcher rfl (fun _ => rfl) (fun _ _ => rfl) fun _ _ => rfl
  case boxed hi  => exact hi
  case maybe hi  => exact hi.maybe
  case many hi   => exact hi.many rfl
  case map hi    => exact hi.map fun _ _ hn => congrArg _ hn
  case seq hi    => exact .seq (meanings_correspond (List.forall₂_same.mpr hi)) rfl
  case any hi    => exact .any (meanings_correspond (List.forall₂_same.mpr hi)) rfl
  case rule      => exact .any .nil rfl
  case routine   => exact .any .nil rfl

theorem reply_shift {env' : Env} (hg : g.leaves = []) {c : Cursor} (hc : c.Valid)
    {r s : Reply Answer} (hr : (g.parser env slot).reply? c = some r)
    (hs : (g.parser env' slot).reply? (.start (c.data.drop c.position)) = some s) :
    r.value = s.value.shift c.position ∧ r.cursor.position = c.position + s.cursor.position := by
  let k := hc.place
  have hd : (Cursor.start (c.data.drop k)).At (0 : Place (c.data.drop k)) := .start
  have hk : (Correspondence.shift k).place 0 = k := Fin.ext (Nat.add_zero _)
  have ⟨hp, hv⟩ := replies_correspond (g.meaning_shift k) hg hg hd (hk ▸ hc.at_place) rfl hs hr
  refine ⟨?_, hp⟩
  obtain ⟨n, _, hv', hv, rfl⟩ | ⟨e, _, hv', hv, rfl⟩ := hv
  all_goals
    rw [hv, hv']
    rfl

-- From a position on, a parser does what it does on a new cursor over the bytes from there, further
-- on by as much. What the bytes before the position are cannot be told.
theorem parser_shift_equivariant (hg : g.leaves = []) {c : Cursor} (hc : c.Valid) (slot : Node) :
    let rest := Cursor.start (c.data.drop c.position)
    (c.data.length < env.limit → ((g.parser env slot).reply? c).isSome ∧
      ((g.parser env slot).reply? rest).isSome) ∧
    (∀ r s, (g.parser env slot).reply? c = some r → (g.parser env slot).reply? rest = some s →
      r.value = s.value.shift c.position ∧
      r.cursor.position = c.position + s.cursor.position) ∧
    ∀ (d : Cursor) (r s : Reply Answer), d.Valid → d.position = c.position →
      d.data.drop d.position = c.data.drop c.position → (g.parser env slot).reply? c = some r →
        (g.parser env slot).reply? d = some s →
          s.value = r.value ∧ s.cursor.position = r.cursor.position := by
  intro rest
  refine ⟨fun hl => ?replies, fun r s hr hs => reply_shift hg hc hr hs, ?unseen⟩
  case replies =>
    have hl' : rest.data.length < env.limit :=
      Nat.lt_of_le_of_lt (List.length_drop ▸ Nat.sub_le ..) hl
    exact ⟨isSome_reply? hg hc slot hl, isSome_reply? hg .start slot hl'⟩
  case unseen =>
    intro d r s hd hp hdata hr hs
    -- Both runs are compared with the one on a new cursor over the bytes from the position on.
    let env' : Env := { env with limit := rest.data.length + 1 }
    have ht : ((g.parser env' slot).reply? rest).isSome :=
      isSome_reply? hg .start slot (Nat.lt_succ_self _)
    have ⟨t, ht⟩ := Option.isSome_iff_exists.mp ht
    have ⟨hv, hq⟩ := reply_shift hg hc hr ht
    have hrest : .start (d.data.drop d.position) = rest := congrArg Cursor.start hdata
    have ⟨hv', hq'⟩ := reply_shift hg hd hs (hrest ▸ ht)
    rw [hv, hv', hq, hq', hp]
    exact ⟨rfl, rfl⟩

theorem parser_shift_equivariant_of_pair :
    let g : Grammar := .seq [.many (.map (.literal (.byte 1)) fun n => .branch [n]),
      .maybe (.literal (.byte 7)), .literal (.bytes [2, 3])]
    let env : Env := { limit := 7, rule := fun _ _ => Run.exhausted }
    let c : Cursor := { data := [9, 8, 1, 1, 2, 4], position := 2, saved := [1, 0], window := 3 }
    let e : Failure := .within "Seq(Parser, Parser, Bytes)" "element 2 failed" 0
      (.rejected "Bytes(\"\\x02\\x03\")" "expected \"\\x02\\x03\", found \"\\x02\\x04\"" 2)
    ∃ r s, (g.parser env .empty).reply? c = some r ∧
      (g.parser env .empty).reply? (.start (c.data.drop c.position)) = some s ∧
      s.value = .failed e .empty ∧ r.value = .failed (e.shift 2) .empty ∧
      r.cursor.position = 2 := by
  intro g env c e
  have h : ((g.parser env .empty).reply? (.start (c.data.drop c.position))).map
      (fun s => (s.value, s.cursor.position)) = some (.failed e .empty, 0) := by
    decide +kernel
  have ⟨s, hs, h⟩ := Option.map_eq_some_iff.mp h
  have ⟨hv, hp⟩ := Prod.mk.inj h
  have hc : c.Valid := by decide
  have ⟨hl, hrs, _⟩ := @parser_shift_equivariant g env rfl c hc .empty
  have ⟨r, hr⟩ := Option.isSome_iff_exists.mp (hl (by decide)).left
  have ⟨hv', hp'⟩ := hrs r s hr hs
  rw [hv] at hv'
  rw [hp] at hp'
  exact ⟨r, s, hr, hs, hv, hv', hp'⟩

end Grammar
end Backtrack
