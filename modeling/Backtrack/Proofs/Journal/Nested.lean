import Backtrack.Proofs.Contract

namespace Backtrack

namespace Journal

-- A run of combinators from one cursor to another. What a call may do is left open.
inductive Nested (call : Cursor → Journal → Cursor → Prop) : Cursor → Journal → Cursor → Prop
  | nil {c : Cursor} : Nested call c [] c
  | request {c : Cursor} {n : Nat} : Nested call c [.op (.request n) c] (c.request n)
  | advance {c : Cursor} : Nested call c [.op .advance c] c.advance
  | notice {c : Cursor} {n : Notice} : Nested call c [.notice n] c
  | call {c c₁ : Cursor} {es : Journal} : call c es c₁ → Nested call c es c₁
  | append {c c₁ c₂ : Cursor} {es es' : Journal} :
    Nested call c es c₁ → Nested call c₁ es' c₂ → Nested call c (es ++ es') c₂
  -- The close need not meet the position that was saved here, since a call may have opened or
  -- closed transactions in between.
  | undone {c c₁ : Cursor} {es : Journal} :
    Nested call c.push es c₁ → Nested call c (.op .push c :: es ++ [.op .pop c₁]) c₁.pop
  | kept {c c₁ : Cursor} {es : Journal} :
    Nested call c.push es c₁ → Nested call c (.op .push c :: es ++ [.op .commit c₁]) c₁.commit

end Journal

namespace Parser

open Journal (Nested)

-- Its runs are made of transactions, one inside the other, around the calls.
def Nests (call : Cursor → Journal → Cursor → Prop) (p : Parser) : Prop :=
  ∀ ⦃slot : Node⦄ ⦃c : Cursor⦄ ⦃r : Reply Answer⦄,
    c.Valid → (p slot).reply? c = some r → Nested call c r.journal r.cursor

namespace Nests

variable {call : Cursor → Journal → Cursor → Prop} {p : Parser} {ps : List Parser} {name : String}
variable {i limit : Nat} {slot : Node} {c : Cursor}

theorem map {f : Node → Node} (hp : p.Nests call) : (p.map f).Nests call := by
  intro slot c r hc h
  obtain ⟨_, _, _, hr, rfl⟩ | ⟨_, _, _, _, hr, rfl⟩ := reply?_map_eq_some_iff.mp h
  all_goals
    have hn := hp hc hr
    exact hn

theorem elements {r : Reply (Except (Nat × Failure) (List Node))} (hps : ∀ p ∈ ps, p.Nests call)
    (hc : c.Valid) (h : (elements i ps).reply? c = some r) : Nested call c r.journal r.cursor := by
  induction ps generalizing i c r
  case nil =>
    cases h
    exact .nil
  case cons p ps hi =>
    have ⟨hp, hps⟩ := List.forall_mem_cons.mp hps
    obtain ⟨_, _, _, _, hr, rfl⟩ | ⟨_, _, _, _, hr, ht, rfl⟩ :=
      reply?_elements_cons_eq_some_iff.mp h
    case inl => exact hp hc hr
    case inr => exact (hp hc hr).append (hi hps (Run.valid_of_reply? hr hc) ht)

theorem seq (hps : ∀ p ∈ ps, p.Nests call) : (Parser.seq name ps).Nests call := by
  intro slot c r hc h
  obtain ⟨_, _, _, hr, rfl⟩ | ⟨_, _, _, _, hr, rfl⟩ := reply?_seq_eq_some_iff.mp h
  all_goals have hn := elements hps hc.push hr
  case inl => exact hn.kept
  case inr => simpa using hn.undone.append .notice

theorem firstOf {r : Reply (Except Node Node)} (hps : ∀ p ∈ ps, p.Nests call) (hc : c.Valid)
    (h : (firstOf ps slot).reply? c = some r) : Nested call c r.journal r.cursor := by
  induction ps generalizing c slot r
  case nil =>
    cases h
    exact .nil
  case cons p ps hi =>
    have ⟨hp, hps⟩ := List.forall_mem_cons.mp hps
    obtain ⟨_, _, _, hr, rfl⟩ | ⟨_, _, _, _, _, hr, ht, rfl⟩ :=
      reply?_firstOf_cons_eq_some_iff.mp h
    case inl => exact hp hc hr
    case inr => exact (hp hc hr).append (hi hps (Run.valid_of_reply? hr hc) ht)

theorem any (hps : ∀ p ∈ ps, p.Nests call) : (Parser.any name ps).Nests call := by
  intro slot c r hc h
  obtain ⟨_, _, _, hr, rfl⟩ | ⟨_, _, _, hr, rfl⟩ := reply?_any_eq_some_iff.mp h
  all_goals have hn := firstOf hps hc.push hr
  case inl => exact hn.kept
  case inr => simpa using hn.undone.append .notice

theorem maybe (hp : p.Nests call) : (Parser.maybe name p).Nests call := by
  intro slot c r hc h
  obtain ⟨_, _, _, hr, rfl⟩ | ⟨_, _, _, _, hr, rfl⟩ := reply?_maybe_eq_some_iff.mp h
  all_goals have hn := hp hc.push hr
  case inl => exact hn.kept
  case inr => simpa using hn.undone.append .notice

theorem repetitions {r : Reply (List Node)} (hp : p.Nests call) (hc : c.Valid)
    (h : (repetitions name p limit).reply? c = some r) : Nested call c r.journal r.cursor := by
  induction limit generalizing c r
  case zero => cases h
  case succ limit hi =>
    obtain ⟨_, _, _, _, hr, rfl⟩ | ⟨_, _, _, hr, _, rfl⟩ | ⟨_, _, _, _, hr, _, ht, rfl⟩ :=
      reply?_repetitions_succ_eq_some_iff.mp h
    all_goals have hn := hp hc.push hr
    case inl => exact hn.undone
    case inr.inl => simpa using hn.undone.append .notice
    case inr.inr =>
      have hn' := hi (Run.valid_of_reply? hr hc.push).commit ht
      simpa using hn.kept.append hn'

theorem many (hp : p.Nests call) : (Parser.many limit name p).Nests call := by
  intro slot c r hc h
  obtain ⟨_, _, _, _, hr, rfl⟩ | ⟨_, _, _, _, hr, ht, rfl⟩ := reply?_many_eq_some_iff.mp h
  all_goals have hn := hp hc.push hr
  case inl => exact hn.undone
  case inr =>
    have hn' := repetitions hp (Run.valid_of_reply? hr hc.push).commit ht
    simpa using hn.kept.append hn'

end Nests
end Parser

theorem Matcher.parser_nests {call : Cursor → Journal → Cursor → Prop} {m : Matcher} :
    m.parser.Nests call := by
  intro slot c r _ h
  have hn : Journal.Nested call c [.op (.request m.width) c] (c.request m.width) := .request
  by_cases hm : m.width ≤ c.remaining
  case neg =>
    replace hm := Nat.lt_of_not_le hm
    rw [m.reply?_parser_of_lt hm] at h
    cases h
    rwa [Cursor.request, if_pos hm] at hn
  case pos =>
    rw [m.reply?_parser_of_le hm] at h
    split at h <;> cases h
    case isTrue  => exact hn.append .advance
    case isFalse => exact hn

namespace Grammar

variable {env : Env} {call : Cursor → Journal → Cursor → Prop}

theorem parser_nests {g : Grammar} (h : ∀ r ∈ g.leaves, (Parser.leaf (r env)).Nests call) :
    (g.parser env).Nests call := by
  induction g <;> simp only [parser, parsers_eq_map]
  case matcher => exact Matcher.parser_nests
  case literal => exact Matcher.parser_nests
  case boxed hi => exact hi h
  case maybe hi => exact (hi h).maybe
  case many hi => exact (hi h).many
  case map hi => exact (hi h).map
  case rule => exact h _ List.mem_cons_self
  case routine => exact h _ List.mem_cons_self
  case seq gs hi =>
    exact .seq (List.forall_mem_map.mpr fun g hg =>
      hi g hg fun r hr => h r (collect_subset_of_mem_parts (seq gs) hg hr))
  case any gs hi =>
    exact .any (List.forall_mem_map.mpr fun g hg =>
      hi g hg fun r hr => h r (collect_subset_of_mem_parts (any gs) hg hr))

end Grammar

namespace Cursor

variable {c : Cursor}

theorem pop_saved : c.pop.saved = c.saved.tail := by
  unfold pop
  split <;> simp_all

theorem ofOp?_eq_none_of_saved_ne_nil {o : Op} (h : c.saved ≠ []) : Event.ofOp? c o = none := by
  cases o <;> simp [Event.ofOp?, h]

end Cursor

namespace Journal.Nested

variable {call : Cursor → Journal → Cursor → Prop} {c c₁ : Cursor} {es : Journal}

-- A relation between the open transactions before and after a run carries over from the calls to
-- all runs if it allows for one transaction to be opened before and one closed after.
theorem saved_rel {R : List Nat → List Nat → Prop} (refl : ∀ s, R s s)
    (trans : ∀ {s t u}, R s t → R t u → R s u) (close : ∀ {p s t}, R (p :: s) t → R s t.tail)
    (hcall : ∀ {c es c₁}, call c es c₁ → R c.saved c₁.saved) (h : Nested call c es c₁) :
    R c.saved c₁.saved := by
  induction h
  case nil            => exact refl _
  case request        => exact Cursor.request_preserves_saved ▸ refl _
  case advance        => exact refl _
  case notice         => exact refl _
  case call h         => exact hcall h
  case append hi hj   => exact trans hi hj
  case undone hi      => exact Cursor.pop_saved ▸ close hi
  case kept hi        => exact close hi

theorem saved_eq (hcall : ∀ {c es c₁}, call c es c₁ → c₁.saved = c.saved)
    (h : Nested call c es c₁) : c₁.saved = c.saved :=
  h.saved_rel (R := fun s t => t = s) (fun _ => rfl) (fun h h' => h'.trans h)
    (fun h => h ▸ rfl) hcall

variable (hcall : ∀ {c es c₁}, call c es c₁ → c.saved <:+ c₁.saved)

include hcall

theorem saved_suffix (h : Nested call c es c₁) : c.saved <:+ c₁.saved := by
  refine h.saved_rel List.suffix_refl List.IsSuffix.trans ?_ hcall
  rintro p s _ ⟨u, rfl⟩
  cases u
  case nil      => exact List.suffix_refl s
  case cons q u => exact (List.suffix_cons p s).trans (List.suffix_append u (p :: s))

theorem saved_ne_nil (h : Nested call c.push es c₁) : c₁.saved ≠ [] := by
  have hs := h.saved_suffix hcall
  rintro he
  rw [he] at hs
  cases List.suffix_nil.mp hs

theorem forall_mem {motive : Entry → Prop} (notice : ∀ n, motive (.notice n))
    (op : ∀ {o d}, Event.ofOp? d o = none → motive (.op o d))
    (entries : ∀ {c es c₁}, call c es c₁ → ∀ e ∈ es, motive e) (h : Nested call c es c₁) :
    ∀ e ∈ es, motive e := by
  induction h
  case nil          => exact List.forall_mem_nil _
  case request      => exact List.forall_mem_singleton.mpr (op rfl)
  case advance      => exact List.forall_mem_singleton.mpr (op rfl)
  case notice       => exact List.forall_mem_singleton.mpr (notice _)
  case call h       => exact entries h
  case append hi hj => exact List.forall_mem_append.mpr ⟨hi, hj⟩
  case undone h hi | kept h hi =>
    have hs := h.saved_ne_nil hcall
    exact List.forall_mem_append.mpr ⟨List.forall_mem_cons.mpr ⟨op rfl, hi⟩,
      List.forall_mem_singleton.mpr (op (Cursor.ofOp?_eq_none_of_saved_ne_nil hs))⟩

end Journal.Nested

end Backtrack
