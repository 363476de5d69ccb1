import Backtrack.Grammar

namespace Backtrack.Grammar

section

variable {motive : Grammar → Prop}
variable (matcher : ∀ m, motive (matcher m)) (literal : ∀ l, motive (literal l))
variable (boxed : ∀ g, motive g → motive (boxed g))
variable (seq : ∀ gs, (∀ g ∈ gs, motive g) → motive (seq gs))
variable (any : ∀ gs, (∀ g ∈ gs, motive g) → motive (any gs))
variable (maybe : ∀ g, motive g → motive (maybe g)) (many : ∀ g, motive g → motive (many g))
variable (map : ∀ g f, motive g → motive (map g f))
variable (rule : ∀ name, motive (rule name)) (routine : ∀ r, motive (routine r))

include matcher literal boxed seq any maybe many map rule routine in
@[induction_eliminator]
theorem induction (g : Grammar) : motive g := by
  match g with
  | .matcher m => exact matcher m
  | .literal l => exact literal l
  | .boxed g => exact boxed g (induction g)
  | .seq gs => exact seq gs fun g _ => induction g
  | .any gs => exact any gs fun g _ => induction g
  | .maybe g => exact maybe g (induction g)
  | .many g => exact many g (induction g)
  | .map g f => exact map g f (induction g)
  | .rule name => exact rule name
  | .routine r => exact routine r

end

def parts : Grammar → List Grammar
  | seq gs | any gs => gs
  | boxed g | maybe g | many g | map g _ => [g]
  | matcher _ | literal _ | rule _ | routine _ => []

mutual

-- The grammar itself and all that it is made of.
def subgrammars : Grammar → List Grammar
  | seq gs => seq gs :: subgrammarsOfAll gs
  | any gs => any gs :: subgrammarsOfAll gs
  | boxed g => boxed g :: g.subgrammars
  | maybe g => maybe g :: g.subgrammars
  | many g => many g :: g.subgrammars
  | map g f => map g f :: g.subgrammars
  | matcher m => [matcher m]
  | literal l => [literal l]
  | rule name => [rule name]
  | routine r => [routine r]

def subgrammarsOfAll : List Grammar → List Grammar
  | [] => []
  | g :: gs => g.subgrammars ++ subgrammarsOfAll gs

end

def collect {α : Type} (pick : Grammar → Option α) (g : Grammar) : List α :=
  g.subgrammars.filterMap pick

-- A parser that comes from elsewhere.
def leaf? : Grammar → Option (Env → Parser)
  | rule name => some fun env => env.rule name
  | routine r => some r
  | _ => none

def leaves (g : Grammar) : List (Env → Parser) :=
  g.collect leaf?

def mapper? : Grammar → Option (Node → Node)
  | map _ f => some f
  | _ => none

def mappers (g : Grammar) : List (Node → Node) :=
  g.collect mapper?

variable {g h : Grammar} {α : Type} {pick : Grammar → Option α}

theorem subgrammarsOfAll_eq_flatMap {gs : List Grammar} :
    subgrammarsOfAll gs = gs.flatMap subgrammars := by
  induction gs
  case nil          => rfl
  case cons g gs hi => rw [subgrammarsOfAll, List.flatMap_cons, hi]

theorem subgrammars_eq_cons : g.subgrammars = g :: g.parts.flatMap subgrammars := by
  cases g <;> simp [subgrammars, parts, subgrammarsOfAll_eq_flatMap]

theorem mem_subgrammars_self : g ∈ g.subgrammars := by
  rw [subgrammars_eq_cons]
  exact List.mem_cons_self

theorem subgrammars_subset_of_mem_parts (hm : h ∈ g.parts) : h.subgrammars ⊆ g.subgrammars := by
  intro k hk
  rw [subgrammars_eq_cons]
  exact List.mem_cons_of_mem _ (List.mem_flatMap.mpr ⟨h, hm, hk⟩)

theorem mem_subgrammars_of_mem_parts (hm : h ∈ g.parts) : h ∈ g.subgrammars :=
  subgrammars_subset_of_mem_parts hm mem_subgrammars_self

theorem parts_induction {motive : Grammar → Prop}
    (step : ∀ g, (∀ h ∈ g.parts, motive h) → motive g) (g : Grammar) : motive g := by
  induction g <;> exact step _ (by simp_all [parts])

theorem subgrammars_subset (hm : h ∈ g.subgrammars) : h.subgrammars ⊆ g.subgrammars := by
  induction g using parts_induction
  case step g hi =>
    rw [subgrammars_eq_cons] at hm
    cases List.mem_cons.mp hm
    case inl he => rw [he]; exact List.Subset.refl _
    case inr hm =>
      have ⟨k, hk, hm⟩ := List.mem_flatMap.mp hm
      exact List.Subset.trans (hi k hk hm) (subgrammars_subset_of_mem_parts hk)

theorem collect_eq : g.collect pick = (pick g).toList ++ g.parts.flatMap (collect pick) := by
  rw [collect, subgrammars_eq_cons, List.filterMap_cons, List.filterMap_flatMap]
  cases pick g <;> rfl

theorem collect_subset (hm : h ∈ g.subgrammars) : h.collect pick ⊆ g.collect pick :=
  List.filterMap_subset _ (subgrammars_subset hm)

theorem collect_subset_of_mem_parts (g : Grammar) (hm : h ∈ g.parts) :
    h.collect pick ⊆ g.collect pick :=
  collect_subset (mem_subgrammars_of_mem_parts hm)

theorem leaves_eq_nil_of_mem_subgrammars (hg : g.leaves = []) (hm : h ∈ g.subgrammars) :
    h.leaves = [] :=
  List.subset_nil.mp (hg ▸ collect_subset hm)

theorem leaves_eq_nil_iff : g.leaves = [] ↔ g.leaf? = none ∧ ∀ h ∈ g.parts, h.leaves = [] := by
  rw [leaves, collect_eq, List.append_eq_nil_iff, Option.toList_eq_nil_iff, List.flatMap_eq_nil_iff]
  rfl

theorem leaves_eq_nil_of_mem_parts (hg : g.leaves = []) (hm : h ∈ g.parts) : h.leaves = [] :=
  (leaves_eq_nil_iff.mp hg).right h hm

section

variable {motive : (g : Grammar) → g.leaves = [] → Prop}
variable (matcher : ∀ m, motive (matcher m) rfl) (literal : ∀ l, motive (literal l) rfl)
variable (boxed : ∀ g hg, motive g hg → motive (boxed g) hg)
variable (seq : ∀ gs hg, (∀ g hm, motive g (leaves_eq_nil_of_mem_parts hg hm)) → motive (seq gs) hg)
variable (any : ∀ gs hg, (∀ g hm, motive g (leaves_eq_nil_of_mem_parts hg hm)) → motive (any gs) hg)
variable (maybe : ∀ g hg, motive g hg → motive (maybe g) hg)
variable (many : ∀ g hg, motive g hg → motive (many g) hg)
variable (map : ∀ g f hg, motive g hg → motive (map g f) hg)

-- Induction over grammars whose parsers all come from the library.
include matcher literal boxed seq any maybe many map in
@[elab_as_elim]
theorem leafless_induction (g : Grammar) (hg : g.leaves = []) : motive g hg := by
  induction g
  case matcher m => exact matcher m
  case literal l => exact literal l
  case boxed hi  => exact boxed _ _ (hi hg)
  case seq hi    => exact seq _ hg fun g hm => hi g hm _
  case any hi    => exact any _ hg fun g hm => hi g hm _
  case maybe hi  => exact maybe _ _ (hi hg)
  case many hi   => exact many _ _ (hi hg)
  case map hi    => exact map _ _ _ (hi hg)
  case rule      => cases hg
  case routine   => cases hg

end

end Backtrack.Grammar
