import Mathlib.Data.List.Perm.Basic
import SqlDiagnosis.Node.Search

/-!
# Trees and their subtrees

A tree is searched level by level, but what is said about a tree is said along
its branches. The two fit together: the search of a tree visits its root and
then what the searches of the children visit, in some order,

    walk n ~ n :: (walk c₁ ++ walk c₂ ++ ...),    c₁, c₂, ... the children of n.

So an induction over trees needs the children only (`Node.induction_children`).

An occurrence of a node is *bare* when there is no aggregate on the way to it
from the root. A node is a value and may occur several times, so it is the way
that is bare and not the node; what does not occur bare occurs only in
aggregates.
-/

namespace SqlDiagnosis

/-- The nodes of an argument: itself, or those in its list. -/
def Arg.nodes : Arg → List Node
  | node n => [n]
  | list items => items.filterMap node?
  | value _ => []

/-- The children of a node. -/
def Node.children (n : Node) : List Node := n.args.flatMap fun a => a.2.nodes

/-! ### The search of a tree and those of its children -/

/-- Levels side by side have what the two lists of levels have. -/
theorem flatten_besideLevels {α : Type} (xs ys : List (List α)) :
    (besideLevels xs ys).flatten.Perm (xs.flatten ++ ys.flatten) := by
  induction xs, ys using besideLevels.induct with
  | case1 ys => simp [besideLevels]
  | case2 xs hxs => simp [besideLevels]
  | case3 x xs y ys ih =>
    show ((x ++ y) ++ (besideLevels xs ys).flatten).Perm
      ((x ++ xs.flatten) ++ (y ++ ys.flatten))
    rw [List.append_assoc, List.append_assoc]
    apply List.Perm.append_left x
    exact (ih.append_left y).trans (List.perm_append_comm_assoc y _ _)

/-- The levels of items are those of the nodes among them. -/
theorem flatten_levelsOfItems (items : List Arg) :
    (levelsOfItems items).flatten.Perm
      ((items.filterMap Arg.node?).flatMap Node.walk) := by
  induction items with
  | nil => exact .refl _
  | cons item items ih =>
    cases item with
    | node n =>
      exact (flatten_besideLevels n.levels _).trans (ih.append_left n.walk)
    | list _ => exact ih
    | value _ => exact ih

theorem flatten_levelsOfArg (a : Arg) :
    (levelsOfArg a).flatten.Perm (a.nodes.flatMap Node.walk) := by
  cases a with
  | node n =>
    show n.walk.Perm ([n].flatMap Node.walk)
    rw [List.flatMap_singleton]
  | list items => exact flatten_levelsOfItems items
  | value _ => exact .refl _

/-- The levels of arguments are those of the nodes in them. -/
theorem flatten_levelsOfArgs (args : List (String × Arg)) :
    (levelsOfArgs args).flatten.Perm
      ((args.flatMap fun a => a.2.nodes).flatMap Node.walk) := by
  induction args with
  | nil => exact .refl _
  | cons a args ih =>
    rw [List.flatMap_cons, List.flatMap_append]
    exact (flatten_besideLevels (levelsOfArg a.2) _).trans
      ((flatten_levelsOfArg a.2).append ih)

namespace Node

variable {m n c : Node}

/-- The search of a tree visits the root, and what the searches of the children
visit. -/
theorem walk_perm (n : Node) : n.walk.Perm (n :: n.children.flatMap walk) := by
  cases n with
  | mk kind facts args => exact (flatten_levelsOfArgs args).cons _

/-- A node of a tree is the root or a node below one of the children. -/
theorem mem_walk_iff : m ∈ n.walk ↔ m = n ∨ ∃ c ∈ n.children, m ∈ c.walk := by
  rw [n.walk_perm.mem_iff, List.mem_cons, List.mem_flatMap]

theorem mem_walk_self (n : Node) : n ∈ n.walk := mem_walk_iff.mpr (.inl rfl)

/-! ### Induction over trees -/

/-- A child is smaller than its node. -/
theorem sizeOf_lt_of_mem_children (h : c ∈ n.children) :
    sizeOf c < sizeOf n := by
  obtain ⟨kind, facts, args⟩ := n
  obtain ⟨⟨name, a⟩, ha, hc⟩ := List.mem_flatMap.mp h
  have harg : sizeOf (name, a) < sizeOf args := List.sizeOf_lt_of_mem ha
  cases a with
  | node n =>
    obtain rfl := List.mem_singleton.mp hc
    simp only [mk.sizeOf_spec, Prod.mk.sizeOf_spec,
      Arg.node.sizeOf_spec] at harg ⊢
    omega
  | list items =>
    obtain ⟨item, hitem, hnode⟩ := List.mem_filterMap.mp hc
    have hlt := List.sizeOf_lt_of_mem hitem
    cases item with
    | node n =>
      obtain rfl := Option.some.inj hnode
      simp only [mk.sizeOf_spec, Prod.mk.sizeOf_spec, Arg.node.sizeOf_spec,
        Arg.list.sizeOf_spec] at harg hlt ⊢
      omega
    | list _ => cases hnode
    | value _ => cases hnode
  | value _ => cases hc

/-- What passes from the children of a node to the node holds of all nodes. -/
theorem induction_children {P : Node → Prop}
    (step : ∀ n, (∀ c ∈ n.children, P c) → P n) (n : Node) : P n :=
  step n fun c hc =>
    have := sizeOf_lt_of_mem_children hc
    induction_children step c
termination_by sizeOf n

/-- A subtree of a subtree is a subtree. -/
theorem mem_walk_trans {a : Node} (ha : a ∈ n.walk) (hm : m ∈ a.walk) :
    m ∈ n.walk := by
  induction n using induction_children with
  | step n ih =>
    obtain rfl | ⟨c, hc, ha⟩ := mem_walk_iff.mp ha
    · exact hm
    · exact mem_walk_iff.mpr (.inr ⟨c, hc, ih c hc ha⟩)

theorem mem_columns_iff : m ∈ n.columns ↔ m ∈ n.walk ∧ m.kind = .column := by
  rw [columns, findAll, List.mem_filter, beq_iff_eq]

theorem mem_aggregates_iff :
    m ∈ n.aggregates ↔ m ∈ n.walk ∧ m.kind.isAggregate = true := List.mem_filter

/-! ### Bare occurrences -/

/-- A node occurs in a tree so that neither it nor a node above it is an
aggregate. -/
inductive Bare (m : Node) : Node → Prop
  | root : m.kind.isAggregate = false → Bare m m
  | under {n c : Node} : n.kind.isAggregate = false → c ∈ n.children →
      Bare m c → Bare m n

theorem Bare.mem_walk (h : Bare m n) : m ∈ n.walk := by
  induction h with
  | root _ => exact mem_walk_self m
  | under _ hc _ ih => exact mem_walk_iff.mpr (.inr ⟨_, hc, ih⟩)

theorem not_bare_of_aggregate (h : n.kind.isAggregate = true) : ¬ Bare m n := by
  intro hbare
  cases hbare with
  | root hn =>
    rw [h] at hn
    cases hn
  | under hn _ _ =>
    rw [h] at hn
    cases hn

/-- What occurs in a tree occurs bare or in an aggregate. -/
theorem bare_or_in_aggregate (h : m ∈ n.walk) :
    Bare m n ∨ ∃ a ∈ n.aggregates, m ∈ a.walk := by
  induction n using induction_children with
  | step n ih =>
    -- the outermost aggregate on the way is the one that counts
    by_cases hn : n.kind.isAggregate = true
    · exact .inr ⟨n, mem_aggregates_iff.mpr ⟨mem_walk_self n, hn⟩, h⟩
    · rw [Bool.not_eq_true] at hn
      obtain rfl | ⟨c, hc, hm⟩ := mem_walk_iff.mp h
      · exact .inl (.root hn)
      · obtain hbare | ⟨a, ha, hma⟩ := ih c hc hm
        · exact .inl (.under hn hc hbare)
        · obtain ⟨hac, haggregate⟩ := mem_aggregates_iff.mp ha
          have hwalk : a ∈ n.walk := mem_walk_iff.mpr (.inr ⟨c, hc, hac⟩)
          exact .inr ⟨a, mem_aggregates_iff.mpr ⟨hwalk, haggregate⟩, hma⟩

end Node

end SqlDiagnosis
