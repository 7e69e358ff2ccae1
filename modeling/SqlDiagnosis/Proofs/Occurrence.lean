import Mathlib.Data.List.Nodup
import SqlDiagnosis.Proofs.Subtree

/-!
# Positions in a tree

A node is a value and may occur several times in a tree. What tells its
occurrences apart is the position: the numbers of the children that are taken on
the way from the root. An *occurrence* is a node together with its position.
Each position has one node, and the search of a tree visits each occurrence
once,

    walk n ~ the nodes of the occurrences in n.

The nodes on the way from a root to an occurrence are a *path*: each of them is
followed by one of its children.
-/

namespace SqlDiagnosis

/-- An occurrence of a node in a tree: where it stands, and the node. -/
@[ext] structure Occurrence where
  position : List Nat
  node : Node

namespace Occurrence

/-- What occurs in the tree at a position, as an occurrence in the whole
tree. -/
def below (position : List Nat) (o : Occurrence) : Occurrence :=
  ⟨position ++ o.position, o.node⟩

@[simp] theorem position_below (position : List Nat) (o : Occurrence) :
    (o.below position).position = position ++ o.position := rfl

@[simp] theorem node_below (position : List Nat) (o : Occurrence) :
    (o.below position).node = o.node := rfl

/-- Seen from higher up, occurrences remain different. -/
theorem below_injective (position : List Nat) :
    Function.Injective (below position) := by
  intro o o' h
  have hposition := congrArg Occurrence.position h
  have hnode := congrArg Occurrence.node h
  exact Occurrence.ext (List.append_cancel_left hposition) hnode

end Occurrence

namespace Node

variable {n m : Node} {p : List Nat}

/-- The node at a position. -/
def at? : Node → List Nat → Option Node
  | n, [] => some n
  | n, i :: position => n.children[i]?.bind fun c => c.at? position

/-- A position is followed part by part. -/
theorem at?_append (n : Node) (p q : List Nat) :
    n.at? (p ++ q) = (n.at? p).bind (·.at? q) := by
  induction p generalizing n with
  | nil => rfl
  | cons i p ih =>
    show n.children[i]?.bind _ = (n.children[i]?.bind _).bind _
    rw [Option.bind_assoc]
    exact congrArg _ (funext ih)

/-! ### Occurrences -/

/-- The occurrences of nodes in a tree. -/
def occurrences (n : Node) : List Occurrence :=
  ⟨[], n⟩ :: n.children.attach.zipIdx.flatMap fun c =>
    (occurrences c.1.1).map (.below [c.2])
termination_by sizeOf n
decreasing_by exact sizeOf_lt_of_mem_children c.1.2

/-- The occurrences below the root. -/
def lowerOccurrences (n : Node) : List Occurrence :=
  n.children.zipIdx.flatMap fun c => c.1.occurrences.map (.below [c.2])

theorem occurrences_eq (n : Node) :
    n.occurrences = ⟨[], n⟩ :: n.lowerOccurrences := by
  have hattach : n.children.zipIdx =
      n.children.attach.zipIdx.map (Prod.map Subtype.val id) := by
    rw [← List.zipIdx_map, List.attach_map_subtype_val]
  rw [occurrences, lowerOccurrences, hattach, List.flatMap_map]
  rfl

theorem nil_not_mem_lowerOccurrences : ⟨[], m⟩ ∉ n.lowerOccurrences := by
  intro h
  obtain ⟨c, -, ho⟩ := List.mem_flatMap.mp h
  obtain ⟨o, -, ho⟩ := List.mem_map.mp ho
  exact absurd (congrArg Occurrence.position ho) (List.cons_ne_nil _ _)

/-- A position below the root begins with the number of a child. -/
theorem cons_mem_lowerOccurrences_iff {i : Nat} :
    ⟨i :: p, m⟩ ∈ n.lowerOccurrences ↔
      ∃ c, n.children[i]? = some c ∧ ⟨p, m⟩ ∈ c.occurrences := by
  simp only [lowerOccurrences, List.mem_flatMap, List.mem_map, Prod.exists,
    List.mk_mem_zipIdx_iff_getElem?]
  constructor
  · rintro ⟨c, j, hc, ⟨p', m'⟩, ho, heq⟩
    simp only [Occurrence.below, List.singleton_append, Occurrence.mk.injEq,
      List.cons.injEq] at heq
    obtain ⟨⟨rfl, rfl⟩, rfl⟩ := heq
    exact ⟨c, hc, ho⟩
  · rintro ⟨c, hc, ho⟩
    exact ⟨c, i, hc, _, ho, rfl⟩

/-- Each position has one node. -/
theorem mem_occurrences_iff : ⟨p, m⟩ ∈ n.occurrences ↔ n.at? p = some m := by
  induction p generalizing n with
  | nil =>
    rw [occurrences_eq, List.mem_cons, or_iff_left nil_not_mem_lowerOccurrences,
      Occurrence.mk.injEq, at?, Option.some.injEq]
    exact ⟨fun h => h.2.symm, fun h => ⟨rfl, h.symm⟩⟩
  | cons i p ih =>
    have hroot : (⟨i :: p, m⟩ : Occurrence) ≠ ⟨[], n⟩ :=
      fun h => absurd (congrArg Occurrence.position h) (List.cons_ne_nil _ _)
    rw [occurrences_eq, List.mem_cons, or_iff_right hroot,
      cons_mem_lowerOccurrences_iff, at?, Option.bind_eq_some_iff]
    simp only [ih]

/-- Below the root, the same for positions other than that of the root. -/
theorem mem_lowerOccurrences_iff :
    ⟨p, m⟩ ∈ n.lowerOccurrences ↔ p ≠ [] ∧ n.at? p = some m := by
  cases p with
  | nil => exact iff_of_false nil_not_mem_lowerOccurrences fun h => h.1 rfl
  | cons i p =>
    rw [cons_mem_lowerOccurrences_iff, at?, Option.bind_eq_some_iff,
      and_iff_right (List.cons_ne_nil i p)]
    simp only [mem_occurrences_iff]

/-- No occurrence is listed twice. -/
theorem nodup_occurrences (n : Node) : n.occurrences.Nodup := by
  induction n using induction_children with
  | step n ih =>
    rw [occurrences_eq, List.nodup_cons]
    refine ⟨nil_not_mem_lowerOccurrences,
      List.nodup_flatMap.mpr ⟨fun c hc => ?_, ?_⟩⟩
    · -- below one child: the positions differ after their first number
      exact (ih c.1 (List.fst_mem_of_mem_zipIdx hc)).map
        (Occurrence.below_injective [c.2])
    · -- below different children, the positions differ in their first number
      have hplaces : (n.children.zipIdx.map Prod.snd).Nodup := by
        rw [List.zipIdx_map_snd]
        exact List.nodup_range'
      refine (List.pairwise_map.mp hplaces).imp fun {c c'} hplace => ?_
      intro o ho ho'
      obtain ⟨lower, -, rfl⟩ := List.mem_map.mp ho
      obtain ⟨lower', -, heq⟩ := List.mem_map.mp ho'
      exact hplace (List.cons.inj (congrArg Occurrence.position heq)).1.symm

theorem nodup_lowerOccurrences (n : Node) : n.lowerOccurrences.Nodup := by
  have hall := n.nodup_occurrences
  rw [occurrences_eq] at hall
  exact hall.of_cons

/-- The numbers of the children do not matter for the nodes. -/
theorem map_node_lowerOccurrences (n : Node) :
    n.lowerOccurrences.map Occurrence.node =
      n.children.flatMap fun c => c.occurrences.map Occurrence.node := by
  have hchildren : n.children = n.children.zipIdx.map Prod.fst :=
    (List.zipIdx_map_fst 0 n.children).symm
  rw [lowerOccurrences, List.map_flatMap]
  conv_rhs => rw [hchildren, List.flatMap_map]
  refine List.flatMap_congr fun c _ => ?_
  rw [List.map_map]
  rfl

/-- The search visits each occurrence once. -/
theorem map_node_occurrences_perm (n : Node) :
    (n.occurrences.map Occurrence.node).Perm n.walk := by
  induction n using induction_children with
  | step n ih =>
    rw [occurrences_eq, List.map_cons, map_node_lowerOccurrences]
    exact ((List.Perm.flatMap_left _ ih).cons n).trans n.walk_perm.symm

theorem map_node_lowerOccurrences_perm (n : Node) :
    (n.lowerOccurrences.map Occurrence.node).Perm
      (n.children.flatMap walk) := by
  rw [map_node_lowerOccurrences]
  exact List.Perm.flatMap_left _ fun c _ => c.map_node_occurrences_perm

/-! ### Paths -/

/-- Each node of a list is followed by one of its children. -/
def IsPath (path : List Node) : Prop := path.IsChain fun n c => c ∈ n.children

theorem isPath_cons_cons {c : Node} {path : List Node} :
    IsPath (n :: c :: path) ↔ c ∈ n.children ∧ IsPath (c :: path) :=
  List.isChain_cons_cons

/-- The search visits every node on a path from the root. -/
theorem mem_walk_of_isPath {path : List Node} (h : IsPath (n :: path))
    (hm : m ∈ n :: path) : m ∈ n.walk := by
  induction path generalizing n with
  | nil =>
    obtain rfl := List.mem_singleton.mp hm
    exact mem_walk_self m
  | cons c path ih =>
    obtain ⟨hc, hpath⟩ := isPath_cons_cons.mp h
    rcases List.mem_cons.mp hm with rfl | hm
    · exact mem_walk_self m
    · exact mem_walk_iff.mpr (.inr ⟨c, hc, ih hpath hm⟩)

/-- A path from a node of a tree can be continued upwards to the root. -/
theorem exists_isPath_append (hm : m ∈ n.walk) {path : List Node}
    (h : IsPath (m :: path)) :
    ∃ above below, above ++ m :: path = n :: below ∧ IsPath (n :: below) := by
  induction n using induction_children with
  | step n ih =>
    obtain rfl | ⟨c, hc, hm⟩ := mem_walk_iff.mp hm
    · exact ⟨[], path, rfl, h⟩
    · obtain ⟨above, below, heq, hpath⟩ := ih c hc hm
      exact ⟨n :: above, c :: below, congrArg (n :: ·) heq,
        isPath_cons_cons.mpr ⟨hc, hpath⟩⟩

end Node

end SqlDiagnosis
