import SqlDiagnosis.Proofs.Absorption

/-!
# The direction of order terms

The order clause of a tree is read in two styles, which take the direction of a
term from different arguments: a flag that says descending, or a word. Here both
readings are determined for clauses that are a list of terms over columns, each
possibly behind aliases (`orderTerms_eq_told`). They find the same columns in
the same order, but they give the same list only if each flag agrees with its
word. A term whose direction is given by the flag alone counts as ascending in
the other style, so on trees without words the readings agree exactly when
nothing is descending.
-/

namespace SqlDiagnosis.RawTree

open Value

/-- An order term over a column: the column node, and the two arguments that may
give a direction. -/
structure ColumnTerm where
  column : Value
  flag : Option Value
  word : Option Value

namespace ColumnTerm

/-- The name of the column. -/
def name (t : ColumnTerm) : Value := columnName t.column

/-- A term without a name is left out. -/
def isNamed (t : ColumnTerm) : Bool := t.name.truthy

/-- Whether the flag says descending. -/
def isDescending (t : ColumnTerm) : Bool := t.flag.any truthy

/-- The direction that a term tells in a style, if it tells one. -/
def told (t : ColumnTerm) : DirectionStyle → Option String
  | .flag => some (if t.isDescending then "DESC" else "ASC")
  | .word =>
    match t.word with
    | none => some "ASC"
    | some (text s) => some (Text.upper s)
    | some _ => none

/-- The term that is read in a style. -/
def read? (style : DirectionStyle) (t : ColumnTerm) : Option OrderTerm :=
  (t.told style).map (OrderTerm.mk t.name)

/-- A node is such a term: its expression is the column or an alias of it.
Nothing is asked of the two arguments for the direction, which may be absent or
anything. -/
structure IsRead (t : ColumnTerm) (term : Value) : Prop where
  isNode : IsNode "Ordered" term
  isColumn : IsNode "Column" t.column
  chain : ∃ e, term.arg? "this" = .ok (some e) ∧
      Relation.ReflTransGen IsAliasOf e t.column
  flag_eq : term.arg? "desc" = .ok t.flag
  word_eq : term.arg? "direction" = .ok t.word

variable {t : ColumnTerm} {term : Value} {style : DirectionStyle}

theorem IsRead.toOption_direction (h : t.IsRead term) :
    (direction style term).toOption = t.told style := by
  cases style with
  | flag =>
    have hflag : (t.flag.getD (bool false)).truthy = t.isDescending := by
      unfold isDescending
      cases t.flag <;> rfl
    unfold direction
    rw [h.flag_eq]
    show some (if (t.flag.getD (bool false)).truthy then _ else _) = _
    rw [hflag]
    rfl
  | word =>
    unfold direction told
    rw [h.word_eq]
    rcases t.word with _ | v
    · rfl
    · cases v <;> rfl

/-- A term with a name contributes itself, if its direction can be told, and one
without a name nothing. -/
theorem IsRead.orderTerm_eq (h : t.IsRead term) :
    orderTerm style term =
      if t.isNamed then direction style term >>= fun d => .ok [⟨t.name, d⟩]
      else .ok [] := by
  obtain ⟨e, he, hchain⟩ := h.chain
  -- the chain ends at a column, so it does not matter whether the style looks
  -- through parentheses
  have hcolumn : underlyingColumn style.throughParens e = .ok t.name := by
    rw [underlyingColumn_of_chain hchain, underlyingColumn_of_column h.isColumn]
    rfl
  unfold orderTerm
  rw [show term.nodeClass = .ok (text "Ordered") from h.isNode, he]
  show (underlyingColumn style.throughParens e >>= _) = _
  rw [hcolumn]
  rfl

/-- The nodes are read as these terms. -/
def AreRead (terms : List Value) (ts : List ColumnTerm) : Prop :=
  List.Forall₂ (fun term t => IsRead t term) terms ts

/-- Terms are read one after the other, and the first that fails ends the
reading. -/
theorem readTerms_cons (term : Value) (terms : List Value) :
    readTerms style (term :: terms) =
      orderTerm style term >>= fun first =>
        readTerms style terms >>= fun rest => .ok (first ++ rest) := by
  unfold readTerms
  rw [List.mapM_cons]
  simp only [bind_assoc]
  rfl

/-- The terms that are read are those with a name, if all of these tell a
direction. -/
theorem toOption_readTerms {terms : List Value} {ts : List ColumnTerm}
    (h : AreRead terms ts) :
    (readTerms style terms).toOption =
      (ts.filter isNamed).mapM (read? style) := by
  induction h with
  | nil => rfl
  | @cons term t terms ts hterm _ ih =>
    rw [readTerms_cons, hterm.orderTerm_eq]
    rcases hnamed : t.isNamed with _ | _
    · -- no name, no entry: whether a direction is told is not even asked
      rw [List.filter_cons_of_neg (by simp [hnamed]), ← ih]
      rcases readTerms style terms with f | rest <;> rfl
    · rw [List.filter_cons_of_pos hnamed, List.mapM_cons, ← ih, read?,
        ← hterm.toOption_direction]
      rcases direction style term with f | d
      · rfl
      · rcases readTerms style terms with f | rest <;> rfl

end ColumnTerm

open ColumnTerm

/-- The order clause of a tree is a list of terms over columns. -/
def OrdersBy (tree : Value) (ts : List ColumnTerm) : Prop :=
  ∃ order terms, tree.arg? "order" = .ok (some order) ∧
    order.partAt ["args", "expressions"] = .ok (list terms) ∧
    AreRead terms ts

variable {tree : Value} {ts : List ColumnTerm}

/-- What is read in a style: the terms with a name, or nothing if one of these
tells no direction. -/
theorem orderTerms_eq_told (h : OrdersBy tree ts) (style : DirectionStyle) :
    orderTerms style tree =
      .ok (((ts.filter isNamed).mapM (read? style)).getD []) := by
  obtain ⟨order, terms, htree, hterms, hread⟩ := h
  have hclause : clauseTerms order = .ok terms := by
    rw [clauseTerms, hterms]
    rfl
  rw [orderTerms_of_clauseTerms htree hclause, toOption_readTerms hread]

section Readings

variable {α β : Type} {f : α → Option β} {g : α → β} {xs : List α}

/-- A reading of all gives all exactly when it gives each. -/
theorem mapM_eq_some_map_iff :
    xs.mapM f = some (xs.map g) ↔ ∀ x ∈ xs, f x = some (g x) := by
  induction xs with
  | nil => simp
  | cons x xs ih =>
    rw [List.mapM_cons, List.forall_mem_cons, ← ih]
    rcases f x with _ | y
    · simp
    · rcases xs.mapM f with _ | ys <;> simp

/-- A reading of all or nothing gives all exactly when it gives each. -/
theorem getD_mapM_eq_map_iff :
    (xs.mapM f).getD [] = xs.map g ↔ ∀ x ∈ xs, f x = some (g x) := by
  rw [← mapM_eq_some_map_iff]
  constructor
  · intro h
    rcases hread : xs.mapM f with _ | ys
    · -- nothing is all only where there is nothing, and then the reading does
      -- not fail
      rw [hread] at h
      obtain rfl : xs = [] := List.map_eq_nil_iff.mp h.symm
      cases hread
    · rw [hread] at h
      exact congrArg some h
  · intro h
    rw [h]
    rfl

end Readings

/-- **When the two styles agree.** Let the order clause of a tree be a list of
terms over columns or aliases of columns. By the flags, the terms with a name
are read in order, each with its direction. By the words, the same terms are
read with the directions that these tell, or nothing if one of them tells none.
So the readings agree exactly when every term with a name tells the same
direction in both styles. If no term has a word, this means that none is
descending. -/
theorem styles_agree_iff (h : OrdersBy tree ts) :
    orderTerms .flag tree =
      .ok ((ts.filter isNamed).map fun t =>
        ⟨t.name, if t.isDescending then "DESC" else "ASC"⟩) ∧
    orderTerms .word tree =
      .ok (((ts.filter isNamed).mapM (read? .word)).getD []) ∧
    (orderTerms .word tree = orderTerms .flag tree ↔
      ∀ t ∈ ts, t.isNamed = true → t.told .word = t.told .flag) ∧
    ((∀ t ∈ ts, t.word = none) →
      (orderTerms .word tree = orderTerms .flag tree ↔
        ∀ t ∈ ts, t.isNamed = true → t.isDescending = false)) := by
  have hflag : orderTerms .flag tree =
      .ok ((ts.filter isNamed).map fun t =>
        ⟨t.name, if t.isDescending then "DESC" else "ASC"⟩) := by
    rw [orderTerms_eq_told h]
    exact congrArg Except.ok (getD_mapM_eq_map_iff.mpr fun _ _ => rfl)
  have hword := orderTerms_eq_told h .word
  -- the names are the same in both readings, so entries are equal when their
  -- directions are
  have hagree : orderTerms .word tree = orderTerms .flag tree ↔
      ∀ t ∈ ts, t.isNamed = true → t.told .word = t.told .flag := by
    rw [hword, hflag, Except.ok.injEq, getD_mapM_eq_map_iff]
    simp only [List.mem_filter, and_imp, read?, Option.map_eq_some_iff,
      OrderTerm.mk.injEq, true_and, exists_eq_right]
    rfl
  refine ⟨hflag, hword, hagree, fun hnone => hagree.trans ?_⟩
  refine forall₂_congr fun t ht => imp_congr_right fun _ => ?_
  rw [told, told, hnone t ht, Option.some.injEq]
  cases t.isDescending <;> decide

/-- A select with an order clause. -/
def orderedSelect (terms : List Value) : Value :=
  node "Select" [("order", node "Order" [("expressions", list terms)])]

theorem ordersBy_orderedSelect {terms : List Value} (h : AreRead terms ts) :
    OrdersBy (orderedSelect terms) ts :=
  ⟨_, terms, rfl, rfl, h⟩

/-- A term over a renamed column without a direction, and one that is descending
by its flag and by its word. -/
def agreeingTerms : List Value :=
  [node "Ordered" [("this", renamedColumn)],
    node "Ordered" [("this", columnNode "price"), ("desc", bool true),
      ("direction", text "desc")]]

theorem ordersBy_agreeingTerms :
    OrdersBy (orderedSelect agreeingTerms)
      [⟨columnNode "Id", none, none⟩,
        ⟨columnNode "price", some (bool true), some (text "desc")⟩] := by
  refine ordersBy_orderedSelect (.cons ?_ (.cons ?_ .nil))
  · exact ⟨isNode_node _ _, isNode_node _ _,
      ⟨renamedColumn, rfl, .single ⟨isNode_node _ _, rfl⟩⟩, rfl, rfl⟩
  · exact ⟨isNode_node _ _, isNode_node _ _,
      ⟨columnNode "price", rfl, .refl⟩, rfl, rfl⟩

/-- Where flags and words agree, so do the readings. -/
theorem styles_agree_agreeingTerms :
    OrdersBy (orderedSelect agreeingTerms)
      [⟨columnNode "Id", none, none⟩,
        ⟨columnNode "price", some (bool true), some (text "desc")⟩] ∧
    orderTerms .flag (orderedSelect agreeingTerms) =
      .ok [⟨text "Id", "ASC"⟩, ⟨text "price", "DESC"⟩] ∧
    orderTerms .word (orderedSelect agreeingTerms) =
      orderTerms .flag (orderedSelect agreeingTerms) := by
  obtain ⟨hflag, -, hagree, -⟩ := styles_agree_iff ordersBy_agreeingTerms
  refine ⟨ordersBy_agreeingTerms, hflag, hagree.mpr fun t ht _ => ?_⟩
  simp only [List.mem_cons, List.not_mem_nil, or_false] at ht
  rcases ht with rfl | rfl
  · rfl
  · have hupper : Text.upper "desc" = "DESC" := by decide +kernel
    exact congrArg some hupper

/-- A term whose flag says descending. -/
def flaggedPrice : Value :=
  node "Ordered" [("this", columnNode "price"), ("desc", bool true)]

/-- A term that is descending by its flag is ascending by the word that it does
not have. -/
theorem flagged_price_read_as_ascending :
    OrdersBy (orderedSelect [flaggedPrice])
      [⟨columnNode "price", some (bool true), none⟩] ∧
    orderTerms .flag (orderedSelect [flaggedPrice]) =
      .ok [⟨text "price", "DESC"⟩] ∧
    orderTerms .word (orderedSelect [flaggedPrice]) =
      .ok [⟨text "price", "ASC"⟩] ∧
    orderTerms .word (orderedSelect [flaggedPrice]) ≠
      orderTerms .flag (orderedSelect [flaggedPrice]) := by
  have horders : OrdersBy (orderedSelect [flaggedPrice])
      [⟨columnNode "price", some (bool true), none⟩] := by
    refine ordersBy_orderedSelect (.cons ?_ .nil)
    exact ⟨isNode_node _ _, isNode_node _ _,
      ⟨columnNode "price", rfl, .refl⟩, rfl, rfl⟩
  have hflag : orderTerms .flag (orderedSelect [flaggedPrice]) =
      .ok [⟨text "price", "DESC"⟩] :=
    orderTerms_eq_told horders .flag
  have hword : orderTerms .word (orderedSelect [flaggedPrice]) =
      .ok [⟨text "price", "ASC"⟩] :=
    orderTerms_eq_told horders .word
  refine ⟨horders, hflag, hword, ?_⟩
  rw [hflag, hword]
  simp

end SqlDiagnosis.RawTree
