import SqlDiagnosis.Proofs.AliasChain
import SqlDiagnosis.RawTree.Order

/-!
# Trees of an unexpected shape

Nothing guarantees the shape of a raw tree, so whoever reads one absorbs faults:
the search for a star those of picking a part and of walking through a value,
the reading of the order clause those of a missing part and of asking for a
member. The faults that are left over are of another family.

* In the search for a star it is the fault of asking an element that is no
  record for its class. It is met unless a star comes first.
* In the reading of the order clause it is the fault of picking a part of a
  value that has none, or of walking through a value that has no elements: the
  clause, its arguments or its list of terms has the wrong shape. Whatever is
  wrong with the terms themselves is absorbed, in either style.
-/

namespace SqlDiagnosis

open Value

/-! ### Families of faults -/

/-- A computation that fails only with faults of one family. -/
def FaultsIn {α : Type} (family : Fault.Family) (x : Except Fault α) : Prop :=
  ∀ f, x = .error f → f.family = family

section FaultsIn

variable {α β : Type} {family : Fault.Family}

theorem faultsIn_ok (a : α) : FaultsIn family (.ok a) := nofun

theorem faultsIn_error {f : Fault} (h : f.family = family) :
    FaultsIn family (.error f : Except Fault α) := by
  rintro f ⟨⟩
  exact h

/-- What runs in sequence fails only with faults of a family if each part
does. -/
theorem FaultsIn.bind {x : Except Fault α} {k : α → Except Fault β}
    (hx : FaultsIn family x) (hk : ∀ a, FaultsIn family (k a)) :
    FaultsIn family (x >>= k) := by
  rcases x with f | a
  · exact faultsIn_error (hx f rfl)
  · exact hk a

theorem FaultsIn.mapM {k : α → Except Fault β}
    (hk : ∀ a, FaultsIn family (k a)) (xs : List α) :
    FaultsIn family (xs.mapM k) := by
  intro f hf
  obtain ⟨x, -, hx⟩ := Answer.exists_of_mapM_error hf
  exact hk x f hx

/-- A fault is left over if its family is not absorbed. -/
theorem absorb_eq_error_iff {families : List Fault.Family} {answer : α}
    {x : Except Fault α} {f : Fault} :
    Fault.absorb families answer x = .error f ↔
      x = .error f ∧ families.contains f.family = false := by
  rcases x with f' | a
  · by_cases hfamily : families.contains f'.family = true
    · rw [Fault.absorb, if_pos hfamily]
      refine iff_of_false nofun ?_
      rintro ⟨⟨⟩, hleft⟩
      rw [hfamily] at hleft
      cases hleft
    · rw [Fault.absorb, if_neg hfamily]
      refine ⟨?_, And.left⟩
      rintro ⟨⟩
      exact ⟨rfl, Bool.eq_false_iff.mpr hfamily⟩
  · exact iff_of_false nofun nofun

/-- Faults of an absorbed family give way to the answer. -/
theorem FaultsIn.absorb {families : List Fault.Family} {answer : α}
    {x : Except Fault α} (hx : FaultsIn family x)
    (hfamily : families.contains family = true) :
    Fault.absorb families answer x = .ok (x.toOption.getD answer) := by
  rcases x with f | a
  · rw [Fault.absorb, hx f rfl, if_pos hfamily]
    rfl
  · rfl

end FaultsIn

/-- Asking for a member fails only where there is no record to ask. -/
theorem faultsIn_member? (v : Value) (key : String) :
    FaultsIn .member (v.member? key) := by
  cases v with
  | record fields => exact faultsIn_ok _
  | _ => exact faultsIn_error rfl

theorem faultsIn_nodeClass (v : Value) : FaultsIn .member v.nodeClass :=
  (faultsIn_member? v "class").bind fun _ => faultsIn_ok _

/-- An argument is a member of a member, so that asking for one fails in the
same way. -/
theorem faultsIn_arg? (v : Value) (key : String) :
    FaultsIn .member (v.arg? key) :=
  ((faultsIn_member? v "args").bind fun _ => faultsIn_ok _).bind fun args =>
    faultsIn_member? args key

/-- A value that has members and parts. -/
def Value.IsRecord (v : Value) : Prop := ∃ fields, v = record fields

/-- What is no record has no parts, and its shape is to blame. -/
theorem part_of_not_isRecord {v : Value} (h : ¬ v.IsRecord) (key : String) :
    ∃ f, v.part key = .error f ∧ f.family = .shape := by
  cases v with
  | record fields => exact absurd ⟨fields, rfl⟩ h
  | _ => exact ⟨_, rfl, rfl⟩

theorem part_record_of_some {fields : List (String × Value)} {key : String}
    {v : Value} (h : fields.lookup key = some v) :
    (record fields).part key = .ok v := by
  rw [part, h]

theorem part_record_of_none {fields : List (String × Value)} {key : String}
    (h : fields.lookup key = none) :
    (record fields).part key = .error (.noKey key) := by
  rw [part, h]

/-- Walking through a value fails only because of its shape. -/
theorem faultsIn_elements (v : Value) : FaultsIn .shape v.elements := by
  cases v with
  | list _ | text _ | record _ => exact faultsIn_ok _
  | _ => exact faultsIn_error rfl

namespace RawTree

/-! ### Order terms -/

/-- The search for the column behind an expression asks for arguments and for
nothing else. -/
theorem faultsIn_underlyingColumn (throughParens : Bool) (v : Value) :
    FaultsIn .member (underlyingColumn throughParens v) := by
  -- the cases are those of the search: it ends, fails at an argument, or goes
  -- on with what is behind an alias
  fun_induction underlyingColumn throughParens v with
  | case1 => exact faultsIn_ok _
  | case2 fields _ _ _ f hthis =>
    exact faultsIn_error (faultsIn_arg? _ _ f hthis)
  | case3 => exact faultsIn_ok _
  | case4 _ _ _ _ _ _ ih => exact ih
  | case5 => exact faultsIn_ok _
  | case6 => exact faultsIn_ok _

/-- A word of any other type than text is asked for a member that it lacks. -/
theorem faultsIn_direction (style : DirectionStyle) (term : Value) :
    FaultsIn .member (direction style term) := by
  cases style with
  | flag => exact (faultsIn_arg? term "desc").bind fun _ => faultsIn_ok _
  | word =>
    refine (faultsIn_arg? term "direction").bind fun word => ?_
    split
    · exact faultsIn_ok _
    · exact faultsIn_error rfl

theorem faultsIn_orderTerm (style : DirectionStyle) (term : Value) :
    FaultsIn .member (orderTerm style term) := by
  refine (faultsIn_nodeClass term).bind fun nodeClass => ?_
  split
  · exact faultsIn_ok _
  · refine (faultsIn_arg? term "this").bind fun inner => ?_
    refine (faultsIn_underlyingColumn _ _).bind fun column => ?_
    split
    · exact (faultsIn_direction style term).bind fun _ => faultsIn_ok _
    · exact faultsIn_ok _

/-- The terms of an order clause. -/
def clauseTerms (order : Value) : Except Fault (List Value) :=
  order.partAt ["args", "expressions"] >>= elements

/-- The order terms of a list of nodes. -/
def readTerms (style : DirectionStyle) (terms : List Value) :
    Except Fault (List OrderTerm) :=
  terms.mapM (orderTerm style) >>= fun found => .ok found.flatten

/-- Whatever is wrong with the terms of an order clause, it shows as a member
that is missing. -/
theorem faultsIn_readTerms (style : DirectionStyle) (terms : List Value) :
    FaultsIn .member (readTerms style terms) :=
  (FaultsIn.mapM (faultsIn_orderTerm style) terms).bind fun _ => faultsIn_ok _

/-- If a tree can be asked for its order clause, the only faults that can be
left over are those of reading the clause. -/
theorem orderTerms_eq {tree : Value} {found : Option Value}
    (h : tree.arg? "order" = .ok found) (style : DirectionStyle) :
    orderTerms style tree =
      if (found.getD null).truthy then
        Fault.absorb [.key, .member] []
          (clauseTerms (found.getD null) >>= readTerms style)
      else .ok [] := by
  unfold orderTerms
  rcases htree : tree.truthy with _ | _
  · -- the only record that counts as false is the empty one, which has no order
    -- clause
    have hfound : found = none := by
      cases tree with
      | record fields =>
        obtain rfl : fields = [] := by simpa [truthy] using htree
        exact (Except.ok.inj h).symm
      | _ => cases h
    subst hfound
    rfl
  · rw [h]
    show (if !(found.getD null).truthy then _ else _) = _
    cases (found.getD null).truthy with
    | false => rfl
    | true =>
      rw [clauseTerms, bind_assoc]
      rfl

/-! ### Clauses of the wrong shape -/

/-- What stands in the way to the terms of an order clause, and the fault that
is met there: the clause is no record, its arguments are none, or its terms have
no elements. -/
inductive Misshapen : Value → Fault → Prop
  | clause {order : Value} {f : Fault} :
      ¬ order.IsRecord → order.part "args" = .error f → Misshapen order f
  | args {fields : List (String × Value)} {a : Value} {f : Fault} :
      fields.lookup "args" = some a → ¬ a.IsRecord →
        a.part "expressions" = .error f → Misshapen (record fields) f
  | terms {fields args : List (String × Value)} {e : Value} {f : Fault} :
      fields.lookup "args" = some (record args) →
        args.lookup "expressions" = some e → e.elements = .error f →
        Misshapen (record fields) f

theorem clauseTerms_eq (order : Value) :
    clauseTerms order = order.part "args" >>= fun args =>
      args.part "expressions" >>= elements := by
  simp [clauseTerms, partAt]

/-- A clause of the wrong shape fails where its shape is wrong. -/
theorem clauseTerms_of_misshapen {order : Value} {f : Fault}
    (h : Misshapen order f) :
    clauseTerms order = .error f ∧ f.family = .shape := by
  rw [clauseTerms_eq]
  cases h with
  | clause hrecord hpart =>
    obtain ⟨f', hf', hshape⟩ := part_of_not_isRecord hrecord "args"
    cases hpart.symm.trans hf'
    rw [hpart]
    exact ⟨rfl, hshape⟩
  | args hargs hrecord hpart =>
    obtain ⟨f', hf', hshape⟩ := part_of_not_isRecord hrecord "expressions"
    cases hpart.symm.trans hf'
    rw [part_record_of_some hargs, Answer.ok_bind, hpart]
    exact ⟨rfl, hshape⟩
  | terms hargs hterms helements =>
    rw [part_record_of_some hargs, Answer.ok_bind, part_record_of_some hterms,
      Answer.ok_bind, helements]
    exact ⟨rfl, faultsIn_elements _ f helements⟩

/-- On the way to the terms of a clause either a key is missing or the shape is
wrong. -/
theorem clauseTerms_error_inv {order : Value} {f : Fault}
    (h : clauseTerms order = .error f) :
    f.family = .key ∨ Misshapen order f := by
  rw [clauseTerms_eq] at h
  -- record by record on the way down: what is no record has the wrong shape,
  -- what is one may lack the key
  by_cases horder : order.IsRecord
  · obtain ⟨fields, rfl⟩ := horder
    rcases hargs : fields.lookup "args" with _ | a
    · rw [part_record_of_none hargs] at h
      cases h
      exact .inl rfl
    · rw [part_record_of_some hargs, Answer.ok_bind] at h
      by_cases ha : a.IsRecord
      · obtain ⟨args, rfl⟩ := ha
        rcases hterms : args.lookup "expressions" with _ | e
        · rw [part_record_of_none hterms] at h
          cases h
          exact .inl rfl
        · rw [part_record_of_some hterms, Answer.ok_bind] at h
          exact .inr (.terms hargs hterms h)
      · obtain ⟨f', hf', -⟩ := part_of_not_isRecord ha "expressions"
        rw [hf'] at h
        cases h
        exact .inr (.args hargs ha hf')
  · obtain ⟨f', hf', -⟩ := part_of_not_isRecord horder "args"
    rw [hf'] at h
    cases h
    exact .inr (.clause horder hf')

/-- A clause whose terms can be read counts as true. -/
theorem truthy_of_clauseTerms {order : Value} {terms : List Value}
    (h : clauseTerms order = .ok terms) :
    order.truthy = true := by
  rw [clauseTerms_eq] at h
  obtain ⟨args, hargs, -⟩ := Answer.bind_eq_ok_iff.mp h
  cases order with
  | record fields =>
    cases fields with
    | nil => cases hargs
    | cons => rfl
  | _ => cases hargs

/-- Whatever is wrong with the terms of a clause is absorbed. -/
theorem orderTerms_of_clauseTerms {tree order : Value} {terms : List Value}
    (htree : tree.arg? "order" = .ok (some order))
    (hterms : clauseTerms order = .ok terms) (style : DirectionStyle) :
    orderTerms style tree = .ok ((readTerms style terms).toOption.getD []) := by
  rw [orderTerms_eq htree, Option.getD_some,
    if_pos (truthy_of_clauseTerms hterms), hterms]
  exact (faultsIn_readTerms style terms).absorb rfl

/-- The reading of an order clause fails exactly when the clause is not empty
and has the wrong shape. -/
theorem orderTerms_eq_error_iff {tree : Value} {found : Option Value}
    (htree : tree.arg? "order" = .ok found) (style : DirectionStyle)
    (f : Fault) :
    orderTerms style tree = .error f ↔ ∃ order, found = some order ∧
      order.truthy = true ∧ Misshapen order f := by
  rw [orderTerms_eq htree]
  constructor
  · intro h
    split at h
    · rename_i htruthy
      rcases found with _ | order
      · cases htruthy
      · refine ⟨order, rfl, htruthy, ?_⟩
        obtain ⟨hfault, hleft⟩ := absorb_eq_error_iff.mp h
        rw [Option.getD_some] at hfault
        rcases hterms : clauseTerms order with f' | terms
        · rw [hterms] at hfault
          cases hfault
          rcases clauseTerms_error_inv hterms with hkey | hshape
          · rw [hkey] at hleft
            cases hleft
          · exact hshape
        · -- behind the list of terms there are only faults of a family that is
          -- absorbed
          rw [hterms, Answer.ok_bind] at hfault
          rw [faultsIn_readTerms style terms f hfault] at hleft
          cases hleft
    · cases h
  · rintro ⟨order, rfl, htruthy, hshape⟩
    obtain ⟨hterms, hfamily⟩ := clauseTerms_of_misshapen hshape
    rw [Option.getD_some, if_pos htruthy, absorb_eq_error_iff, hterms, hfamily]
    exact ⟨rfl, rfl⟩

/-! ### Stars -/

/-- Records that are no stars, so that a search passes them. -/
def Passed (nodes : List Value) : Prop :=
  ∀ node ∈ nodes, node.IsRecord ∧ ¬ IsNode "Star" node

theorem anyStar_cons_of_star {node : Value} (h : IsNode "Star" node)
    (rest : List Value) :
    anyStar (node :: rest) = .ok true := by
  rw [anyStar, show node.nodeClass = .ok (text "Star") from h, Answer.ok_bind]
  rfl

/-- The search for a star fails at an element that is no record, as it asks for
its class. -/
theorem anyStar_cons_of_not_isRecord {node : Value} (h : ¬ node.IsRecord)
    (rest : List Value) :
    anyStar (node :: rest) = .error (.noMember node.shape "get") := by
  cases node with
  | record fields => exact absurd ⟨fields, rfl⟩ h
  | _ => rfl

theorem anyStar_cons_of_passed {node : Value} (hrecord : node.IsRecord)
    (hstar : ¬ IsNode "Star" node) (rest : List Value) :
    anyStar (node :: rest) = anyStar rest := by
  obtain ⟨fields, rfl⟩ := hrecord
  have hclass : ((fields.lookup "class").getD null).isText "Star" = false :=
    Bool.eq_false_iff.mpr fun h =>
      hstar (isNode_record_iff.mpr (isText_iff.mp h))
  show (if ((fields.lookup "class").getD null).isText "Star" then _ else _) = _
  rw [hclass]
  rfl

/-- What is passed does not matter for the search. -/
theorem anyStar_append {before : List Value} (h : Passed before)
    (rest : List Value) :
    anyStar (before ++ rest) = anyStar rest := by
  -- the search takes one step for each node that is passed
  induction before with
  | nil => rfl
  | cons node before ih =>
    obtain ⟨⟨hrecord, hstar⟩, hbefore⟩ := List.forall_mem_cons.mp h
    rw [List.cons_append, anyStar_cons_of_passed hrecord hstar, ih hbefore]

/-- The search for a star comes to a node: all nodes before it are passed. -/
def Reaches (nodes : List Value) (node : Value) : Prop :=
  ∃ before after, nodes = before ++ node :: after ∧ Passed before

/-- A search passes all nodes, or it comes to a first one that it does not
pass. -/
theorem passed_or_reaches (nodes : List Value) :
    Passed nodes ∨ ∃ node, Reaches nodes node ∧
      (IsNode "Star" node ∨ ¬ node.IsRecord) := by
  induction nodes with
  | nil => exact .inl nofun
  | cons node rest ih =>
    -- the first node is passed, and the rest decides; or the search ends right
    -- here
    by_cases hnode : node.IsRecord ∧ ¬ IsNode "Star" node
    · rcases ih with hrest | ⟨next, ⟨before, after, rfl, hbefore⟩, hnext⟩
      · exact .inl (List.forall_mem_cons.mpr ⟨hnode, hrest⟩)
      · have hpassed : Passed (node :: before) :=
          List.forall_mem_cons.mpr ⟨hnode, hbefore⟩
        exact .inr ⟨next, ⟨node :: before, after, rfl, hpassed⟩, hnext⟩
    · rw [not_and_or, not_not] at hnode
      exact .inr ⟨node, ⟨[], rest, rfl, nofun⟩, hnode.symm⟩

/-- The search for a star fails exactly when it comes to something other than a
record. -/
theorem anyStar_eq_error_iff {nodes : List Value} {f : Fault} :
    anyStar nodes = .error f ↔ ∃ node, Reaches nodes node ∧ ¬ node.IsRecord ∧
      f = .noMember node.shape "get" := by
  constructor
  · intro h
    rcases passed_or_reaches nodes with hpassed | ⟨node, hreaches, hnode⟩
    · have hnone := anyStar_append hpassed []
      rw [List.append_nil, h] at hnone
      cases hnone
    · refine ⟨node, hreaches, ?_⟩
      obtain ⟨before, after, rfl, hbefore⟩ := hreaches
      rw [anyStar_append hbefore] at h
      rcases hnode with hstar | hrecord
      · rw [anyStar_cons_of_star hstar] at h
        cases h
      · rw [anyStar_cons_of_not_isRecord hrecord] at h
        cases h
        exact ⟨hrecord, rfl⟩
  · rintro ⟨node, ⟨before, after, rfl, hbefore⟩, hrecord, rfl⟩
    rw [anyStar_append hbefore, anyStar_cons_of_not_isRecord hrecord]

/-- In the select list there is something other than a record before the first
star. -/
def StarBlocked (args : List (String × Value)) (node : Value) : Prop :=
  ∃ e nodes, args.lookup "expressions" = some e ∧ e.elements = .ok nodes ∧
    Reaches nodes node ∧ ¬ node.IsRecord

/-- There is an order clause that is not empty, and it has the wrong shape. -/
def OrderBlocked (args : List (String × Value)) (f : Fault) : Prop :=
  ∃ order, args.lookup "order" = some order ∧ order.truthy = true ∧
    Misshapen order f

section Tree

variable {fields args : List (String × Value)}

theorem selectsStar_eq (hargs : fields.lookup "args" = some (record args)) :
    selectsStar (record fields) =
      Fault.absorb [.key, .shape] false
        ((record args).part "expressions" >>= elements >>= anyStar) := by
  have htruthy : (record fields).truthy = true := by
    cases fields with
    | nil => cases hargs
    | cons => rfl
  unfold selectsStar
  rw [htruthy]
  simp [partAt, part_record_of_some hargs]

/-- Of the faults in the search of a tree for a star, only those of the select
list itself are left over. -/
theorem selectsStar_eq_error_iff
    (hargs : fields.lookup "args" = some (record args)) (f : Fault) :
    selectsStar (record fields) = .error f ↔ ∃ node, StarBlocked args node ∧
      f = .noMember node.shape "get" := by
  rw [selectsStar_eq hargs, absorb_eq_error_iff]
  constructor
  · rintro ⟨hfault, hleft⟩
    rcases he : args.lookup "expressions" with _ | e
    · -- a missing select list is absorbed, and so is one that cannot be walked
      -- through
      rw [part_record_of_none he] at hfault
      cases hfault
      cases hleft
    · rw [part_record_of_some he, Answer.ok_bind] at hfault
      rcases hnodes : e.elements with f' | nodes
      · rw [hnodes] at hfault
        cases hfault
        rw [faultsIn_elements e f hnodes] at hleft
        cases hleft
      · rw [hnodes, Answer.ok_bind, anyStar_eq_error_iff] at hfault
        obtain ⟨node, hreaches, hrecord, rfl⟩ := hfault
        exact ⟨node, ⟨e, nodes, he, hnodes, hreaches, hrecord⟩, rfl⟩
  · rintro ⟨node, ⟨e, nodes, he, hnodes, hreaches, hrecord⟩, rfl⟩
    rw [part_record_of_some he, Answer.ok_bind, hnodes, Answer.ok_bind,
      anyStar_eq_error_iff]
    exact ⟨⟨node, hreaches, hrecord, rfl⟩, rfl⟩

/-- **What is not absorbed.** Let a tree be a record whose arguments are a
record, with anything below. The search for a star returns exactly when all
elements of the select list before the first star are records; otherwise it
fails by asking the first one that is not for its class. The reading of the
order clause returns, in either style, exactly when there is no such clause, or
it is empty, or it has the right shape down to its list of terms; otherwise it
fails at the first value of the wrong shape. -/
theorem readers_return_iff (hargs : fields.lookup "args" = some (record args)) :
    ((∃ answer, selectsStar (record fields) = .ok answer) ↔
      ∀ node, ¬ StarBlocked args node) ∧
    (∀ f, selectsStar (record fields) = .error f ↔
      ∃ node, StarBlocked args node ∧ f = .noMember node.shape "get") ∧
    ∀ style, ((∃ terms, orderTerms style (record fields) = .ok terms) ↔
      ∀ f, ¬ OrderBlocked args f) ∧
      ∀ f, orderTerms style (record fields) = .error f ↔
        OrderBlocked args f := by
  have hstar := selectsStar_eq_error_iff hargs
  have htree : (record fields).arg? "order" = .ok (args.lookup "order") := by
    simp [arg?, nodeArgs, member?, hargs]
  -- the arguments of the tree are a record, so asking for the order clause
  -- succeeds
  have horder : ∀ style f, orderTerms style (record fields) = .error f ↔
      OrderBlocked args f :=
    fun style f => orderTerms_eq_error_iff htree style f
  refine ⟨?_, hstar, fun style => ⟨?_, horder style⟩⟩
  · rw [Answer.exists_ok_iff]
    constructor
    · intro hreturns node hblocked
      exact hreturns _ ((hstar _).mpr ⟨node, hblocked, rfl⟩)
    · intro hfree f hf
      obtain ⟨node, hblocked, -⟩ := (hstar f).mp hf
      exact hfree node hblocked
  · rw [Answer.exists_ok_iff]
    exact forall_congr' fun f => not_congr (horder style f)

end Tree

/-- The arguments of a select of a column and a text. -/
def columnAndText : List (String × Value) :=
  [("expressions", list [columnNode "id", text "price"])]

/-- The column is passed in the search for a star, and the text stands in its
way. -/
theorem text_blocks_star :
    [("class", text "Select"), ("args", record columnAndText)].lookup "args" =
      some (record columnAndText) ∧
      StarBlocked columnAndText (text "price") ∧
      selectsStar (node "Select" columnAndText) =
        .error (.noMember "str" "get") := by
  have hpassed : Passed [columnNode "id"] := by
    intro v hv
    obtain rfl := List.mem_singleton.mp hv
    exact ⟨⟨_, rfl⟩,
      fun hstar => absurd (isNode_unique hstar (isNode_node "Column" _))
        (by decide)⟩
  have hblocked : StarBlocked columnAndText (text "price") :=
    ⟨_, _, rfl, rfl, ⟨[columnNode "id"], [], rfl, hpassed⟩, by rintro ⟨_, ⟨⟩⟩⟩
  exact ⟨rfl, hblocked, ((readers_return_iff rfl).2.1 _).mpr ⟨_, hblocked, rfl⟩⟩

/-- A text in a select list and a text in place of an order clause are not
absorbed. -/
theorem texts_not_absorbed :
    selectsStar (node "Select" [("expressions", list [text "id"])]) =
      .error (.noMember "str" "get") ∧
    orderTerms .flag (node "Select" [("order", text "id")]) =
      .error .textByName ∧
    orderTerms .word (node "Select" [("order", text "id")]) =
      .error .textByName :=
  ⟨rfl, rfl, rfl⟩

end RawTree

end SqlDiagnosis
