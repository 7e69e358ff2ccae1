import Mathlib.Logic.Relation
import SqlDiagnosis.Proofs.Answer
import SqlDiagnosis.RawTree.Column

/-!
# Looking through aliases

The column behind an expression is found by following a chain of aliases. The
*long* search goes on when the chain comes to parentheses, the *short* one gives
up there and finds no column. So the two differ only on chains that reach
parentheses (`underlyingColumn_of_not_reachesParen`), and on these the short
search finds null whatever the long one finds
(`underlyingColumn_of_reachesParen`). Until then they do the same steps, so what
makes the short search fail makes the long one fail.

For a select list this means that the names found by the short search are some
of those found by the long one.
-/

namespace SqlDiagnosis.RawTree

open Value

variable {v w : Value} {throughParens : Bool} {name : String}

/-! ### Nodes by their class -/

/-- A record of the given class. -/
def IsNode (name : String) (v : Value) : Prop := v.nodeClass = .ok (text name)

theorem isText_iff {s : String} : v.isText s = true ↔ v = text s := by
  cases v <;> simp [isText]

theorem isNode_record_iff {fields : List (String × Value)} :
    IsNode name (record fields) ↔
      (fields.lookup "class").getD null = text name :=
  ⟨Except.ok.inj, congrArg Except.ok⟩

theorem exists_record_of_isNode (h : IsNode name v) :
    ∃ fields, v = record fields ∧
      (fields.lookup "class").getD null = text name := by
  cases v with
  | record fields => exact ⟨fields, rfl, isNode_record_iff.mp h⟩
  | _ => cases h

/-- A node has one class only. -/
theorem isNode_unique {other : String} (h : IsNode name v)
    (h' : IsNode other v) : name = other := by
  obtain ⟨fields, rfl, hclass⟩ := exists_record_of_isNode h
  rw [isNode_record_iff, hclass] at h'
  exact text.inj h'

/-- The search looks through aliases, and through parentheses if it is the long
one. -/
theorem isWrapper_iff :
    isWrapper throughParens v = true ↔
      v = text "Alias" ∨ throughParens = true ∧ v = text "Paren" := by
  rw [isWrapper, Bool.or_eq_true, Bool.and_eq_true, isText_iff, isText_iff]

/-! ### One step of the search -/

theorem underlyingColumn_null :
    underlyingColumn throughParens null = .ok null := by
  rw [underlyingColumn]
  simp

/-- At a column the search ends with its name. -/
theorem underlyingColumn_of_column (h : IsNode "Column" v) :
    underlyingColumn throughParens v = .ok (columnName v) := by
  obtain ⟨fields, rfl, hclass⟩ := exists_record_of_isNode h
  rw [underlyingColumn]
  simp [hclass, isText]

/-- Behind an alias, and behind parentheses if these are looked through, the
search goes on. -/
theorem underlyingColumn_of_wrapper (h : IsNode name v)
    (hwrapper : isWrapper throughParens (text name) = true) :
    underlyingColumn throughParens v =
      v.arg? "this" >>= fun inner =>
        underlyingColumn throughParens (inner.getD null) := by
  obtain ⟨fields, rfl, hclass⟩ := exists_record_of_isNode h
  have hcolumn : (text name).isText "Column" = false := by
    refine Bool.eq_false_iff.mpr fun hname => ?_
    rw [isText_iff.mp hname, isWrapper_iff] at hwrapper
    simp at hwrapper
  rw [underlyingColumn]
  simp only [hclass, hcolumn, hwrapper, Bool.false_eq_true, if_false, if_true]
  -- the argument is read first: this may fail, find nothing, or find where to
  -- go on
  split
  · rename_i f hthis
    rw [hthis, Answer.error_bind]
  · rename_i hthis
    rw [hthis, Answer.ok_bind, Option.getD_none, underlyingColumn_null]
  · rename_i inner hthis
    rw [hthis, Answer.ok_bind, Option.getD_some]

theorem underlyingColumn_of_alias (h : IsNode "Alias" v) :
    underlyingColumn throughParens v =
      v.arg? "this" >>= fun inner =>
        underlyingColumn throughParens (inner.getD null) :=
  underlyingColumn_of_wrapper h (isWrapper_iff.mpr (.inl rfl))

/-- Behind anything else no column is looked for. -/
theorem underlyingColumn_of_other (hcolumn : ¬ IsNode "Column" v)
    (halias : ¬ IsNode "Alias" v)
    (hparen : throughParens = true → ¬ IsNode "Paren" v) :
    underlyingColumn throughParens v = .ok null := by
  cases v with
  | record fields =>
    rw [isNode_record_iff, ← isText_iff] at hcolumn
    have hwrapper : ¬ isWrapper throughParens
        ((fields.lookup "class").getD null) = true := by
      rw [isWrapper_iff]
      rintro (hclass | ⟨hthrough, hclass⟩)
      · exact halias (isNode_record_iff.mpr hclass)
      · exact hparen hthrough (isNode_record_iff.mpr hclass)
    rw [underlyingColumn, if_neg hcolumn, if_neg hwrapper]
  | _ =>
    rw [underlyingColumn]
    simp

/-! ### Chains of aliases -/

/-- The first node is an alias of the second. -/
def IsAliasOf (v w : Value) : Prop :=
  IsNode "Alias" v ∧ v.arg? "this" = .ok (some w)

/-- On the chain of aliases from an expression there are parentheses. -/
def ReachesParen (v : Value) : Prop :=
  ∃ w, Relation.ReflTransGen IsAliasOf v w ∧ IsNode "Paren" w

/-- Chains of aliases end. -/
theorem alias_induction {motive : Value → Prop}
    (step : ∀ v, (∀ w, IsAliasOf v w → motive w) → motive v) (v : Value) :
    motive v :=
  step v fun w _ => alias_induction step w
termination_by sizeOf v
decreasing_by
  rename_i h
  exact sizeOf_arg?_lt h.2

theorem ReachesParen.of_alias (h : IsAliasOf v w) (hparen : ReachesParen w) :
    ReachesParen v := by
  obtain ⟨u, hchain, hu⟩ := hparen
  exact ⟨u, .head h hchain, hu⟩

/-- An alias has the column of what it stands for. -/
theorem underlyingColumn_of_isAliasOf (h : IsAliasOf v w) :
    underlyingColumn throughParens v = underlyingColumn throughParens w := by
  rw [underlyingColumn_of_alias h.1, h.2, Answer.ok_bind, Option.getD_some]

/-- What is found behind an expression is what is found anywhere on its
chain. -/
theorem underlyingColumn_of_chain (h : Relation.ReflTransGen IsAliasOf v w) :
    underlyingColumn throughParens v = underlyingColumn throughParens w := by
  induction h with
  | refl => rfl
  | tail _ hstep ih => rw [ih, underlyingColumn_of_isAliasOf hstep]

/-- The short search finds nothing behind parentheses. -/
theorem underlyingColumn_of_reachesParen (h : ReachesParen v) :
    underlyingColumn false v = .ok null := by
  obtain ⟨w, hchain, hw⟩ := h
  have hcolumn : ¬ IsNode "Column" w :=
    fun hcolumn => absurd (isNode_unique hcolumn hw) (by decide)
  have halias : ¬ IsNode "Alias" w :=
    fun halias => absurd (isNode_unique halias hw) (by decide)
  rw [underlyingColumn_of_chain hchain,
    underlyingColumn_of_other hcolumn halias (by simp)]

/-- Where there are no parentheses, both searches do the same. -/
theorem underlyingColumn_of_not_reachesParen (h : ¬ ReachesParen v) :
    underlyingColumn false v = underlyingColumn true v := by
  -- along the chain: at each node both searches do the same step, and they
  -- could part only at parentheses
  induction v using alias_induction with
  | step v ih =>
    by_cases hcolumn : IsNode "Column" v
    · rw [underlyingColumn_of_column hcolumn,
        underlyingColumn_of_column hcolumn]
    by_cases halias : IsNode "Alias" v
    · rcases hthis : v.arg? "this" with f | _ | inner
      · rw [underlyingColumn_of_alias halias, underlyingColumn_of_alias halias,
          hthis, Answer.error_bind, Answer.error_bind]
      · rw [underlyingColumn_of_alias halias, underlyingColumn_of_alias halias,
          hthis, Answer.ok_bind, Answer.ok_bind, Option.getD_none,
          underlyingColumn_null, underlyingColumn_null]
      · have hstep : IsAliasOf v inner := ⟨halias, hthis⟩
        have hinner : ¬ ReachesParen inner := fun hparen =>
          h (hparen.of_alias hstep)
        rw [underlyingColumn_of_isAliasOf hstep,
          underlyingColumn_of_isAliasOf hstep, ih inner hstep hinner]
    · have hparen : ¬ IsNode "Paren" v := fun hparen => h ⟨v, .refl, hparen⟩
      rw [underlyingColumn_of_other hcolumn halias fun _ => hparen,
        underlyingColumn_of_other hcolumn halias fun _ => hparen]

/-! ### Select lists -/

section SelectList

variable {node : Value} {nodes found : List Value} {names : List String}

/-- An expression behind which there is no column is left out. -/
theorem loweredColumns_cons_of_not_truthy
    (h : underlyingColumn false node = .ok v) (hv : v.truthy = false) :
    loweredColumns (node :: nodes) = loweredColumns nodes := by
  rw [loweredColumns, h, Answer.ok_bind, hv]
  rfl

theorem loweredColumns_cons_of_text {s : String} {lows : List Value}
    (h : underlyingColumn false node = .ok (text s))
    (hs : (text s).truthy = true) (hlows : loweredColumns nodes = .ok lows) :
    loweredColumns (node :: nodes) = .ok (text (Text.lower s) :: lows) := by
  rw [loweredColumns, h, Answer.ok_bind, hs, hlows]
  rfl

/-- The names found by the short search are some of those found by the long one,
put in lower case, and all of them if there are no parentheses. -/
theorem exists_loweredColumns
    (hfound : nodes.mapM (underlyingColumn true) = .ok found)
    (hnames : found.filter truthy = names.map text) :
    ∃ lows, loweredColumns nodes = .ok lows ∧
      lows.Sublist (names.map (text ∘ Text.lower)) ∧
      ((∀ node ∈ nodes, ¬ ReachesParen node) →
        lows = names.map (text ∘ Text.lower)) := by
  rw [Answer.mapM_eq_ok_iff] at hfound
  induction hfound generalizing names with
  | nil =>
    obtain rfl := List.map_eq_nil_iff.mp hnames.symm
    exact ⟨[], rfl, .slnil, fun _ => rfl⟩
  | @cons node v nodes found hnode _ ih =>
    rcases hv : v.truthy with _ | _
    · -- an expression without a name adds nothing to either list
      rw [List.filter_cons_of_neg (by simp [hv])] at hnames
      obtain ⟨lows, hlows, hsub, hall⟩ := ih hnames
      have hnull : ∃ u, underlyingColumn false node = .ok u ∧
          u.truthy = false := by
        by_cases hparen : ReachesParen node
        · exact ⟨null, underlyingColumn_of_reachesParen hparen, rfl⟩
        · exact ⟨v, (underlyingColumn_of_not_reachesParen hparen).trans hnode,
            hv⟩
      obtain ⟨u, hu, hfalse⟩ := hnull
      refine ⟨lows, (loweredColumns_cons_of_not_truthy hu hfalse).trans hlows,
        hsub, fun hnone => ?_⟩
      exact hall (List.forall_mem_cons.mp hnone).2
    · rw [List.filter_cons_of_pos hv] at hnames
      obtain ⟨s, names, rfl, rfl, hrest⟩ := List.map_eq_cons_iff.mp hnames.symm
      obtain ⟨lows, hlows, hsub, hall⟩ := ih hrest.symm
      by_cases hparen : ReachesParen node
      · -- the name is found by the long search only
        have hnull := underlyingColumn_of_reachesParen hparen
        refine ⟨lows, (loweredColumns_cons_of_not_truthy hnull rfl).trans hlows,
          hsub.cons _, fun hnone => ?_⟩
        exact absurd hparen (List.forall_mem_cons.mp hnone).1
      · have hsame := (underlyingColumn_of_not_reachesParen hparen).trans hnode
        refine ⟨_, loweredColumns_cons_of_text hsame hv hlows, hsub.cons_cons _,
          fun hnone => ?_⟩
        rw [hall (List.forall_mem_cons.mp hnone).2]
        rfl

/-- If the long search gives names for the select list of a tree, so does the
short one. -/
theorem exists_selectColumnsLowered {tree : Value}
    (hnames : selectColumns true tree = .ok (names.map text)) :
    ∃ lows, selectColumnsLowered tree = .ok lows ∧
      lows.Sublist (names.map (text ∘ Text.lower)) ∧
      ((∀ nodes, selectList tree = .ok nodes →
          ∀ node ∈ nodes, ¬ ReachesParen node) →
        lows = names.map (text ∘ Text.lower)) := by
  unfold selectColumns at hnames
  unfold selectColumnsLowered
  rcases htree : tree.truthy with _ | _
  · rw [htree] at hnames
    obtain rfl : names = [] :=
      List.map_eq_nil_iff.mp (Except.ok.inj hnames).symm
    exact ⟨[], rfl, .slnil, fun _ => rfl⟩
  · rw [htree] at hnames
    obtain ⟨nodes, hnodes, hrest⟩ := Answer.bind_eq_ok_iff.mp hnames
    obtain ⟨found, hfound, hfilter⟩ := Answer.bind_eq_ok_iff.mp hrest
    obtain ⟨lows, hlows, hsub, hall⟩ :=
      exists_loweredColumns hfound (Except.ok.inj hfilter)
    refine ⟨lows, ?_, hsub, fun hnone => hall (hnone nodes hnodes)⟩
    rw [hnodes]
    exact hlows

end SelectList

/-- **The two searches agree up to parentheses.** For every expression: if the
short search finds something, or fails, the long one does the same. The two do
the same in any case if there are no parentheses on the chain of aliases, and if
there are, the short search finds nothing. For every tree: if the long search
gives names for the select list, so does the short one. These are some of the
former in the same order, put in lower case, and all of them if no expression of
the select list reaches parentheses. -/
theorem columns_agree_up_to_parens (v tree : Value) :
    (∀ found, underlyingColumn false v = .ok found → found ≠ null →
      underlyingColumn true v = .ok found) ∧
    (∀ f, underlyingColumn false v = .error f →
      underlyingColumn true v = .error f) ∧
    (¬ ReachesParen v → underlyingColumn false v = underlyingColumn true v) ∧
    (ReachesParen v → underlyingColumn false v = .ok null) ∧
    ∀ names : List String, selectColumns true tree = .ok (names.map text) →
      ∃ lows, selectColumnsLowered tree = .ok lows ∧
        lows.Sublist (names.map (text ∘ Text.lower)) ∧
        ((∀ nodes, selectList tree = .ok nodes →
            ∀ node ∈ nodes, ¬ ReachesParen node) →
          lows = names.map (text ∘ Text.lower)) := by
  have hsame : underlyingColumn false v = .ok null ∨
      underlyingColumn false v = underlyingColumn true v := by
    by_cases hparen : ReachesParen v
    · exact .inl (underlyingColumn_of_reachesParen hparen)
    · exact .inr (underlyingColumn_of_not_reachesParen hparen)
  refine ⟨fun found hfound hne => ?_, fun f hf => ?_,
    underlyingColumn_of_not_reachesParen, underlyingColumn_of_reachesParen,
    fun names => exists_selectColumnsLowered⟩
  · rcases hsame with hnull | hsame
    · exact absurd (Except.ok.inj (hfound.symm.trans hnull)) hne
    · rw [← hsame, hfound]
  · rcases hsame with hnull | hsame
    · cases hf.symm.trans hnull
    · rw [← hsame, hf]

/-! ### Sample nodes -/

/-- A node of a class, with its arguments. -/
def node (name : String) (args : List (String × Value)) : Value :=
  record [("class", text name), ("args", record args)]

theorem isNode_node (name : String) (args : List (String × Value)) :
    IsNode name (node name args) := rfl

theorem arg?_node (name key : String) (args : List (String × Value)) :
    (node name args).arg? key = .ok (args.lookup key) := rfl

/-- A plain column of the given name. -/
def columnNode (name : String) : Value :=
  node "Column" [("this", node "Identifier" [("this", text name)])]

theorem underlyingColumn_columnNode (name : String) :
    underlyingColumn throughParens (columnNode name) = .ok (text name) :=
  underlyingColumn_of_column (isNode_node _ _)

/-- A column under another name. -/
def renamedColumn : Value := node "Alias" [("this", columnNode "Id")]

theorem underlyingColumn_renamedColumn :
    underlyingColumn throughParens renamedColumn = .ok (text "Id") := by
  have hstep : IsAliasOf renamedColumn (columnNode "Id") :=
    ⟨isNode_node _ _, arg?_node _ _ _⟩
  rw [underlyingColumn_of_isAliasOf hstep, underlyingColumn_columnNode]

/-- A select list of a column under another name and a column in parentheses. -/
def mixedSelect : Value :=
  node "Select" [("expressions",
    list [renamedColumn, node "Paren" [("this", columnNode "Price")]])]

theorem selectColumns_mixedSelect :
    selectColumns true mixedSelect = .ok (["Id", "Price"].map text) := by
  have hparen :
      underlyingColumn true (node "Paren" [("this", columnNode "Price")]) =
        .ok (text "Price") := by
    rw [underlyingColumn_of_wrapper (isNode_node _ _) (by decide), arg?_node,
      Answer.ok_bind]
    exact underlyingColumn_columnNode "Price"
  have hfound :
      [renamedColumn, node "Paren" [("this", columnNode "Price")]].mapM
        (underlyingColumn true) = .ok [text "Id", text "Price"] :=
    Answer.mapM_eq_ok_iff.mpr
      (.cons underlyingColumn_renamedColumn (.cons hparen .nil))
  show ([renamedColumn, node "Paren" [("this", columnNode "Price")]].mapM
    (underlyingColumn true) >>= fun columns =>
      .ok (columns.filter truthy)) = _
  rw [hfound]
  rfl

/-- A column under another name is found by both searches, and one in
parentheses by the long one. -/
theorem mixedSelect_agree :
    underlyingColumn false renamedColumn = .ok (text "Id") ∧
    underlyingColumn true renamedColumn = .ok (text "Id") ∧
    selectColumns true mixedSelect = .ok (["Id", "Price"].map text) ∧
    ∃ lows, selectColumnsLowered mixedSelect = .ok lows ∧
      lows.Sublist [text "id", text "price"] := by
  have hfound : underlyingColumn false renamedColumn = .ok (text "Id") :=
    underlyingColumn_renamedColumn
  obtain ⟨hsame, -, -, -, hlist⟩ :=
    columns_agree_up_to_parens renamedColumn mixedSelect
  obtain ⟨lows, hlows, hsub, -⟩ := hlist _ selectColumns_mixedSelect
  have hlower : ["Id", "Price"].map (text ∘ Text.lower) =
      [text "id", text "price"] := by rfl
  refine ⟨hfound, hsame _ hfound (by simp), selectColumns_mixedSelect,
    lows, hlows, ?_⟩
  rwa [hlower] at hsub

end SqlDiagnosis.RawTree
