import Mathlib.Data.List.Nodup
import Mathlib.Data.Set.List
import SqlDiagnosis.Proofs.Sameness
import SqlDiagnosis.Proofs.TableCollection

/-!
# The tables of a tree as a union

The tables of a tree are collected from its FROM node and then from its joins
into one list, of which each member is kept once. Since collecting only appends,
this is the union of what these nodes add, each on its own (`fromTables_eq`). So
as long as the tables are named by texts, of which two are the same only if they
are equal, neither the order of the joins nor their number matters.
-/

namespace SqlDiagnosis.RawTree

open Value

variable {withAlias : Bool} {v : Value} {name : Value}

/-! ### Texts as a set -/

/-- While texts are walked through, what is kept are the texts seen so far, each
once. -/
theorem exists_kept_texts (names seen : List String) (hseen : seen.Nodup) :
    ∃ kept : List String,
      (names.map text).foldl
          (fun seen v => if seen.any (same v) then seen else seen ++ [v])
          (seen.map text) = kept.map text ∧
        kept.Nodup ∧ ∀ s, s ∈ kept ↔ s ∈ seen ∨ s ∈ names := by
  induction names generalizing seen with
  | nil => exact ⟨seen, rfl, hseen, by simp⟩
  | cons name names ih =>
    have hany :
        (seen.map text).any (same (text name)) = true ↔ name ∈ seen := by
      simp [List.any_eq_true]
    rw [List.map_cons, List.foldl_cons]
    by_cases hmem : name ∈ seen
    · obtain ⟨kept, hkept, hnodup, hall⟩ := ih seen hseen
      refine ⟨kept, ?_, hnodup, fun s => ?_⟩
      · rw [if_pos (hany.mpr hmem), hkept]
      · rw [hall, List.mem_cons]
        constructor
        · exact Or.imp_right .inr
        · rintro (hs | rfl | hs)
          · exact .inl hs
          · exact .inl hmem
          · exact .inr hs
    · have hnext : (seen ++ [name]).Nodup := by
        rw [← List.concat_eq_append]
        exact hseen.concat hmem
      obtain ⟨kept, hkept, hnodup, hall⟩ := ih (seen ++ [name]) hnext
      refine ⟨kept, ?_, hnodup, fun s => ?_⟩
      · rw [if_neg (hany.not.mpr hmem), ← hkept, List.map_append]
        rfl
      · rw [hall, List.mem_append, List.mem_singleton, List.mem_cons, or_assoc]

/-- Of texts, each is kept once. -/
theorem exists_distinct_texts (names : List String) :
    ∃ kept : List String, distinct (names.map text) = kept.map text ∧
      kept.Nodup ∧ ∀ s, s ∈ kept ↔ s ∈ names := by
  obtain ⟨kept, hkept, hnodup, hall⟩ :=
    exists_kept_texts names [] List.nodup_nil
  exact ⟨kept, hkept, hnodup, by simpa using hall⟩

/-! ### Trees -/

/-- The arguments of a tree; one that counts as false has none. -/
def treeArgs (tree : Value) : Except Fault Value :=
  if tree.truthy then tree.nodeArgs else .ok (record [])

/-- The node in the FROM clause of a tree, or null. -/
def fromNode (tree : Value) : Except Fault Value := do
  let source := (← (← treeArgs tree).member? "from").getD null
  if source.truthy then return (← source.arg? "this").getD null else return null

/-- The joins of a tree. -/
def joinNodes (tree : Value) : Except Fault (List Value) := do
  elements ((← (← treeArgs tree).member? "joins").getD (list []))

/-- What counts as false holds no tables. -/
theorem collectTables_of_not_truthy (h : v.truthy = false)
    (tables : List Value) :
    collectTables withAlias v tables = .ok tables := by
  cases v with
  | record fields =>
    obtain rfl : fields = [] := by simpa [truthy] using h
    refine collectTables_of_other ?_ ?_ ?_ tables <;> rintro ⟨⟩
  | _ =>
    rw [collectTables]
    simp

/-- The tables of a tree are those of the FROM node and of the joins, each
collected from nothing. -/
theorem fromTables_eq (withAlias : Bool) (tree : Value) :
    fromTables withAlias tree = do
      let added ← collectTables withAlias (← fromNode tree) []
      let news ← (← joinNodes tree).mapM fun join =>
        collectTables withAlias join []
      (added ++ news.flatten).forM hashable
      return distinct (added ++ news.flatten) := by
  unfold fromTables fromNode joinNodes treeArgs
  -- a tree that counts as false has no tables, just as an empty one
  rcases htree : tree.truthy with _ | _
  · show Except.ok [] = collectTables withAlias null [] >>= _
    rw [collectTables_null]
    rfl
  · simp only [Bool.not_true, Bool.false_eq_true, if_false, if_true]
    rcases tree.nodeArgs with f | args
    · rfl
    simp only [Answer.ok_bind]
    rcases args.member? "from" with f | source
    · rfl
    simp only [Answer.ok_bind,
      Appends.foldlM_eq (appends_collectTables withAlias),
      bind_assoc, pure_bind]
    by_cases hsource : (source.getD null).truthy = true
    · simp only [if_pos hsource]
      rcases (source.getD null).arg? "this" with f | main
      · rfl
      -- a FROM node that counts as false is not looked at, but it would add
      -- nothing anyway
      by_cases hmain : (main.getD null).truthy = true
      · simp only [Answer.ok_bind, if_pos hmain, pure_bind]
      · have hnone : collectTables withAlias (main.getD null) [] = .ok [] :=
          collectTables_of_not_truthy (Bool.eq_false_iff.mpr hmain) []
        simp only [Answer.ok_bind, if_neg hmain, pure_bind, hnone]
    · simp only [if_neg hsource, pure_bind, collectTables_null, Answer.ok_bind]

/-- The nodes of a tree from which its tables are collected. -/
def rootNodes (tree : Value) : Except Fault (List Value) :=
  do return (← fromNode tree) :: (← joinNodes tree)

/-- From the nodes of a tree certain tables are collected, node by node. -/
structure Collected (withAlias : Bool) (tree : Value) (nodes : List Value)
    (news : List (List Value)) : Prop where
  roots : rootNodes tree = .ok nodes
  added : nodes.mapM (fun node => collectTables withAlias node []) = .ok news

/-- Every table of a tree has a text as its name. -/
def NamedByTexts (tree : Value) : Prop :=
  ∀ nodes, rootNodes tree = .ok nodes →
    ∀ node ∈ nodes, ∀ name, HasTable false node name → ∃ s, name = text s

/-- The second tree has the FROM node and the joins of the first, the latter in
any order and any number of times. -/
def Rejoined (tree tree' : Value) : Prop :=
  fromNode tree' = fromNode tree ∧
    ∃ joins joins', joinNodes tree = .ok joins ∧ joinNodes tree' = .ok joins' ∧
      ∀ join, join ∈ joins' ↔ join ∈ joins

section Tree

variable {tree tree' : Value} {nodes result : List Value}
  {news : List (List Value)}

/-- When the tables of a tree are returned, and which. -/
theorem fromTables_eq_ok_iff :
    fromTables withAlias tree = .ok result ↔
      ∃ nodes news, Collected withAlias tree nodes news ∧
        (∀ v ∈ news.flatten, v.hashable = .ok ()) ∧
        distinct news.flatten = result := by
  rw [fromTables_eq]
  constructor
  · intro h
    obtain ⟨main, hmain, h⟩ := Answer.bind_eq_ok_iff.mp h
    obtain ⟨added, hadded, h⟩ := Answer.bind_eq_ok_iff.mp h
    obtain ⟨joins, hjoins, h⟩ := Answer.bind_eq_ok_iff.mp h
    obtain ⟨news, hnews, h⟩ := Answer.bind_eq_ok_iff.mp h
    obtain ⟨⟨⟩, hhashable, h⟩ := Answer.bind_eq_ok_iff.mp h
    refine ⟨main :: joins, added :: news, ⟨?_, ?_⟩,
      Answer.forM_eq_ok_iff.mp hhashable, Except.ok.inj h⟩
    · rw [rootNodes, hmain, Answer.ok_bind, hjoins]
      rfl
    · rw [List.mapM_cons, hadded, Answer.ok_bind, hnews]
      rfl
  · rintro ⟨nodes, news, ⟨hroots, hall⟩, hhashable, rfl⟩
    obtain ⟨main, hmain, hroots⟩ := Answer.bind_eq_ok_iff.mp hroots
    obtain ⟨joins, hjoins, hroots⟩ := Answer.bind_eq_ok_iff.mp hroots
    cases hroots
    rw [List.mapM_cons] at hall
    obtain ⟨added, hadded, hall⟩ := Answer.bind_eq_ok_iff.mp hall
    obtain ⟨rest, hrest, hall⟩ := Answer.bind_eq_ok_iff.mp hall
    cases hall
    have hset : (added ++ rest.flatten).forM hashable = .ok () :=
      Answer.forM_eq_ok_iff.mpr hhashable
    rw [hmain, Answer.ok_bind, hadded, Answer.ok_bind, hjoins, Answer.ok_bind,
      hrest, Answer.ok_bind, hset]
    rfl

namespace Collected

/-- If all that is added are texts, these are the tables of the tree, each
once. -/
theorem exists_names (h : Collected withAlias tree nodes news)
    (htexts : ∀ v ∈ news.flatten, ∃ s, v = text s) :
    ∃ names : List String, fromTables withAlias tree = .ok (names.map text) ∧
      names.Nodup ∧ ∀ s, s ∈ names ↔ text s ∈ news.flatten := by
  have hrange : news.flatten ∈ Set.range (List.map text) := by
    rw [Set.range_list_map]
    intro v hv
    obtain ⟨s, rfl⟩ := htexts v hv
    exact ⟨s, rfl⟩
  obtain ⟨found, hfound⟩ := hrange
  obtain ⟨kept, hkept, hnodup, hall⟩ := exists_distinct_texts found
  refine ⟨kept, fromTables_eq_ok_iff.mpr ⟨nodes, news, h, ?_, ?_⟩, hnodup,
    fun s => ?_⟩
  · intro v hv
    obtain ⟨s, rfl⟩ := htexts v hv
    rfl
  · rw [← hfound, hkept]
  · rw [hall, ← hfound]
    simp

/-- With tables that are named by texts, only texts are added. -/
theorem exists_text (h : Collected withAlias tree nodes news)
    (htree : NamedByTexts tree) :
    ∀ v ∈ news.flatten, ∃ s, v = text s := by
  intro v hv
  obtain ⟨node, hnode, new, hnew, hmem⟩ :=
    (Answer.mem_flatten_mapM_iff h.added v).mp hv
  rcases ((mem_iff_hasTable hnew v).mp hmem).text_or with htext | hplain
  · exact htext
  · exact htree nodes h.roots node hnode v hplain

/-- From the same nodes the same tables are collected, in whatever order and
number the nodes come. -/
theorem rejoined (h : Collected withAlias tree nodes news)
    (hrejoined : Rejoined tree tree') :
    ∃ nodes' news', Collected withAlias tree' nodes' news' ∧
      ∀ v, v ∈ news'.flatten ↔ v ∈ news.flatten := by
  obtain ⟨hfrom, joins, joins', hjoins, hjoins', hsame⟩ := hrejoined
  obtain ⟨main, hmain, hroots⟩ := Answer.bind_eq_ok_iff.mp h.roots
  rw [hjoins, Answer.ok_bind] at hroots
  cases hroots
  have hroots' : rootNodes tree' = .ok (main :: joins') := by
    rw [rootNodes, hfrom, hmain, Answer.ok_bind, hjoins']
    rfl
  have hnodes : ∀ node, node ∈ main :: joins' ↔ node ∈ main :: joins := by
    intro node
    rw [List.mem_cons, List.mem_cons, hsame]
  obtain ⟨news', hnews'⟩ := Answer.exists_mapM_iff.mpr fun node hnode =>
    Answer.exists_mapM_iff.mp ⟨news, h.added⟩ node ((hnodes node).mp hnode)
  refine ⟨main :: joins', news', ⟨hroots', hnews'⟩, fun v => ?_⟩
  rw [Answer.mem_flatten_mapM_iff hnews', Answer.mem_flatten_mapM_iff h.added]
  exact exists_congr fun node => and_congr_left' (hnodes node)

end Collected

end Tree

/-- What a node adds to every list of tables. -/
def Adds (withAlias : Bool) (node : Value) (new : List Value) : Prop :=
  ∀ tables, collectTables withAlias node tables = .ok (tables ++ new)

/-- What a node adds shows at the empty list. -/
theorem adds_iff {new : List Value} :
    Adds withAlias v new ↔ collectTables withAlias v [] = .ok new :=
  (appends_collectTables withAlias v).eq_ok_iff

/-- **Collecting only appends.** For every node: either collecting its tables
fails by the same fault whatever has been collected before, or it adds the same
to every list. It fails if something stands in the way down its aliases and
joins, and if nothing does, it adds the names of the tables that are found
there. For every tree whose tables are named by texts: if its tables are
returned, they are what the FROM node and the joins add, each once; and if the
joins are put in another order or repeated, the same tables are returned. -/
theorem collecting_appends_and_unites (withAlias : Bool) :
    (∀ v,
      (∃ f, TablesBlocked withAlias v f ∧
        ∀ tables, collectTables withAlias v tables = .error f) ∨
      ∃ new, (∀ f, ¬ TablesBlocked withAlias v f) ∧ Adds withAlias v new ∧
        ∀ name, name ∈ new ↔ HasTable withAlias v name) ∧
    ∀ tree result, NamedByTexts tree → fromTables withAlias tree = .ok result →
      ∃ (main : Value) (joins added : List Value) (news : List (List Value))
        (names : List String),
        fromNode tree = .ok main ∧ joinNodes tree = .ok joins ∧
        Adds withAlias main added ∧
        List.Forall₂ (Adds withAlias) joins news ∧
        result = names.map text ∧ names.Nodup ∧
        (∀ s, s ∈ names ↔ text s ∈ added ∨ ∃ new ∈ news, text s ∈ new) ∧
        ∀ tree', Rejoined tree tree' →
          ∃ names' : List String,
            fromTables withAlias tree' = .ok (names'.map text) ∧
              names'.Perm names := by
  constructor
  · intro v
    rcases (appends_collectTables withAlias v).error_or_ok with
      ⟨f, hfault⟩ | ⟨new, hnew⟩
    · exact .inl ⟨f, tablesBlocked_of_error (hfault []), hfault⟩
    · exact .inr ⟨new, fun f hblocked => hblocked.not_ok new (hnew []), hnew,
        mem_iff_hasTable (hnew [])⟩
  · intro tree result htree hresult
    obtain ⟨nodes, news, h, -, -⟩ := fromTables_eq_ok_iff.mp hresult
    -- only texts can be compared as a set
    have htexts := h.exists_text htree
    obtain ⟨names, hnames, hnodup, hall⟩ := h.exists_names htexts
    obtain ⟨main, hmain, hroots⟩ := Answer.bind_eq_ok_iff.mp h.roots
    obtain ⟨joins, hjoins, hroots⟩ := Answer.bind_eq_ok_iff.mp hroots
    cases hroots
    obtain _ | ⟨hadded, hjoined⟩ := Answer.mapM_eq_ok_iff.mp h.added
    refine ⟨main, joins, _, _, names, hmain, hjoins, adds_iff.mpr hadded,
      hjoined.imp fun _ _ => adds_iff.mpr,
      Except.ok.inj (hresult.symm.trans hnames), hnodup, ?_, ?_⟩
    · intro s
      rw [hall, List.flatten_cons, List.mem_append, List.mem_flatten]
    · intro tree' hrejoined
      obtain ⟨nodes', news', h', hsame⟩ := h.rejoined hrejoined
      obtain ⟨names', hnames', hnodup', hall'⟩ :=
        h'.exists_names fun v hv => htexts v ((hsame v).mp hv)
      refine ⟨names', hnames',
        (List.perm_ext_iff_of_nodup hnodup' hnodup).mpr fun s => ?_⟩
      rw [hall', hall, hsame]

/-! ### A sample tree -/

/-- A table of the given name, with other arguments. -/
def tableNode (name : String) (args : List (String × Value)) : Value :=
  node "Table" (("this", node "Identifier" [("this", text name)]) :: args)

/-- A join of a node. -/
def joinOf (v : Value) : Value := node "Join" [("this", v)]

/-- A select from a node, with joins. -/
def selectFrom (main : Value) (joins : List Value) : Value :=
  node "Select" [("from", node "From" [("this", main)]), ("joins", list joins)]

theorem isNode_tableNode (s : String) (args : List (String × Value)) :
    IsNode "Table" (tableNode s args) := rfl

theorem isNode_joinOf (v : Value) : IsNode "Join" (joinOf v) := rfl

theorem exists_text_of_hasTable_tableNode {s : String}
    {args : List (String × Value)}
    (h : HasTable false (tableNode s args) name) : ∃ s, name = text s := by
  rw [hasTable_iff_of_table (isNode_tableNode s args)] at h
  exact ⟨s, (Except.ok.inj h).symm⟩

/-- A join of one node has its tables. -/
theorem hasTable_of_joinOf (h : HasTable withAlias (joinOf v) name) :
    HasTable withAlias v name := by
  have htable : ¬ IsNode "Table" (joinOf v) :=
    fun htable => absurd (isNode_unique htable (isNode_joinOf v)) (by decide)
  obtain ⟨key, hkey, w, harg, hinner⟩ := (hasTable_iff_of_not_table htable).mp h
  rw [heldKeys_of_join (isNode_joinOf v)] at hkey
  rcases List.mem_pair.mp hkey with rfl | rfl
  · cases harg
    exact hinner
  · cases harg

theorem collectTables_joinOf (tables : List Value) :
    collectTables withAlias (joinOf v) tables =
      collectTables withAlias v tables := by
  have hthis : (joinOf v).arg? "this" = .ok (some v) := arg?_node _ _ _
  have hexpression : (joinOf v).arg? "expression" = .ok none := arg?_node _ _ _
  rw [collectTables_of_join (isNode_joinOf v), collectArg_of_some hthis,
    collectArg_of_none hexpression]
  exact bind_pure _

/-- Customers, under a name of their own. -/
def customers : Value :=
  tableNode "customer" [("alias",
    node "TableAlias" [("this", node "Identifier" [("this", text "c")])])]

theorem collectTables_customers :
    collectTables true customers [] = .ok [text "customer AS c"] :=
  collectTables_of_table (isNode_tableNode _ _) []

/-- The orders of the customers, who come twice. -/
def customerOrders : Value :=
  selectFrom customers [joinOf (tableNode "orders" []), joinOf customers]

theorem namedByTexts_customerOrders : NamedByTexts customerOrders := by
  intro nodes hnodes node hnode name hname
  cases hnodes
  simp only [List.mem_cons, List.not_mem_nil, or_false] at hnode
  rcases hnode with rfl | rfl | rfl
  · exact exists_text_of_hasTable_tableNode hname
  · exact exists_text_of_hasTable_tableNode (hasTable_of_joinOf hname)
  · exact exists_text_of_hasTable_tableNode (hasTable_of_joinOf hname)

theorem fromTables_customerOrders :
    fromTables true customerOrders =
      .ok (["customer AS c", "orders"].map text) := by
  have horders : collectTables true (tableNode "orders" []) [] =
      .ok [text "orders"] :=
    collectTables_of_table (isNode_tableNode _ _) []
  refine fromTables_eq_ok_iff.mpr
    ⟨_, [[text "customer AS c"], [text "orders"], [text "customer AS c"]],
      ⟨rfl, Answer.mapM_eq_ok_iff.mpr ?_⟩, ?_, rfl⟩
  · exact .cons collectTables_customers
      (.cons ((collectTables_joinOf _).trans horders)
        (.cons ((collectTables_joinOf _).trans collectTables_customers) .nil))
  · simp [hashable]

/-- The customers are returned once, and so they are if the joins change places
and one of them is repeated. -/
theorem customerOrders_rejoined :
    let tree' := selectFrom customers [joinOf customers,
      joinOf (tableNode "orders" []), joinOf customers]
    NamedByTexts customerOrders ∧
    fromTables true customerOrders =
      .ok (["customer AS c", "orders"].map text) ∧
    Rejoined customerOrders tree' ∧
    ∃ names' : List String, fromTables true tree' = .ok (names'.map text) ∧
      names'.Perm ["customer AS c", "orders"] := by
  intro tree'
  have hrejoined : Rejoined customerOrders tree' := by
    refine ⟨rfl, [joinOf (tableNode "orders" []), joinOf customers], _, rfl,
      rfl, fun join => ?_⟩
    simp only [List.mem_cons, List.not_mem_nil, or_false]
    tauto
  obtain ⟨-, hunion⟩ := collecting_appends_and_unites true
  obtain ⟨-, -, -, -, names, -, -, -, -, hnames, -, -, hsame⟩ :=
    hunion customerOrders _ namedByTexts_customerOrders fromTables_customerOrders
  refine ⟨namedByTexts_customerOrders, fromTables_customerOrders, hrejoined, ?_⟩
  obtain rfl : ["customer AS c", "orders"] = names :=
    List.map_injective_iff.mpr (fun _ _ => text.inj) hnames
  exact hsame tree' hrejoined

end SqlDiagnosis.RawTree
