import SqlDiagnosis.Proofs.Absorption
import SqlDiagnosis.RawTree.Table

/-!
# Collecting tables

The tables below a node are collected into a list that is handed from node to
node. Nothing is read from this list, so collecting is a matter of each node on
its own.

* A collector *appends* if what it does to a list is what it does to the empty
  one, behind that list (`Appends`). It then fails whatever the list, or adds
  the same to every list. Running a list of such collectors is again one
  (`Appends.foldlM`), and each of them might as well start from nothing
  (`Appends.foldlM_eq`).
* What a node adds are the names of the tables that are found in it by going
  down aliases and joins (`HasTable`).
* It fails exactly if something stands in the way there (`TablesBlocked`).

A node is a table, or collecting from it is running a list of collectors, one
for each argument that may hold tables (`collectTables_of_not_table`). The
inductions go from a node to its arguments.
-/

namespace SqlDiagnosis.RawTree

open Value

variable {withAlias : Bool} {v w : Value} {name : Value} {key : String}

/-! ### Collectors that append -/

/-- What a collector does to a list is what it does to the empty one, behind
that list. -/
def Appends {α : Type} (collect : List α → Except Fault (List α)) : Prop :=
  ∀ before, collect before = do return before ++ (← collect [])

namespace Appends

variable {α β : Type} {collect : List α → Except Fault (List α)}

/-- To add nothing is to append. -/
theorem ok : Appends (α := α) .ok :=
  fun before => congrArg Except.ok (List.append_nil before).symm

theorem error (f : Fault) : Appends (α := α) fun _ => .error f := fun _ => rfl

/-- A collector that adds what is read; what cannot be read is left out, or is a
failure. -/
theorem absorb (families : List Fault.Family) (x : Except Fault α) :
    Appends fun before =>
      Fault.absorb families before do return before ++ [← x] := by
  intro before
  rcases x with f | a
  · show Fault.absorb families before (.error f) =
      do return before ++ (← Fault.absorb families [] (.error f))
    rw [Fault.absorb, Fault.absorb]
    split
    · exact ok before
    · rfl
  · rfl

/-- A list of collectors, one for each element: each of them might as well start
from nothing. -/
theorem foldlM_eq {collect : β → List α → Except Fault (List α)}
    (h : ∀ x, Appends (collect x)) (xs : List β) (before : List α) :
    xs.foldlM (fun found x => collect x found) before =
      do return before ++ (← xs.mapM fun x => collect x []).flatten := by
  induction xs generalizing before with
  | nil => exact ok before
  | cons x xs ih =>
    rw [List.foldlM_cons, List.mapM_cons, h x before]
    rcases collect x [] with f | new
    · rfl
    · -- the rest starts from what there is now; both this and what it adds come
      -- behind `before`
      show xs.foldlM (fun found x => collect x found) (before ++ new) = _
      rw [ih (before ++ new)]
      rcases xs.mapM fun x => collect x [] with f | news
      · rfl
      · exact congrArg Except.ok (List.append_assoc before new news.flatten)

/-- Collectors that append do so one after the other. -/
theorem foldlM {collect : β → List α → Except Fault (List α)}
    (h : ∀ x, Appends (collect x)) (xs : List β) :
    Appends fun before =>
      xs.foldlM (fun found x => collect x found) before := by
  intro before
  show xs.foldlM (fun found x => collect x found) before =
    do return before ++ (← xs.foldlM (fun found x => collect x found) [])
  rw [foldlM_eq h xs before, foldlM_eq h xs []]
  rcases xs.mapM fun x => collect x [] with f | news
  · rfl
  · rfl

/-- A collector that appends fails whatever the list, or adds the same to every
list. -/
theorem error_or_ok (h : Appends collect) :
    (∃ f, ∀ before, collect before = .error f) ∨
      ∃ new, ∀ before, collect before = .ok (before ++ new) := by
  rcases hnew : collect [] with f | new
  · refine .inl ⟨f, fun before => ?_⟩
    rw [h before, hnew]
    rfl
  · refine .inr ⟨new, fun before => ?_⟩
    rw [h before, hnew]
    rfl

/-- What such a collector adds is what it makes of the empty list. -/
theorem eq_ok_iff (h : Appends collect) {new : List α} :
    (∀ before, collect before = .ok (before ++ new)) ↔
      collect [] = .ok new := by
  refine ⟨fun hall => hall [], fun hnew before => ?_⟩
  rw [h before, hnew]
  rfl

end Appends

/-! ### One node -/

/-- The arguments of a node that may hold tables: what an alias stands for, and
both sides of a join. -/
def heldKeys (v : Value) : List String :=
  match v.nodeClass with
  | .ok (text "Alias") => ["this"]
  | .ok (text "Join") => ["this", "expression"]
  | _ => []

theorem heldKeys_of_alias (h : IsNode "Alias" v) : heldKeys v = ["this"] := by
  rw [heldKeys, show v.nodeClass = .ok (text "Alias") from h]
  rfl

theorem heldKeys_of_join (h : IsNode "Join" v) :
    heldKeys v = ["this", "expression"] := by
  rw [heldKeys, show v.nodeClass = .ok (text "Join") from h]
  rfl

theorem heldKeys_of_table (h : IsNode "Table" v) : heldKeys v = [] := by
  rw [heldKeys, show v.nodeClass = .ok (text "Table") from h]
  rfl

theorem heldKeys_of_other (halias : ¬ IsNode "Alias" v)
    (hjoin : ¬ IsNode "Join" v) : heldKeys v = [] := by
  unfold heldKeys
  split
  · exact absurd ‹_› halias
  · exact absurd ‹_› hjoin
  · rfl

/-- Collect the tables in an argument of a node; in an absent one there are
none. -/
def collectArg (withAlias : Bool) (v : Value) (key : String)
    (tables : List Value) : Except Fault (List Value) :=
  v.arg? key >>= fun inner => collectTables withAlias (inner.getD null) tables

theorem collectTables_null (tables : List Value) :
    collectTables withAlias null tables = .ok tables := by
  rw [collectTables]
  simp

theorem collectArg_of_error {f : Fault} (h : v.arg? key = .error f) :
    collectArg withAlias v key = fun _ => .error f := by
  funext tables
  rw [collectArg, h, Answer.error_bind]

theorem collectArg_of_none (h : v.arg? key = .ok none) :
    collectArg withAlias v key = .ok := by
  funext tables
  rw [collectArg, h, Answer.ok_bind, Option.getD_none, collectTables_null]

theorem collectArg_of_some (h : v.arg? key = .ok (some w)) :
    collectArg withAlias v key = collectTables withAlias w := by
  funext tables
  rw [collectArg, h, Answer.ok_bind, Option.getD_some]

/-- A table is added under its name, if it has one. -/
theorem collectTables_of_table (h : IsNode "Table" v) (tables : List Value) :
    collectTables withAlias v tables =
      Fault.absorb [.key, .shape] tables
        do return tables ++ [← tableName withAlias v] := by
  obtain ⟨fields, rfl, hclass⟩ := exists_record_of_isNode h
  rw [collectTables]
  simp [hclass, isText]

/-- The three cases of an argument, as one collector. -/
theorem match_arg?_eq_collectArg (v : Value) (key : String)
    (tables : List Value) :
    (match _ : v.arg? key with
      | .error f => .error f
      | .ok none => .ok tables
      | .ok (some inner) => collectTables withAlias inner tables) =
      collectArg withAlias v key tables := by
  split
  · rename_i f harg
    rw [collectArg_of_error harg]
  · rename_i harg
    rw [collectArg_of_none harg]
  · rename_i inner harg
    rw [collectArg_of_some harg]

theorem collectTables_of_alias (h : IsNode "Alias" v) (tables : List Value) :
    collectTables withAlias v tables =
      collectArg withAlias v "this" tables := by
  obtain ⟨fields, rfl, hclass⟩ := exists_record_of_isNode h
  have halias : (text "Alias").isText "Alias" = true := rfl
  rw [collectTables]
  simp only [hclass, halias, if_true]
  exact match_arg?_eq_collectArg _ _ _

/-- A join has the tables of its two sides. -/
theorem collectTables_of_join (h : IsNode "Join" v) (tables : List Value) :
    collectTables withAlias v tables =
      collectArg withAlias v "this" tables >>=
        collectArg withAlias v "expression" := by
  obtain ⟨fields, rfl, hclass⟩ := exists_record_of_isNode h
  have halias : (text "Join").isText "Alias" = false := rfl
  have htable : (text "Join").isText "Table" = false := rfl
  have hjoin : (text "Join").isText "Join" = true := rfl
  rw [collectTables]
  simp only [hclass, halias, htable, hjoin, if_true,
    Bool.false_eq_true, if_false]
  -- what follows the first side stands in every branch of it
  split
  · rename_i f hthis
    rw [collectArg_of_error hthis]
    rfl
  · rename_i hthis
    rw [collectArg_of_none hthis]
    exact congrArg (Except.ok tables >>= ·)
      (funext (match_arg?_eq_collectArg _ _))
  · rename_i inner hthis
    rw [collectArg_of_some hthis]
    exact congrArg (collectTables withAlias inner tables >>= ·)
      (funext (match_arg?_eq_collectArg _ _))

theorem collectTables_of_other (halias : ¬ IsNode "Alias" v)
    (htable : ¬ IsNode "Table" v) (hjoin : ¬ IsNode "Join" v)
    (tables : List Value) : collectTables withAlias v tables = .ok tables := by
  cases v with
  | record fields =>
    rw [isNode_record_iff, ← isText_iff] at halias htable hjoin
    rw [collectTables, if_neg halias, if_neg htable, if_neg hjoin]
  | _ =>
    rw [collectTables]
    simp

/-- The tables in a node that is no table are those in its arguments. -/
theorem collectTables_of_not_table (h : ¬ IsNode "Table" v)
    (tables : List Value) :
    collectTables withAlias v tables =
      (heldKeys v).foldlM (fun found key => collectArg withAlias v key found)
        tables := by
  by_cases halias : IsNode "Alias" v
  · rw [heldKeys_of_alias halias, collectTables_of_alias halias]
    simp
  by_cases hjoin : IsNode "Join" v
  · rw [heldKeys_of_join hjoin, collectTables_of_join hjoin]
    simp
  · rw [heldKeys_of_other halias hjoin, collectTables_of_other halias h hjoin]
    rfl

/-- Going from a node to one of its arguments, and so on, comes to an end. -/
theorem arg_induction {motive : Value → Prop}
    (step : ∀ v, (∀ key w, v.arg? key = .ok (some w) → motive w) → motive v)
    (v : Value) : motive v :=
  step v fun _ w _ => arg_induction step w
termination_by sizeOf v
decreasing_by
  rename_i h
  exact sizeOf_arg?_lt h

/-- Collecting from an argument appends if collecting from its node does. -/
theorem appends_collectArg
    (h : ∀ w, v.arg? key = .ok (some w) → Appends (collectTables withAlias w)) :
    Appends (collectArg withAlias v key) := by
  rcases harg : v.arg? key with f | _ | w
  · rw [collectArg_of_error harg]
    exact .error f
  · rw [collectArg_of_none harg]
    exact .ok
  · rw [collectArg_of_some harg]
    exact h w harg

/-- Collecting from any node appends. -/
theorem appends_collectTables (withAlias : Bool) (v : Value) :
    Appends (collectTables withAlias v) := by
  induction v using arg_induction with
  | step v ih =>
    by_cases htable : IsNode "Table" v
    · rw [funext (collectTables_of_table htable)]
      exact .absorb _ _
    · rw [funext (collectTables_of_not_table htable)]
      exact .foldlM (fun key => appends_collectArg (ih key)) _

/-- From a node that is no table, what is collected is what its arguments
give. -/
theorem collectTables_nil_of_not_table (h : ¬ IsNode "Table" v) :
    collectTables withAlias v [] =
      do return (← (heldKeys v).mapM fun key =>
        collectArg withAlias v key []).flatten := by
  have hall : ∀ key, Appends (collectArg withAlias v key) :=
    fun key => appends_collectArg fun w _ => appends_collectTables withAlias w
  rw [collectTables_of_not_table h, Appends.foldlM_eq hall]
  rfl

theorem not_table_of_mem_heldKeys (h : key ∈ heldKeys v) :
    ¬ IsNode "Table" v := by
  intro htable
  rw [heldKeys_of_table htable] at h
  cases h

/-! ### What a node adds -/

/-- A table of the given name is found in a node by going down aliases and
joins. -/
inductive HasTable (withAlias : Bool) : Value → Value → Prop where
  | table {v name : Value} (isNode : IsNode "Table" v)
      (named : tableName withAlias v = .ok name) :
      HasTable withAlias v name
  | held {v w name : Value} {key : String} (held : key ∈ heldKeys v)
      (arg : v.arg? key = .ok (some w))
      (inner : HasTable withAlias w name) : HasTable withAlias v name

theorem hasTable_iff_of_table (h : IsNode "Table" v) :
    HasTable withAlias v name ↔ tableName withAlias v = .ok name := by
  refine ⟨?_, .table h⟩
  rintro (⟨-, hnamed⟩ | ⟨hkey, -, -⟩)
  · exact hnamed
  · exact absurd h (not_table_of_mem_heldKeys hkey)

/-- In a node that is no table, tables are found in what it holds. -/
theorem hasTable_iff_of_not_table (h : ¬ IsNode "Table" v) :
    HasTable withAlias v name ↔
      ∃ key ∈ heldKeys v, ∃ w, v.arg? key = .ok (some w) ∧
        HasTable withAlias w name := by
  constructor
  · rintro (⟨htable, -⟩ | ⟨hkey, harg, hinner⟩)
    · exact absurd htable h
    · exact ⟨_, hkey, _, harg, hinner⟩
  · rintro ⟨key, hkey, w, harg, hinner⟩
    exact .held hkey harg hinner

/-- A table adds its name; one without a name adds nothing, or fails. -/
theorem mem_iff_tableName {new : List Value} (htable : IsNode "Table" v)
    (h : collectTables withAlias v [] = .ok new) (name : Value) :
    name ∈ new ↔ tableName withAlias v = .ok name := by
  rw [collectTables_of_table htable] at h
  rcases hname : tableName withAlias v with f | found
  · rw [hname] at h
    change Fault.absorb [.key, .shape] [] (.error f) = .ok new at h
    rw [Fault.absorb] at h
    split at h
    · -- the fault has been absorbed
      cases h
      simp
    · cases h
  · rw [hname] at h
    cases h
    simp [eq_comm]

/-- A node adds the names of the tables in it. -/
theorem mem_iff_hasTable {new : List Value}
    (h : collectTables withAlias v [] = .ok new) (name : Value) :
    name ∈ new ↔ HasTable withAlias v name := by
  induction v using arg_induction generalizing new with
  | step v ih =>
    by_cases htable : IsNode "Table" v
    · rw [hasTable_iff_of_table htable]
      exact mem_iff_tableName htable h name
    · rw [collectTables_nil_of_not_table htable] at h
      obtain ⟨news, hnews, hnew⟩ := Answer.bind_eq_ok_iff.mp h
      cases hnew
      rw [hasTable_iff_of_not_table htable, Answer.mem_flatten_mapM_iff hnews]
      -- argument by argument: a table is found in one exactly if it is added by
      -- that one
      refine exists_congr fun key => and_congr_right fun hkey => ?_
      constructor
      · rintro ⟨new, hnew, hmem⟩
        rcases harg : v.arg? key with f | _ | w
        · rw [collectArg_of_error harg] at hnew
          cases hnew
        · rw [collectArg_of_none harg] at hnew
          cases hnew
          cases hmem
        · rw [collectArg_of_some harg] at hnew
          exact ⟨w, rfl, (ih key w harg hnew).mp hmem⟩
      · rintro ⟨w, harg, hinner⟩
        obtain ⟨new, -, hnew⟩ := Answer.exists_mem_of_mapM hnews hkey
        refine ⟨new, hnew, (ih key w harg ?_).mpr hinner⟩
        rwa [collectArg_of_some harg] at hnew

/-- What stands for a table is a text or its mere name. -/
theorem tableName_text_or (h : tableName withAlias v = .ok name) :
    (∃ s, name = text s) ∨ tableName false v = .ok name := by
  unfold tableName at h ⊢
  obtain ⟨found, hfound, h⟩ := Answer.bind_eq_ok_iff.mp h
  obtain ⟨aliasNode, halias, h⟩ := Answer.bind_eq_ok_iff.mp h
  dsimp only at h
  split at h
  · obtain ⟨shown, -, h⟩ := Answer.bind_eq_ok_iff.mp h
    cases h
    exact .inl ⟨_, rfl⟩
  · rw [hfound, Answer.ok_bind, halias]
    exact .inr h

/-- The tables in a node are named by texts, or go by their mere names. -/
theorem HasTable.text_or (h : HasTable withAlias v name) :
    (∃ s, name = text s) ∨ HasTable false v name := by
  induction h with
  | table htable hnamed =>
    exact (tableName_text_or hnamed).imp_right (.table htable)
  | held hkey harg _ ih => exact ih.imp_right (.held hkey harg)

/-! ### What stands in the way -/

/-- Going down aliases and joins, one comes to a node whose arguments cannot be
asked, or to a table whose alias cannot; whatever else is wrong with a table is
absorbed. -/
inductive TablesBlocked (withAlias : Bool) : Value → Fault → Prop where
  | args {v : Value} {key : String} {f : Fault} (held : key ∈ heldKeys v)
      (fault : v.arg? key = .error f) :
      TablesBlocked withAlias v f
  | table {v : Value} {f : Fault} (isNode : IsNode "Table" v)
      (fault : tableName withAlias v = .error f)
      (left : [Fault.Family.key, .shape].contains f.family = false) :
      TablesBlocked withAlias v f
  | held {v w : Value} {key : String} {f : Fault} (held : key ∈ heldKeys v)
      (arg : v.arg? key = .ok (some w))
      (inner : TablesBlocked withAlias w f) : TablesBlocked withAlias v f

theorem collectTables_eq_error_iff_of_table {f : Fault} (h : IsNode "Table" v) :
    collectTables withAlias v [] = .error f ↔
      tableName withAlias v = .error f ∧
        [Fault.Family.key, .shape].contains f.family = false := by
  rw [collectTables_of_table h, absorb_eq_error_iff,
    Answer.bind_return_eq_error_iff]

/-- If collecting fails, something stands in the way. -/
theorem tablesBlocked_of_error {f : Fault}
    (h : collectTables withAlias v [] = .error f) :
    TablesBlocked withAlias v f := by
  induction v using arg_induction generalizing f with
  | step v ih =>
    by_cases htable : IsNode "Table" v
    · obtain ⟨hfault, hleft⟩ :=
        (collectTables_eq_error_iff_of_table htable).mp h
      exact .table htable hfault hleft
    · rw [collectTables_nil_of_not_table htable,
        Answer.bind_return_eq_error_iff] at h
      obtain ⟨key, hkey, hfault⟩ := Answer.exists_of_mapM_error h
      -- the argument that fails cannot be asked for, or holds what stands in
      -- the way
      rcases harg : v.arg? key with f' | _ | w
      · rw [collectArg_of_error harg] at hfault
        cases hfault
        exact .args hkey harg
      · rw [collectArg_of_none harg] at hfault
        cases hfault
      · rw [collectArg_of_some harg] at hfault
        exact .held hkey harg (ih key w harg hfault)

/-- If a node gives tables, each of its arguments that may hold some does. -/
theorem exists_collectArg {new : List Value}
    (h : collectTables withAlias v [] = .ok new) (hkey : key ∈ heldKeys v) :
    ∃ found, collectArg withAlias v key [] = .ok found := by
  rw [collectTables_nil_of_not_table (not_table_of_mem_heldKeys hkey)] at h
  exact Answer.exists_mapM_iff.mp
    (Answer.exists_bind_return_iff.mp ⟨new, h⟩) key hkey

/-- If something stands in the way, collecting fails. -/
theorem TablesBlocked.not_ok {f : Fault} (h : TablesBlocked withAlias v f)
    (new : List Value) :
    collectTables withAlias v [] ≠ .ok new := by
  induction h generalizing new with
  | args hkey hfault =>
    intro hnew
    obtain ⟨found, hfound⟩ := exists_collectArg hnew hkey
    rw [collectArg_of_error hfault] at hfound
    cases hfound
  | table htable hfault hleft =>
    rw [(collectTables_eq_error_iff_of_table htable).mpr ⟨hfault, hleft⟩]
    nofun
  | held hkey harg _ ih =>
    intro hnew
    obtain ⟨found, hfound⟩ := exists_collectArg hnew hkey
    rw [collectArg_of_some harg] at hfound
    exact ih found hfound

end SqlDiagnosis.RawTree
