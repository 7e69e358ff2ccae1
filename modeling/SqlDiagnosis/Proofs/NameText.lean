import Mathlib.Data.List.Basic
import SqlDiagnosis.Check.Spelling
import SqlDiagnosis.Proofs.Answer

/-!
# The text of names

A misspelt name and its correction meet in two texts. One is the *qualified
name* under which it is looked up, a qualifier and a name with a dot between
them. Such a text is split at its dot again, and this gives back the two parts
unless one of them has a dot itself: then there are too many parts
(`exists_split_iff`).

The other is the text of a node. It is made of the texts of its parts
(`Node.shown?`), and to replace a part changes the text of this part and of no
other. So the text of a table or a column after a correction can be written down
(`render_of_table`, `render_of_column`).
-/

namespace SqlDiagnosis

/-! ### Splitting a qualified name -/

namespace Spelling

variable {name a b : String}

/-- A part between separators has none in it. -/
theorem not_mem_of_mem_splitOn {x : Char} {part cs : List Char}
    (h : part ∈ cs.splitOn x) : x ∉ part := by
  induction cs generalizing part with
  | nil =>
    rw [List.splitOn_nil, List.mem_singleton] at h
    subst h
    exact List.not_mem_nil
  | cons c cs ih =>
    rw [List.splitOn_cons_eq_if_modifyHead] at h
    by_cases hc : c == x
    · rw [if_pos hc] at h
      rcases List.mem_cons.mp h with rfl | h
      · exact List.not_mem_nil
      · exact ih h
    · -- `c` comes at the beginning of the first part
      rw [if_neg hc] at h
      rcases hparts : cs.splitOn x with _ | ⟨first, rest⟩
      · exact absurd hparts (List.splitOn_ne_nil x cs)
      · rw [hparts, List.modifyHead_cons] at h
        rw [hparts] at ih
        rcases List.mem_cons.mp h with rfl | h
        · rw [List.mem_cons, not_or]
          exact ⟨fun heq => hc (by simp [heq]), ih List.mem_cons_self⟩
        · exact ih (List.mem_cons_of_mem _ h)

theorem toList_dotted (a b : String) :
    (a ++ "." ++ b).toList = a.toList ++ '.' :: b.toList := by
  rw [String.toList_append, String.toList_append, List.append_assoc]
  rfl

/-- A text is split into the two parts that it is made of, if they have no
dots. -/
theorem split_eq_ok_iff :
    split name = .ok (a, b) ↔
      name = a ++ "." ++ b ∧ '.' ∉ a.toList ∧ '.' ∉ b.toList := by
  constructor
  · intro h
    rw [split] at h
    split at h
    · next x y hparts =>
      cases h
      have hx : x ∈ name.toList.splitOn '.' := by simp [hparts]
      have hy : y ∈ name.toList.splitOn '.' := by simp [hparts]
      rw [String.toList_ofList, String.toList_ofList]
      refine ⟨?_, not_mem_of_mem_splitOn hx, not_mem_of_mem_splitOn hy⟩
      -- what was split is what the parts make when they are joined again
      have hjoined := @List.intercalate_splitOn _ name.toList _ _ '.'
      rw [hparts] at hjoined
      apply String.toList_injective
      rw [toList_dotted, String.toList_ofList, String.toList_ofList, ← hjoined]
      simp
    · cases h
  · rintro ⟨rfl, ha, hb⟩
    rw [split, toList_dotted, List.splitOn_append_cons_self_of_not_mem ha,
      List.splitOn_eq_singleton hb]
    simp only [String.ofList_toList]

theorem split_error {f : Fault} (h : split name = .error f) :
    f = .tooManyParts := by
  rw [split] at h
  split at h
  · cases h
  · exact (Except.error.inj h).symm

/-- A qualified name can be split when neither part has a dot. -/
theorem exists_split_iff :
    (∃ parts, split (a ++ "." ++ b) = .ok parts) ↔
      '.' ∉ a.toList ∧ '.' ∉ b.toList := by
  constructor
  · rintro ⟨⟨a', b'⟩, h⟩
    obtain ⟨hname, ha', hb'⟩ := split_eq_ok_iff.mp h
    -- both texts have one dot in all
    have hcount := congrArg (List.count '.') (congrArg String.toList hname)
    rw [toList_dotted, toList_dotted, List.count_append, List.count_append,
      List.count_cons_self, List.count_cons_self,
      List.count_eq_zero_of_not_mem ha',
      List.count_eq_zero_of_not_mem hb'] at hcount
    exact ⟨List.count_eq_zero.mp (by omega), List.count_eq_zero.mp (by omega)⟩
  · rintro ⟨ha, hb⟩
    exact ⟨(a, b), split_eq_ok_iff.mpr ⟨rfl, ha, hb⟩⟩

end Spelling

/-! ### The parts of a node -/

/-- The text of an argument, if it counts as true. -/
def Arg.shown? : Arg → Option String
  | .node n => some n.render
  | .list _ => none
  | .value v => if v.truthy then some v.display else none

theorem renderArgs_cons (name : String) (a : Arg) (rest : List (String × Arg)) :
    renderArgs ((name, a) :: rest) =
      (a.shown?.map (name, ·)).toList ++ renderArgs rest := by
  cases a with
  | node n => rfl
  | list items => rfl
  | value v =>
    rw [renderArgs, Arg.shown?]
    by_cases hv : v.truthy
    · rw [if_pos hv, if_pos hv]
      rfl
    · rw [if_neg hv, if_neg hv]
      rfl

/-- An argument without a text does not hide a later one of the same name. -/
theorem lookup_renderArgs_cons (name part : String) (a : Arg)
    (rest : List (String × Arg)) :
    (renderArgs ((name, a) :: rest)).lookup part =
      if part = name then a.shown?.or ((renderArgs rest).lookup part)
      else (renderArgs rest).lookup part := by
  rw [renderArgs_cons]
  rcases a.shown? with _ | text
  · exact (ite_self _).symm
  · show ((name, text) :: renderArgs rest).lookup part = _
    rw [List.lookup_cons, Option.some_or]
    by_cases h : part = name
    · rw [if_pos h, beq_iff_eq.mpr h]
    · rw [if_neg h, beq_eq_false_iff_ne.mpr h]

/-- Of an argument that is put in, the text is found, and the texts of the
others are as before. -/
theorem lookup_renderArgs_insertArg (name part : String) (n : Node)
    (args : List (String × Arg)) :
    (renderArgs (Node.insertArg name (.node n) args)).lookup part =
      if part = name then some n.render else (renderArgs args).lookup part := by
  -- arguments are sorted by name, so the place is found by going along them
  induction args with
  | nil =>
    rw [Node.insertArg, lookup_renderArgs_cons, Arg.shown?, Option.some_or]
  | cons arg rest ih =>
    obtain ⟨other, a⟩ := arg
    rw [Node.insertArg]
    split
    · rw [lookup_renderArgs_cons, Arg.shown?, Option.some_or]
    · split
      · -- the argument takes the place of one of the same name
        next hother =>
        obtain rfl : name = other := by simpa using hother
        rw [lookup_renderArgs_cons, Arg.shown?, Option.some_or,
          lookup_renderArgs_cons]
        by_cases h : part = name
        · rw [if_pos h, if_pos h]
        · rw [if_neg h, if_neg h, if_neg h]
      · next hother =>
        rw [lookup_renderArgs_cons, ih, lookup_renderArgs_cons]
        by_cases h : part = other
        · have hne : part ≠ name := fun heq => hother (by simp [← heq, h])
          rw [if_pos h, if_neg hne, if_neg hne, if_pos h]
        · rw [if_neg h, if_neg h]

namespace Node

variable {n : Node} {part s t : String}

/-- The text of a part of a node, if it has one. -/
def shown? (n : Node) (part : String) : Option String :=
  (renderArgs n.args).lookup part

theorem quotedIdentifier_eq (s : String) :
    quotedIdentifier s =
      mk .identifier .none
        [("quoted", .value (.bool true)), ("this", .value (.text s))] := by
  have hlt : ¬ "this" < "quoted" := by decide
  simp [quotedIdentifier, build, insertArg, hlt]

/-- A new name is written in quotes, even if it is empty. -/
theorem render_quotedIdentifier (s : String) :
    (quotedIdentifier s).render = quoteIdentifier s := by
  rw [quotedIdentifier_eq]
  show quoteIdentifier
    (((renderArgs [("quoted", .value (.bool true)),
      ("this", .value (.text s))]).lookup "this").getD "") = _
  rw [lookup_renderArgs_cons, lookup_renderArgs_cons, if_neg (by decide),
    if_pos rfl, Arg.shown?]
  by_cases h : s = ""
  · subst h
    rfl
  · rw [if_pos (by simpa [Value.truthy] using h)]
    rfl

/-- A new name changes the text of one part. -/
@[simp] theorem shown?_setName (n : Node) (part s other : String) :
    (n.setName part s).shown? other =
      if other = part then some (quoteIdentifier s) else n.shown? other := by
  rw [← render_quotedIdentifier]
  exact lookup_renderArgs_insertArg part other _ n.args

@[simp] theorem shown?_setSchema (n : Node) (s other : String) :
    (n.setSchema s).shown? other =
      if other = "db" then some (quoteIdentifier s) else n.shown? other := by
  rw [← render_quotedIdentifier]
  exact lookup_renderArgs_insertArg "db" other _ n.args

/-- A name after its qualifier, if it has one, and a dot. -/
def dotted (qualifier : Option String) (name : String) : String :=
  (qualifier.map (· ++ ".")).getD "" ++ name

/-- What stands behind the name of a table: the other name that it is given, if
any. -/
def aliasText (n : Node) : String :=
  ((n.shown? "alias").map (" AS " ++ ·)).getD ""

/-- A name and its qualifier, joined by a dot if both are there. -/
theorem intercalate_filterMap {shown : List (String × String)}
    {qualifier name : String} (h : shown.lookup "this" = some name) :
    ".".intercalate ([qualifier, "this"].filterMap (shown.lookup ·)) =
      dotted (shown.lookup qualifier) name := by
  rcases hq : shown.lookup qualifier with _ | q
  · simp [h, hq, dotted]
  · simp [h, hq, dotted]

/-- The text of a column: its name behind its table. -/
theorem render_of_column (n : Node) {name : String} (hkind : n.kind = .column)
    (h : n.shown? "this" = some name) :
    n.render = dotted (n.shown? "table") name := by
  obtain ⟨kind, facts, args⟩ := n
  obtain rfl : kind = .column := hkind
  exact intercalate_filterMap h

/-- The text of a table: its name behind its schema and before its other
name. -/
theorem render_of_table (n : Node) {name : String} (hkind : n.kind = .table)
    (h : n.shown? "this" = some name) :
    n.render = dotted (n.shown? "db") name ++ n.aliasText := by
  obtain ⟨kind, facts, args⟩ := n
  obtain rfl : kind = .table := hkind
  have hname :
      ".".intercalate (["db", "this"].filterMap ((renderArgs args).lookup ·)) =
        _ := intercalate_filterMap h
  show ".".intercalate
    (["db", "this"].filterMap ((renderArgs args).lookup ·)) ++ _ = _
  rw [hname, aliasText, shown?, shown?, Node.args]
  rcases (renderArgs args).lookup "alias" with _ | other
  · rfl
  · rfl

/-! ### Corrected nodes -/

/-- A column under another name. -/
theorem render_setName_of_column (n : Node) (hkind : n.kind = .column)
    (name : String) :
    (n.setName "this" name).render =
      dotted (n.shown? "table") (quoteIdentifier name) := by
  have hshown : (n.setName "this" name).shown? "this" =
      some (quoteIdentifier name) := by simp
  rw [render_of_column (n.setName "this" name) hkind hshown, shown?_setName,
    if_neg (by decide)]

/-- A column under another name of another table. -/
theorem render_setName_setName (n : Node) (hkind : n.kind = .column)
    (table name : String) :
    ((n.setName "table" table).setName "this" name).render =
      dotted (some (quoteIdentifier table)) (quoteIdentifier name) := by
  rw [render_setName_of_column (n.setName "table" table) hkind,
    shown?_setName, if_pos rfl]

/-- A table under another name. -/
theorem render_setName_of_table (n : Node) (hkind : n.kind = .table)
    (name : String) :
    (n.setName "this" name).render =
      dotted (n.shown? "db") (quoteIdentifier name) ++ n.aliasText := by
  have hshown : (n.setName "this" name).shown? "this" =
      some (quoteIdentifier name) := by simp
  rw [render_of_table (n.setName "this" name) hkind hshown,
    aliasText, aliasText]
  simp

/-- A table under another name in another schema. -/
theorem render_setSchema_setName (n : Node) (hkind : n.kind = .table)
    (schema name : String) :
    ((n.setSchema schema).setName "this" name).render =
      dotted (some (quoteIdentifier schema)) (quoteIdentifier name) ++
        n.aliasText := by
  rw [render_setName_of_table (n.setSchema schema) hkind, aliasText, aliasText]
  simp

/-- The same when the schema is set last. -/
theorem render_setName_setSchema (n : Node) (hkind : n.kind = .table)
    (schema name : String) :
    ((n.setName "this" name).setSchema schema).render =
      dotted (some (quoteIdentifier schema)) (quoteIdentifier name) ++
        n.aliasText := by
  have hshown : ((n.setName "this" name).setSchema schema).shown? "this" =
      some (quoteIdentifier name) := by simp
  rw [render_of_table ((n.setName "this" name).setSchema schema) hkind hshown,
    aliasText, aliasText]
  simp

end Node

end SqlDiagnosis
