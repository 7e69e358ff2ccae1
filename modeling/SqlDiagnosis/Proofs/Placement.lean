import SqlDiagnosis.Proofs.Proposal

/-!
# Where a corrected table is placed

An unqualified table means a table of the search path. When it is misspelt, the
closest name is chosen from all schemas at once, and then a schema is sought
that has this name: the first one in the order of the catalog. The table is left
unqualified when this is the search path.

So two schemas that share a table name compete, and the order of the catalog
decides. The search path may have the chosen table, and still the table of
another schema is taken because that schema comes first. A table is left
unqualified in every order of the schemas just when the search path has it and
no other schema does: any schema that has it comes first in some order
(`exists_perm_schemaOf?`).
-/

namespace SqlDiagnosis

/-- The block with other schemas in its catalog. -/
def QueryBlock.withSchemas (b : QueryBlock) (schemas : List Schema) :
    QueryBlock := { b with catalog := ⟨schemas⟩ }

namespace Spelling

open Reference Text

variable {b : QueryBlock} {n : Node} {schema name : String} {c : Correction}

/-! ### Catalogs in another order -/

/-- Whether a schema has a table does not depend on the order of the schemas. -/
theorem hasTable_perm {catalog : Catalog} {schemas : List Schema}
    (h : schemas.Perm catalog.schemas) (table : Option String) :
    (Catalog.mk schemas).hasTable schema table =
      catalog.hasTable schema table :=
  h.any_eq

/-- Only schemas that have a table can be the first to have it. -/
theorem schemaOf?_of_forall {catalog : Catalog}
    (hname : name ∈ catalog.tableNames)
    (h : ∀ other, catalog.hasTable other (some name) → other = schema) :
    catalog.schemaOf? name = some schema := by
  obtain ⟨first, hfirst⟩ := exists_schemaOf? hname
  rw [hfirst, h first (hasTable_of_schemaOf? hfirst)]

/-- Every schema that has a table is the first to have it in some order. -/
theorem exists_perm_schemaOf? {catalog : Catalog}
    (h : catalog.hasTable schema (some name)) :
    ∃ schemas, schemas.Perm catalog.schemas ∧
      (Catalog.mk schemas).schemaOf? name = some schema := by
  obtain ⟨s, hs, rfl, hname⟩ := hasTable_iff.mp h
  refine ⟨s :: catalog.schemas.erase s, (List.perm_cons_erase hs).symm, ?_⟩
  rw [Catalog.schemaOf?, List.find?_cons_of_pos (by simpa using hname)]
  rfl

/-! ### Unqualified tables -/

/-- A table node that has no schema, neither by what is known about it nor in
its text. -/
structure IsUnqualified (n : Node) : Prop where
  kind : n.kind = .table
  facts : qualifier? n.facts.schema = none
  text : n.shown? "db" = none

/-- The text of a table of a schema where the search path need not be
written. -/
def placedText (searchPath schema name : String) (n : Node) : String :=
  Node.dotted (if schema = searchPath then none
    else some (quoteIdentifier schema)) (quoteIdentifier name) ++ n.aliasText

/-- No schema is written exactly when it is the search path. -/
theorem placedText_eq_iff {searchPath : String} :
    placedText searchPath schema name n = quoteIdentifier name ++ n.aliasText ↔
      schema = searchPath := by
  unfold placedText
  constructor
  · intro h
    by_contra hne
    rw [if_neg hne] at h
    -- with a schema before it the text is longer
    have hlength := congrArg String.length h
    simp only [Node.dotted, Option.map_some, Option.getD_some,
      String.length_append] at hlength
    have hdot : ".".length = 1 := rfl
    omega
  · intro h
    rw [if_pos h]
    rfl

section Corrected

variable {written : String} (hn : IsUnqualified n)
  (hwritten : n.facts.realName = some written) (hundefined : ¬ isDefined b n)
  (hclosest : IsClosest written b.catalog.tableNames name)

include hn hwritten hundefined hclosest

/-- An unqualified table is corrected to the closest name, in the first schema
that has it. -/
theorem tableCorrection_of_unqualified
    (hfirst : b.catalog.schemaOf? name = some schema) :
    tableCorrection b n =
      .ok (some ⟨n.render, placedText b.searchPath schema name n⟩) := by
  rw [tableCorrection_eq_answerOf, tableLookup?, if_neg hundefined, answerOf,
    tableLookup_of_unqualified hn.facts, hwritten, answer_map_some,
    closest?_eq_some_iff.mpr hclosest]
  show Except.ok
    (some (Correction.mk n.render (placedTable b n name).render)) = _
  rw [render_placedTable hn.kind hfirst, hn.text, placedText]

/-- The same in any order of the schemas: only the first schema changes. -/
theorem tableCorrection_withSchemas {schemas : List Schema}
    (hperm : schemas.Perm b.catalog.schemas)
    (hfirst : (Catalog.mk schemas).schemaOf? name = some schema) :
    tableCorrection (b.withSchemas schemas) n =
      .ok (some ⟨n.render, placedText b.searchPath schema name n⟩) := by
  refine tableCorrection_of_unqualified
    (b := b.withSchemas schemas) hn hwritten ?_ ?_ hfirst
  · have hdefined : isDefined (b.withSchemas schemas) n = isDefined b n := by
      simp only [isDefined, hn.facts, isVisible]
      show ((Catalog.mk schemas).hasTable "" _ ||
        (Catalog.mk schemas).hasTable b.searchPath _) = _
      rw [hasTable_perm hperm, hasTable_perm hperm]
    rwa [hdefined]
  · -- the same names are available, and their order does not matter for the
    -- closest
    have hmem : ∀ t, t ∈ b.catalog.tableNames ↔
        t ∈ (b.withSchemas schemas).catalog.tableNames :=
      fun t => (hperm.flatMap_right _).mem_iff.symm
    rw [← closest?_eq_some_iff, ← closest?_eq_of_mem_iff hmem]
    exact closest?_eq_some_iff.mpr hclosest

/-- A table is left unqualified in every order of the schemas when only the
search path has the closest name. -/
theorem unqualified_in_every_order_iff :
    (∀ schemas, schemas.Perm b.catalog.schemas →
        tableCorrection (b.withSchemas schemas) n =
          .ok (some ⟨n.render, quoteIdentifier name ++ n.aliasText⟩)) ↔
      b.catalog.hasTable b.searchPath (some name) ∧
        ∀ other, b.catalog.hasTable other (some name) →
          other = b.searchPath := by
  constructor
  · intro hall
    have hpath : ∀ other, b.catalog.hasTable other (some name) →
        other = b.searchPath := by
      -- whichever schema has the name, it may come first
      intro other hother
      obtain ⟨schemas, hperm, hfirst⟩ := exists_perm_schemaOf? hother
      have hplaced :=
        tableCorrection_withSchemas hn hwritten hundefined hclosest hperm hfirst
      rw [hall schemas hperm, Except.ok.injEq, Option.some.injEq,
        Correction.mk.injEq] at hplaced
      exact placedText_eq_iff.mp hplaced.2.symm
    -- some schema has the name, and so the search path does
    obtain ⟨first, hfirst⟩ := exists_schemaOf? hclosest.mem
    have htable := hasTable_of_schemaOf? hfirst
    rw [hpath first htable] at htable
    exact ⟨htable, hpath⟩
  · rintro ⟨-, hpath⟩ schemas hperm
    have hname : name ∈ (Catalog.mk schemas).tableNames :=
      (hperm.flatMap_right _).mem_iff.mpr hclosest.mem
    have hfirst : (Catalog.mk schemas).schemaOf? name = some b.searchPath := by
      refine schemaOf?_of_forall hname fun other hother => hpath other ?_
      rwa [hasTable_perm hperm] at hother
    rw [tableCorrection_withSchemas hn hwritten hundefined hclosest hperm
      hfirst, placedText_eq_iff.mpr rfl]

end Corrected

/-! ### The search path -/

/-- How an unqualified table is corrected: to the closest name, placed in the
first schema that has it. -/
structure Placement (b : QueryBlock) (n : Node) (c : Correction)
    (schema name : String) : Prop where
  closest : ∃ written, n.facts.realName = some written ∧
      IsClosest written b.catalog.tableNames name
  first : b.catalog.schemaOf? name = some schema
  correction : c = ⟨n.render, placedText b.searchPath schema name n⟩
  /-- The table is left unqualified when the first schema is the search path. -/
  unqualified_iff : c.proposed = quoteIdentifier name ++ n.aliasText ↔
      schema = b.searchPath
  /-- It is left unqualified in every order of the schemas when the search path
  has the name and no other schema. -/
  always_unqualified_iff :
      (∀ schemas, schemas.Perm b.catalog.schemas →
          tableCorrection (b.withSchemas schemas) n =
            .ok (some ⟨n.render, quoteIdentifier name ++ n.aliasText⟩)) ↔
        b.catalog.hasTable b.searchPath (some name) ∧
          ∀ other, b.catalog.hasTable other (some name) → other = b.searchPath

/-- **Search path.** An unqualified table that is corrected gets the closest
name of all schemas. Whether it is left unqualified depends on which schema is
the first to have this name. It is left so in every order of the schemas exactly
when the search path has the name and no other schema shares it. -/
theorem unqualified_placement (hn : IsUnqualified n)
    (h : tableCorrection b n = .ok (some c)) :
    ∃ schema name, Placement b n c schema name := by
  obtain ⟨hundefined, schema, name, -, hproposes⟩ :=
    (tableCorrection_eq_some_iff hn.kind h).mp rfl
  cases hproposes with
  | qualified hschema => cases hn.facts.symm.trans hschema
  | @unqualified written _ hwritten hclosest hfirst =>
    refine ⟨schema, name, ⟨written, hwritten, hclosest⟩, hfirst, ?_, ?_, ?_⟩
    · rw [hn.text]
      rfl
    · rw [hn.text]
      exact placedText_eq_iff
    · exact unqualified_in_every_order_iff hn hwritten hundefined hclosest

/-- A select from a misspelt table. -/
def misspeltOrders (catalog : Catalog) : Query :=
  .referring catalog [(.tableRef "odrers" "o", [])]

/-- Two schemas that share a table. -/
def archived : Catalog := ⟨[⟨"archive", ["orders"]⟩, ⟨"public", ["orders"]⟩]⟩

/-- In whatever select a misspelt table stands, its correction is placed in the
first schema. -/
theorem unqualified_placement_archived :
    IsUnqualified (.tableRef "odrers" "o") ∧
      ∀ s ∈ (misspeltOrders archived).selects, ∃ schema name,
        Placement s.stripped (.tableRef "odrers" "o")
          ⟨"odrers AS o", "\"archive\".\"orders\" AS o"⟩ schema name := by
  have hn : IsUnqualified (.tableRef "odrers" "o") :=
    ⟨rfl, rfl, by decide +kernel⟩
  refine ⟨hn, fun s hs => unqualified_placement hn ?_⟩
  obtain ⟨reference, hreference, rfl⟩ := List.mem_map.mp hs
  obtain rfl := List.mem_singleton.mp hreference
  exact Answer.eq_ok_of_toOption (by decide +kernel)

/-- The search path has the chosen table, but an earlier schema has a table of
the same name, and the correction leads there. In the other order of the schemas
the table is left unqualified. -/
theorem misspelt_table_of_search_path_redirected :
    (∀ s ∈ (misspeltOrders archived).selects,
      s.stripped.searchPath = "public") ∧
    archived.hasTable "public" (some "orders") ∧
    tableCorrections (misspeltOrders archived) =
      .ok [⟨"odrers AS o", "\"archive\".\"orders\" AS o"⟩] ∧
    tableCorrections (misspeltOrders ⟨archived.schemas.reverse⟩) =
      .ok [⟨"odrers AS o", "\"orders\" AS o"⟩] := by
  refine ⟨?_, by decide, ?_, ?_⟩
  · intro s hs
    obtain ⟨reference, -, rfl⟩ := List.mem_map.mp hs
    rfl
  · exact Answer.eq_ok_of_toOption (by decide +kernel)
  · exact Answer.eq_ok_of_toOption (by decide +kernel)

end Spelling

end SqlDiagnosis
