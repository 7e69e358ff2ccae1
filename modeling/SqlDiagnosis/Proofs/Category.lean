import SqlDiagnosis.Detector
import SqlDiagnosis.Proofs.Answer

/-!
# Which findings a check makes

Each check reports findings of its own few categories (`Check.categories`).
Hence a finding in the list that a detector returns can be traced to the checks
it may come from: those of corrections, for instance, come from the correction
steps and from nothing else.

The category of a finding also says whether it can be put into a set
(`Category.hashing`): three categories are reported with a list or a set among
their data. Only the messages about types are an exception, since their data
came with the query.

The findings of a check are made by `map`, `filterMap`, `flatMap` and their
like, so the proof for each check follows the way it is built, down to the
constructor that names the category and the data.
-/

namespace SqlDiagnosis

/-! ### The data of a finding -/

/-- What comes of putting a finding of this category into a set. -/
def Category.hashing : Category → Except Fault Unit
  | ambiguousColumn | keywordOrder => .error (.notHashable "list")
  | groupByAsDistinct => .error (.notHashable "set")
  | _ => .ok ()

/-- The messages that came with the types of a query: those of the branches and
those of the IS tests. -/
def Typing.messages (q : Query) : List (List Value) :=
  q.setOperations.flatMap fun op =>
    (branchTypes op).flatMap (·.messages) ++
      (testsOf op).flatMap (·.facts.errors)

/-- All constraints can be members of a set. -/
def ConstraintRules.AllHashable (rules : ConstraintRules) : Prop :=
  ∀ c, rules.hashable c = .ok ()

/-- A finding of one of these categories, with data that go with its category or
are a message of the query. Only if constraints can be members of a set does the
category decide. -/
structure Fits (q : Query) (cs : List Category) (f : Finding) : Prop where
  category : f.category ∈ cs
  data :
    (∀ rules : ConstraintRules, rules.AllHashable →
      f.entry.hashableUnder rules = f.category.hashing) ∨
    f.category.hashing = .ok () ∧
      ∃ message ∈ Typing.messages q, f.data = message.map .value

namespace Datum

variable {rules : ConstraintRules}

@[simp]
theorem hashable_text (s : String) : (text s).hashable rules = .ok () := rfl

@[simp]
theorem hashable_text? (s : Option String) :
    (text? s).hashable rules = .ok () := by
  cases s <;> rfl

/-- Data can be put into a set together if each of them can. -/
theorem hashableItems_of_forall {data : List Datum}
    (h : ∀ d ∈ data, d.hashable rules = .ok ()) :
    hashableItems rules data = .ok () := by
  induction data with
  | nil => rfl
  | cons d rest ih =>
    rw [hashableItems, h d List.mem_cons_self, Answer.ok_bind]
    exact ih fun d' hd' => h d' (List.mem_cons_of_mem d hd')

end Datum

section Building

variable {α : Type} {P : Finding → Prop} {q : Query} {cs : List Category}

/-- A finding whose data can all be members of a set, as those of its category
can. -/
theorem fits_of_forall {c : Category} {data : List Datum} (hc : c ∈ cs)
    (hhashing : c.hashing = .ok ())
    (h : ∀ rules : ConstraintRules, rules.AllHashable →
      ∀ d ∈ data, d.hashable rules = .ok ()) :
    Fits q cs ⟨c, data⟩ :=
  ⟨hc, .inl fun rules hrules =>
    (Datum.hashableItems_of_forall (h rules hrules)).trans hhashing.symm⟩

/-- A finding that hands on a message of the query. -/
theorem fits_message {c : Category} {message : List Value} (hc : c ∈ cs)
    (hhashing : c.hashing = .ok ()) (h : message ∈ Typing.messages q) :
    Fits q cs (Typing.messageFinding c message) :=
  ⟨hc, .inr ⟨hhashing, message, h, rfl⟩⟩

/-- The findings are all as described. -/
def Every (P : Finding → Prop) (found : List Finding) : Prop := ∀ f ∈ found, P f

/-- The findings are all as described, if there is no fault. -/
def Gives (P : Finding → Prop) (answer : Except Fault (List Finding)) : Prop :=
  ∀ found, answer = .ok found → Every P found

theorem every_nil : Every P [] := by
  intro f hf
  cases hf

theorem every_singleton {f : Finding} (hf : P f) : Every P [f] := by
  intro f' hf'
  rwa [List.mem_singleton.mp hf']

theorem every_append {found more : List Finding} (h : Every P found)
    (h' : Every P more) :
    Every P (found ++ more) := by
  intro f hf
  rcases List.mem_append.mp hf with hf | hf
  · exact h f hf
  · exact h' f hf

theorem every_map {xs : List α} {make : α → Finding}
    (h : ∀ x ∈ xs, P (make x)) : Every P (xs.map make) := by
  intro f hf
  obtain ⟨x, hx, rfl⟩ := List.mem_map.mp hf
  exact h x hx

/-- A check that may or may not report each of a list of things. -/
theorem every_filterMap {xs : List α} {make : α → Option Finding}
    (h : ∀ x ∈ xs, Every P (make x).toList) : Every P (xs.filterMap make) := by
  intro f hf
  obtain ⟨x, hx, hmake⟩ := List.mem_filterMap.mp hf
  exact h x hx f (by rw [hmake]; simp)

/-- A check that reports any number of findings about each of a list of
things. -/
theorem every_flatMap {xs : List α} {make : α → List Finding}
    (h : ∀ x ∈ xs, Every P (make x)) :
    Every P (xs.flatMap make) := by
  intro f hf
  obtain ⟨x, hx, hmake⟩ := List.mem_flatMap.mp hf
  exact h x hx f hmake

theorem every_replicate {n : Nat} {f : Finding} (hf : P f) :
    Every P (List.replicate n f) := by
  intro f' hf'
  rwa [List.eq_of_mem_replicate hf']

theorem gives_ok {found : List Finding} (h : Every P found) :
    Gives P (.ok found) := by
  intro found' h'
  cases h'
  exact h

theorem gives_error (f : Fault) : Gives P (.error f) := by
  intro found h
  cases h

/-- What is found after a computation, whatever that gives. -/
theorem gives_bind {x : Except Fault α} {k : α → Except Fault (List Finding)}
    (h : ∀ a, Gives P (k a)) :
    Gives P (x >>= k) := by
  intro found hfound
  obtain ⟨a, -, ha⟩ := Answer.bind_eq_ok_iff.mp hfound
  exact h a found ha

/-- What is found about several parts that are checked without a fault. -/
theorem every_flatten_of_mapM {xs : List α}
    {k : α → Except Fault (List Finding)} {blocks : List (List Finding)}
    (hblocks : xs.mapM k = .ok blocks) (h : ∀ x ∈ xs, Gives P (k x)) :
    Every P blocks.flatten := by
  intro f hf
  obtain ⟨block, hblock, hf⟩ := List.mem_flatten.mp hf
  obtain ⟨x, hx, hanswer⟩ := Answer.exists_of_mem_mapM hblocks hblock
  exact h x hx block hanswer f hf

/-- Several checks of parts, one after the other. -/
theorem gives_flatten {xs : List α} {k : α → Except Fault (List Finding)}
    (h : ∀ x ∈ xs, Gives P (k x)) :
    Gives P (return (← xs.mapM k).flatten) := by
  intro found hfound
  obtain ⟨blocks, hblocks, hflat⟩ := Answer.bind_eq_ok_iff.mp hfound
  cases hflat
  exact every_flatten_of_mapM hblocks h

/-- Findings of other categories are not selected. -/
theorem Every.filter_eq_nil {found : List Finding}
    (h : Every (·.category ∈ cs) found) (p : Category → Bool)
    (hp : ∀ c ∈ cs, p c = false) : found.filter (p ·.category) = [] := by
  rw [List.filter_eq_nil_iff]
  intro f hf
  rw [hp f.category (h f hf)]
  simp

/-- Findings of these categories are all selected. -/
theorem Every.filter_eq_self {found : List Finding}
    (h : Every (·.category ∈ cs) found) (p : Category → Bool)
    (hp : ∀ c ∈ cs, p c = true) : found.filter (p ·.category) = found :=
  List.filter_eq_self.mpr fun f hf => hp f.category (h f hf)

end Building

/-! ### The syntactic checks -/

theorem Semicolon.fits_findings (q : Query) :
    Every (Fits q [.additionalSemicolon, .missingSemicolon])
      (Semicolon.findings q) := by
  refine every_append (every_replicate ⟨by simp, .inl fun _ _ => rfl⟩) ?_
  split
  · exact every_nil
  · exact every_singleton ⟨by simp, .inl fun _ _ => rfl⟩

theorem Reference.fits_columnFindings (q : Query) :
    Every (Fits q [.undefinedColumn, .ambiguousColumn])
      (Reference.columnFindings q) := by
  refine every_flatMap fun s _ => every_flatMap fun column _ => ?_
  unfold columnFinding
  split
  · exact every_singleton ⟨by simp, .inl fun _ _ => rfl⟩
  · exact every_nil
  · -- the candidates of an ambiguous column are a list
    exact every_singleton ⟨by simp, .inl fun _ _ => rfl⟩

theorem Reference.fits_functionFindings (q : Query) :
    Every (Fits q [.undefinedFunction]) (Reference.functionFindings q) := by
  refine every_filterMap fun use _ => ?_
  rcases use.name with _ | name
  · exact every_nil
  · rw [Option.bind_eq_bind, Option.bind_some]
    split
    · exact every_nil
    · exact every_singleton (fits_of_forall (by simp) rfl (by simp))

theorem Reference.fits_parameterFindings (q : Query) :
    Every (Fits q [.undefinedParameter]) (Reference.parameterFindings q) :=
  every_map fun _ _ => ⟨by simp, .inl fun _ _ => rfl⟩

theorem Reference.fits_tableFindings (q : Query) :
    Every (Fits q [.invalidSchemaName, .undefinedObject])
      (Reference.tableFindings q) := by
  refine every_flatMap fun s _ => every_flatMap fun table _ => ?_
  unfold tableFinding
  split
  · split
    · exact every_singleton ⟨by simp, .inl fun _ _ => rfl⟩
    · split
      · exact every_singleton ⟨by simp, .inl fun _ _ => rfl⟩
      · exact every_nil
  · split
    · exact every_nil
    · exact every_singleton ⟨by simp, .inl fun _ _ => rfl⟩

/-- A correction step reports its own category, with the two texts of each
correction. -/
theorem CorrectionStep.fits_findings (step : CorrectionStep) (q : Query) :
    Gives (Fits q [step.category]) (step.findings q) := by
  refine gives_bind fun corrections => gives_ok (every_map fun c _ => ?_)
  exact fits_of_forall (List.mem_singleton_self _)
    (by cases step <;> rfl) (by simp)

/-- What came with the type of a branch is a message of the query. -/
theorem Typing.mem_messages_of_branch {q : Query} {op : SetOperation}
    (hop : op ∈ q.setOperations) {type : ResultType}
    (htype : type ∈ branchTypes op) {message : List Value}
    (hmessage : message ∈ type.messages) :
    message ∈ messages q :=
  List.mem_flatMap.mpr ⟨op, hop,
    List.mem_append_left _ (List.mem_flatMap.mpr ⟨type, htype, hmessage⟩)⟩

/-- What came with an IS test is a message of the query. -/
theorem Typing.mem_messages_of_test {q : Query} {n : Node}
    (hn : n ∈ q.setOperations.flatMap testsOf) {message : List Value}
    (hmessage : message ∈ n.facts.errors) : message ∈ messages q := by
  obtain ⟨op, hop, hn⟩ := List.mem_flatMap.mp hn
  exact List.mem_flatMap.mpr ⟨op, hop,
    List.mem_append_right _ (List.mem_flatMap.mpr ⟨n, hn, hmessage⟩)⟩

/-- The branches of a set operation are reported with a text, or with a message
that came with their types. -/
theorem Typing.fits_operationFindings {q : Query} {op : SetOperation}
    (hop : op ∈ q.setOperations) (location : String) :
    Every (Fits q [.dataTypeMismatch]) (operationFindings location op) := by
  have hmessages : ∀ type ∈ branchTypes op,
      Every (Fits q [.dataTypeMismatch])
        (type.messages.map (messageFinding .dataTypeMismatch)) :=
    fun type htype => every_map fun message hmessage =>
      fits_message (by simp) rfl (mem_messages_of_branch hop htype hmessage)
  unfold operationFindings
  split
  · exact every_nil
  · next first rest htypes =>
    rw [htypes] at hmessages
    -- the first branch is compared with none, and each other one with the first
    refine every_append (hmessages first List.mem_cons_self)
      (every_flatMap fun type htype => ?_)
    refine every_append ?_ (hmessages type (List.mem_cons_of_mem first htype))
    split
    · exact every_nil
    · exact every_singleton ⟨by simp, .inl fun _ _ => rfl⟩

theorem Typing.fits_mismatchFindings (q : Query) :
    Every (Fits q [.dataTypeMismatch]) (Typing.mismatchFindings q) :=
  every_append
    (every_flatMap fun _ hcte =>
      fits_operationFindings (List.mem_append_left _ hcte) _)
    (fits_operationFindings
      (List.mem_append_right _ (List.mem_singleton_self _)) _)

theorem Typing.fits_isTestFindings (q : Query) :
    Gives (Fits q [.isNotApplicable]) (Typing.isTestFindings q) := by
  refine gives_flatten fun n hn => gives_flatten fun message hmessage => ?_
  split
  · exact gives_error _
  · refine gives_ok ?_
    split
    · exact every_singleton
        (fits_message (by simp) rfl (mem_messages_of_test hn hmessage))
    · exact every_nil

theorem Aggregate.fits_placeFindings (q : Query) :
    Every (Fits q [.aggregateOutsideSelect]) (Aggregate.placeFindings q) := by
  refine every_filterMap fun use _ => ?_
  rcases use.name with _ | name
  · exact every_nil
  · rw [Option.bind_eq_bind, Option.bind_some]
    split
    · exact every_singleton (fits_of_forall (by simp) rfl (by simp))
    · exact every_nil

theorem Aggregate.fits_nestingFindings (q : Query) :
    Gives (Fits q [.nestedAggregate]) (Aggregate.nestingFindings q) := by
  have hnesting : ∀ ast, Gives (Fits q [.nestedAggregate]) (nestingOf ast) :=
    fun ast => gives_flatten fun outer _ => gives_bind fun _ =>
      gives_ok (every_map fun _ _ => ⟨by simp, .inl fun _ _ => rfl⟩)
  intro found h
  obtain ⟨blocks, hblocks, hflat⟩ := Answer.bind_eq_ok_iff.mp h
  cases hflat
  intro f hf
  -- the selects come first and the trees of a select second, so there are two
  -- layers to take off
  obtain ⟨part, hpart, hf⟩ := List.mem_flatten.mp hf
  obtain ⟨block, hblock, hpart⟩ := List.mem_flatten.mp hpart
  obtain ⟨s, -, hs⟩ := Answer.exists_of_mem_mapM hblocks hblock
  obtain ⟨ast, -, hast⟩ := Answer.exists_of_mem_mapM hs hpart
  exact hnesting ast part hast f hf

theorem Grouping.fits_columnFinding (q : Query) (c : GroupColumn)
    (what : String) :
    Fits q [.groupingColumn] (columnFinding c what) :=
  fits_of_forall (by simp) rfl (by simp)

theorem Grouping.fits_columnFindings (q : Query) :
    Gives (Fits q [.groupingColumn]) (Grouping.columnFindings q) := by
  refine gives_flatten fun s _ => ?_
  unfold blockFindings
  split
  · exact gives_ok every_nil
  · split
    · exact gives_ok every_nil
    · refine gives_bind fun columns => gives_bind fun groups => gives_ok ?_
      -- first the columns that are not grouped, then those that are not
      -- selected
      refine every_append (every_map fun c _ => fits_columnFinding q c _)
        (every_filterMap fun g _ => ?_)
      split
      · exact every_singleton (fits_columnFinding q g _)
      · split
        · exact every_nil
        · exact every_singleton (fits_columnFinding q g _)

theorem Grouping.fits_havingFindings (q : Query) :
    Every (Fits q [.havingWithoutGroupBy]) (Grouping.havingFindings q) :=
  every_map fun _ _ => ⟨by simp, .inl fun _ _ => rfl⟩

theorem Clause.fits_whereFindings (q : Query) :
    Every (Fits q [.whereTwice]) (Clause.whereFindings q) := by
  refine every_filterMap fun s _ => ?_
  dsimp only
  split
  · exact every_singleton ⟨by simp, .inl fun _ _ => rfl⟩
  · exact every_nil

theorem Clause.fits_fromFindings (q : Query) :
    Every (Fits q [.missingFrom]) (Clause.fromFindings q) := by
  refine every_filterMap fun s _ => ?_
  split
  · exact every_nil
  · split
    · exact every_singleton ⟨by simp, .inl fun _ _ => rfl⟩
    · exact every_nil

theorem Clause.fits_repetitionFindings (q : Query) :
    Every (Fits q [.duplicateClause]) (Clause.repetitionFindings q) :=
  every_flatMap fun _ _ => every_map fun _ _ => ⟨by simp, .inl fun _ _ => rfl⟩

theorem Clause.fits_orderFindings (q : Query) :
    Every (Fits q [.keywordOrder]) (Clause.orderFindings q) := by
  refine every_filterMap fun s _ => ?_
  dsimp only
  split
  · exact every_nil
  · -- the clauses are reported as a list
    exact every_singleton ⟨by simp, .inl fun _ _ => rfl⟩

theorem Condition.fits_nullFindings (q : Query) :
    Every (Fits q [.comparisonWithNull]) (Condition.nullFindings q) :=
  every_flatMap fun _ _ => every_map fun _ _ => ⟨by simp, .inl fun _ _ => rfl⟩

theorem Subquery.fits_columnFindings (q : Query) :
    Every (Fits q [.subqueryColumns]) (Subquery.columnFindings q) := by
  refine every_filterMap fun s _ => ?_
  split
  · exact every_nil
  · exact every_singleton ⟨by simp, .inl fun _ _ => rfl⟩

theorem Bracket.fits_findings (q : Query) :
    Every (Fits q [.brackets]) (Bracket.findings q) := by
  refine every_filterMap fun shape _ => ?_
  dsimp only
  split
  · exact every_singleton ⟨by simp, .inl fun _ _ => rfl⟩
  · exact every_nil

/-! ### The other checks -/

theorem Condition.fits_wholeFindings (q : Query) (fs : List Formula) :
    Every (Fits q [.redundantCondition]) (wholeFindings fs) := by
  unfold wholeFindings
  dsimp only
  split
  · exact every_singleton ⟨by simp [finding], .inl fun _ _ => rfl⟩
  · split
    · exact every_singleton ⟨by simp [finding], .inl fun _ _ => rfl⟩
    · exact every_nil

theorem Condition.fits_disjunctFindings (q : Query) (convert : Conversion)
    (columns : List String) (d : Disjunct) (f : Formula)
    (others : List Formula) :
    Gives (Fits q [.redundantCondition])
      (disjunctFindings convert columns d f others) := by
  refine gives_bind fun parts => gives_ok ?_
  refine every_append ?_
    (every_map fun _ _ => ⟨by simp [finding], .inl fun _ _ => rfl⟩)
  split
  · exact every_singleton ⟨by simp [finding], .inl fun _ _ => rfl⟩
  · exact every_nil

theorem Condition.fits_redundancyFindings (q : Query) (convert : Conversion) :
    Gives (Fits q [.redundantCondition])
      (Condition.redundancyFindings convert q) := by
  refine gives_flatten fun s _ => ?_
  unfold conditionFindings
  split
  · exact gives_ok every_nil
  · intro found h
    obtain ⟨blocks, hblocks, hflat⟩ := Answer.bind_eq_ok_iff.mp h
    cases hflat
    refine every_append (fits_wholeFindings q _)
      (every_flatten_of_mapM hblocks fun ⟨⟨d, f⟩, i⟩ _ => ?_)
    exact fits_disjunctFindings q convert _ d f _

theorem Aggregate.fits_distinctFindings (q : Query) (solutions : List Query) :
    Every (Fits q [.distinctInSumOrAvg])
      (Aggregate.distinctFindings q solutions) := by
  have hin : ∀ function s, Every (Fits q [.distinctInSumOrAvg])
      (distinctIn function solutions s) := by
    intro function s
    unfold distinctIn
    split
    · exact every_nil
    · exact every_map fun _ _ => ⟨by simp, .inl fun _ _ => rfl⟩
  exact every_flatMap fun s _ => every_append (hin .sum s) (hin .avg s)

theorem Aggregate.fits_needlessFindings (q : Query) :
    Gives (Fits q [.distinctInAggregate]) (Aggregate.needlessFindings q) := by
  refine gives_flatten fun s _ => gives_flatten fun n _ => ?_
  unfold needlessIn
  split
  · exact gives_ok every_nil
  · dsimp only
    split
    · exact gives_ok (every_singleton ⟨by simp, .inl fun _ _ => rfl⟩)
    · exact gives_bind fun _ =>
        gives_ok (every_map fun _ _ => ⟨by simp, .inl fun _ _ => rfl⟩)

theorem Wildcard.fits_equationFindings (q : Query) (solutions : List Query) :
    Every (Fits q [.wildcardWithoutLike])
      (Wildcard.equationFindings q solutions) :=
  every_map fun _ _ => ⟨by simp, .inl fun _ _ => rfl⟩

theorem Wildcard.fits_patternFindings (q : Query) (solutions : List Query) :
    Every (Fits q [.incorrectWildcard])
      (Wildcard.patternFindings q solutions) :=
  every_flatMap fun _ _ => every_replicate ⟨by simp, .inl fun _ _ => rfl⟩

theorem Wildcard.fits_plainPatternFindings (q : Query) :
    Gives (Fits q [.likeWithoutWildcard])
      (Wildcard.plainPatternFindings q) := by
  refine gives_flatten fun ⟨like, pattern⟩ _ => ?_
  refine gives_bind fun percent => ?_
  split
  · exact gives_ok every_nil
  · refine gives_bind fun underscore => ?_
    split
    · exact gives_ok every_nil
    · exact gives_ok (every_singleton ⟨by simp, .inl fun _ _ => rfl⟩)

/-- A report of tables names their schemas and their own names, which are
texts. -/
theorem Join.fits_report (q : Query) {cs : List Category} {category : Category}
    (hcategory : category ∈ cs) (hhashing : category.hashing = .ok ())
    (tables : List JoinedTable) : Every (Fits q cs) (report category tables) :=
  every_map fun _ _ => fits_of_forall hcategory hhashing (by simp)

theorem Join.fits_findings (q : Query) (solutions : List Query) :
    Gives (Fits q [.missingJoin, .extraneousJoin, .incorrectJoin])
      (Join.findings q solutions) := by
  unfold findings
  split
  · exact gives_error _
  · refine gives_ok ?_
    unfold compare
    split
    · exact fits_report q (by simp) rfl _
    · split
      · exact fits_report q (by simp) rfl _
      · exact fits_report q (by simp) rfl _

/-- A report of columns, with a finding about their number before it. -/
theorem Projection.fits_sized (q : Query) {category : Category}
    (hhashing : category.hashing = .ok ()) (c : Prop) [Decidable c]
    (provided expected : Nat) (sources : List OutputSource) :
    Every (Fits q [category])
      ((if c then [widthFinding category provided expected] else []) ++
        report category sources) := by
  refine every_append ?_ (every_map fun _ _ =>
    fits_of_forall (List.mem_singleton_self _) hhashing (by simp))
  split
  · exact every_singleton
      ⟨List.mem_singleton_self _, .inl fun _ _ => hhashing.symm⟩
  · exact every_nil

theorem Projection.fits_extraneousFindings (q : Query)
    (solutions : List Query) :
    Gives (Fits q [.extraneousColumn])
      (Projection.extraneousFindings q solutions) := by
  unfold extraneousFindings
  split
  · exact gives_error _
  · exact gives_ok (fits_sized q rfl _ _ _ _)

theorem Projection.fits_missingFindings (q : Query) (solutions : List Query) :
    Gives (Fits q [.missingColumn])
      (Projection.missingFindings q solutions) := by
  unfold missingFindings
  split
  · exact gives_error _
  · exact gives_ok (fits_sized q rfl _ _ _ _)

theorem Projection.fits_aliasFindings (q : Query) (solutions : List Query) :
    Gives (Fits q [.missingAlias]) (Projection.aliasFindings q solutions) := by
  refine gives_bind fun extraneous => gives_bind fun missing => gives_ok ?_
  split
  · exact every_map fun _ _ => fits_of_forall (by simp) rfl (by simp)
  · exact every_nil

theorem Projection.fits_distinctFindings (q : Query) (solutions : List Query) :
    Every (Fits q [.missingDistinct])
      (Projection.distinctFindings q solutions) := by
  unfold distinctFindings
  split
  · exact every_singleton ⟨by simp, .inl fun _ _ => rfl⟩
  · exact every_nil

theorem Projection.fits_needlessDistinctFindings (q : Query) :
    Every (Fits q [.unnecessaryDistinct])
      (Projection.needlessDistinctFindings q) :=
  every_map fun _ _ => ⟨by simp, .inl fun _ _ => rfl⟩

theorem Grouping.fits_singletonFindings (q : Query) :
    Every (Fits q [.singletonGroups]) (Grouping.singletonFindings q) := by
  refine every_filterMap fun s _ => ?_
  rcases singletonGroups? s.toQueryBlock with _ | ⟨group, unique⟩
  · exact every_nil
  · -- the only data that are constraints
    refine every_singleton (fits_of_forall (by simp) rfl fun rules hrules => ?_)
    simp [Datum.hashable, hrules group, hrules unique]

theorem Grouping.fits_distinctFindings (q : Query) :
    Gives (Fits q [.groupByAsDistinct]) (Grouping.distinctFindings q) := by
  refine gives_flatten fun s _ => ?_
  unfold distinctBlock
  split
  · exact gives_ok every_nil
  · split
    · exact gives_ok every_nil
    · refine gives_bind fun expressions => gives_bind fun aggregated => ?_
      split
      · exact gives_ok every_nil
      · refine gives_ok ?_
        split
        · -- the columns are reported as a set
          exact every_singleton ⟨by simp, .inl fun _ _ => rfl⟩
        · exact every_nil

theorem Subquery.fits_orderFindings (q : Query) :
    Every (Fits q [.orderByInSubquery]) (Subquery.orderFindings q) :=
  every_map fun _ _ => ⟨by simp, .inl fun _ _ => rfl⟩

/-! ### All checks -/

/-- The categories of a check. -/
def Check.categories : Check → List Category
  | semicolons => [.additionalSemicolon, .missingSemicolon]
  | undefinedColumns => [.undefinedColumn, .ambiguousColumn]
  | undefinedFunctions => [.undefinedFunction]
  | undefinedParameters => [.undefinedParameter]
  | undefinedTables => [.invalidSchemaName, .undefinedObject]
  | correction step => [step.category]
  | types => [.dataTypeMismatch]
  | aggregatePlaces => [.aggregateOutsideSelect]
  | nestedAggregates => [.nestedAggregate]
  | groupingColumns => [.groupingColumn]
  | havingWithoutGroupBy => [.havingWithoutGroupBy]
  | repeatedWhere => [.whereTwice]
  | missingFrom => [.missingFrom]
  | nullComparisons => [.comparisonWithNull]
  | repeatedClauses => [.duplicateClause]
  | subqueryColumns => [.subqueryColumns]
  | clauseOrder => [.keywordOrder]
  | brackets => [.brackets]
  | isTests => [.isNotApplicable]
  | redundantConditions => [.redundantCondition]
  | distinctSums => [.distinctInSumOrAvg]
  | equationWildcards => [.wildcardWithoutLike]
  | patternWildcards => [.incorrectWildcard]
  | joins => [.missingJoin, .extraneousJoin, .incorrectJoin]
  | extraneousColumns => [.extraneousColumn]
  | missingColumns => [.missingColumn]
  | missingDistinct => [.missingDistinct]
  | missingAliases => [.missingAlias]
  | needlessDistinct => [.unnecessaryDistinct]
  | plainPatterns => [.likeWithoutWildcard]
  | needlessAggregateDistinct => [.distinctInAggregate]
  | singletonGroups => [.singletonGroups]
  | groupByAsDistinct => [.groupByAsDistinct]
  | orderedSubqueries => [.orderByInSubquery]
  | unchecked => []

/-- A check makes findings of its own categories only, with data that go with
them. -/
theorem Check.fits_findings (check : Check) (q : Query)
    (solutions : List Query) :
    Gives (Fits q check.categories) (check.findings q solutions) := by
  cases check with
  | semicolons => exact gives_ok (Semicolon.fits_findings q)
  | undefinedColumns => exact gives_ok (Reference.fits_columnFindings q)
  | undefinedFunctions => exact gives_ok (Reference.fits_functionFindings q)
  | undefinedParameters => exact gives_ok (Reference.fits_parameterFindings q)
  | undefinedTables => exact gives_ok (Reference.fits_tableFindings q)
  | correction step => exact step.fits_findings q
  | types => exact gives_ok (Typing.fits_mismatchFindings q)
  | aggregatePlaces => exact gives_ok (Aggregate.fits_placeFindings q)
  | nestedAggregates => exact Aggregate.fits_nestingFindings q
  | groupingColumns => exact Grouping.fits_columnFindings q
  | havingWithoutGroupBy => exact gives_ok (Grouping.fits_havingFindings q)
  | repeatedWhere => exact gives_ok (Clause.fits_whereFindings q)
  | missingFrom => exact gives_ok (Clause.fits_fromFindings q)
  | nullComparisons => exact gives_ok (Condition.fits_nullFindings q)
  | repeatedClauses => exact gives_ok (Clause.fits_repetitionFindings q)
  | subqueryColumns => exact gives_ok (Subquery.fits_columnFindings q)
  | clauseOrder => exact gives_ok (Clause.fits_orderFindings q)
  | brackets => exact gives_ok (Bracket.fits_findings q)
  | isTests => exact Typing.fits_isTestFindings q
  | redundantConditions => exact Condition.fits_redundancyFindings q _
  | distinctSums => exact gives_ok (Aggregate.fits_distinctFindings q solutions)
  | equationWildcards =>
    exact gives_ok (Wildcard.fits_equationFindings q solutions)
  | patternWildcards =>
    exact gives_ok (Wildcard.fits_patternFindings q solutions)
  | joins => exact Join.fits_findings q solutions
  | extraneousColumns => exact Projection.fits_extraneousFindings q solutions
  | missingColumns => exact Projection.fits_missingFindings q solutions
  | missingDistinct =>
    exact gives_ok (Projection.fits_distinctFindings q solutions)
  | missingAliases => exact Projection.fits_aliasFindings q solutions
  | needlessDistinct =>
    exact gives_ok (Projection.fits_needlessDistinctFindings q)
  | plainPatterns => exact Wildcard.fits_plainPatternFindings q
  | needlessAggregateDistinct => exact Aggregate.fits_needlessFindings q
  | singletonGroups => exact gives_ok (Grouping.fits_singletonFindings q)
  | groupByAsDistinct => exact Grouping.fits_distinctFindings q
  | orderedSubqueries => exact gives_ok (Subquery.fits_orderFindings q)
  | unchecked => exact gives_ok every_nil

/-- A finding that fits is of one of the categories. -/
theorem Every.of_fits {q : Query} {cs : List Category} {found : List Finding}
    (h : Every (Fits q cs) found) :
    Every (·.category ∈ cs) found :=
  fun f hf => (h f hf).category

/-- A finding of several checks is one of a check that reports its category. -/
theorem Check.exists_of_mem_allFindings {checks : List Check} {q : Query}
    {solutions : List Query} {found : List Finding}
    (h : Check.allFindings checks q solutions = .ok found) {f : Finding}
    (hf : f ∈ found) :
    ∃ check ∈ checks, f.category ∈ check.categories ∧
      ∃ own, check.findings q solutions = .ok own ∧ f ∈ own := by
  obtain ⟨blocks, hblocks, hflat⟩ := Answer.bind_eq_ok_iff.mp h
  cases hflat
  -- the findings are in the block of one check, and that is what this check
  -- answered
  obtain ⟨own, hown, hf⟩ := List.mem_flatten.mp hf
  obtain ⟨check, hcheck, hanswer⟩ := Answer.exists_of_mem_mapM hblocks hown
  exact ⟨check, hcheck,
    (check.fits_findings q solutions own hanswer f hf).category, own,
    hanswer, hf⟩

/-- Several checks report only the categories of one of them. -/
theorem Check.every_allFindings {checks : List Check} {q : Query}
    {solutions : List Query} {found : List Finding}
    (h : Check.allFindings checks q solutions = .ok found) :
    Every (·.category ∈ checks.flatMap Check.categories) found := by
  intro f hf
  obtain ⟨check, hcheck, hcategory, -⟩ := Check.exists_of_mem_allFindings h hf
  exact List.mem_flatMap.mpr ⟨check, hcheck, hcategory⟩

end SqlDiagnosis
