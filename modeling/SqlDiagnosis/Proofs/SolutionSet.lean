import SqlDiagnosis.Proofs.Acceptance
import SqlDiagnosis.Proofs.Blindness

/-!
# Solutions are a set

What is found about a query depends on which solutions there are, and neither on
their order nor on how often one is given. Two lists of solutions are compared
by their readings (`SameModels`), and each check that looks at solutions asks
about them in a way that such lists answer alike: whether some or all of them do
this or that, what the greatest or least of their sizes is, and which members
some or all of them have.

The last of these are collected as sets, and the order in which a set is gone
through may depend on the one in which the solutions come. So the findings of
one check about the members of a set may come in another order, and nothing else
changes (`SameFindings`). No use is made of what the order is: of `members` it
is only known which they are, and that each is listed once.
-/

namespace SqlDiagnosis

/-! ### Findings up to the order of sets -/

/-- Whether the findings of a category are collected as a set. -/
def Category.isCollected : Category → Bool
  | misspelling | groupingColumn | incorrectJoin | extraneousJoin | missingJoin
  | extraneousColumn | missingColumn | missingAlias => true
  | _ => false

/-- The same findings, up to the order of neighbours that have one category, and
this collected as a set. -/
inductive SameFindings : List Finding → List Finding → Prop
  | refl (found : List Finding) : SameFindings found found
  | collected {c : Category} {found found' : List Finding} (hc : c.isCollected)
      (hall : ∀ f ∈ found, f.category = c)
      (hperm : found.Perm found') : SameFindings found found'
  | append {first first' second second' : List Finding}
      (hfirst : SameFindings first first')
      (hsecond : SameFindings second second') :
      SameFindings (first ++ second) (first' ++ second')

namespace SameFindings

variable {found found' : List Finding}

/-- No finding is lost or added. -/
theorem perm (h : SameFindings found found') : found.Perm found' := by
  induction h with
  | refl found => exact .refl found
  | collected _ _ hperm => exact hperm
  | append _ _ ihfirst ihsecond => exact ihfirst.append ihsecond

/-- The categories come in the same order. -/
theorem categories_eq (h : SameFindings found found') :
    found.map (·.category) = found'.map (·.category) := by
  induction h with
  | refl found => rfl
  | @collected c found found' _ hall hperm =>
    -- both sides repeat one category, equally often
    have hall' : ∀ f ∈ found', f.category = c :=
      fun f hf => hall f (hperm.mem_iff.mpr hf)
    rw [List.map_congr_left hall, List.map_congr_left hall', List.map_const',
      List.map_const', hperm.length_eq]
  | append _ _ ihfirst ihsecond =>
    rw [List.map_append, List.map_append, ihfirst, ihsecond]

/-- The findings about the members of a set that is listed in two ways. -/
theorem of_perm {α : Type} {c : Category} (hc : c.isCollected)
    (data : α → List Datum) {xs ys : List α} (h : xs.Perm ys) :
    SameFindings (xs.map fun x => ⟨c, data x⟩)
      (ys.map fun x => ⟨c, data x⟩) := by
  refine .collected hc (fun f hf => ?_) (h.map _)
  obtain ⟨x, -, rfl⟩ := List.mem_map.mp hf
  rfl

end SameFindings

/-- The same findings up to the order of sets, or the same fault. -/
inductive SameAnswer :
    Except Fault (List Finding) → Except Fault (List Finding) → Prop
  | fault (f : Fault) : SameAnswer (.error f) (.error f)
  | found {found found' : List Finding} (h : SameFindings found found') :
      SameAnswer (.ok found) (.ok found')

namespace SameAnswer

variable {answer answer' more more' : Except Fault (List Finding)}

theorem of_eq (h : answer = answer') : SameAnswer answer answer' := by
  subst h
  rcases answer with f | found
  · exact .fault f
  · exact .found (.refl found)

/-- Answers one after the other. -/
theorem append (h : SameAnswer answer answer') (hmore : SameAnswer more more') :
    SameAnswer (answer >>= fun found => more.map (found ++ ·))
      (answer' >>= fun found => more'.map (found ++ ·)) := by
  cases h with
  | fault f => exact .fault f
  | found hfound =>
    cases hmore with
    | fault f => exact .fault f
    | found hrest => exact .found (hfound.append hrest)

end SameAnswer

/-! ### Solutions with the same readings -/

/-- The solutions of two lists are read alike: each has a reading that occurs in
the other list as well. -/
def SameModels (solutions solutions' : List Query) : Prop :=
  ∀ r, r ∈ solutions.map (·.toReading) ↔ r ∈ solutions'.map (·.toReading)

variable {solutions solutions' : List Query}

namespace SameModels

theorem symm (h : SameModels solutions solutions') :
    SameModels solutions' solutions := fun r => (h r).symm

/-- A solution in one list has one with the same reading in the other. -/
theorem exists_of_exists (h : SameModels solutions solutions')
    {P : Query → Prop} (hP : ∀ r a b, P ⟨r, a⟩ = P ⟨r, b⟩)
    (hs : ∃ s ∈ solutions, P s) : ∃ s ∈ solutions', P s := by
  obtain ⟨s, hs, hp⟩ := hs
  obtain ⟨s', hs', hr⟩ :=
    List.mem_map.mp ((h s.toReading).mp (List.mem_map_of_mem hs))
  refine ⟨s', hs', ?_⟩
  -- `s'` is `s` but for its text, at which `P` does not look
  have hsame : P s' = P s := by
    rw [show s' = ⟨s.toReading, s'.sql⟩ by rw [← hr]]
    exact hP s.toReading s'.sql s.sql
  rw [hsame]
  exact hp

/-- What depends on the readings only holds of some solution in both lists or in
none. -/
theorem exists_iff (h : SameModels solutions solutions') {P : Query → Prop}
    (hP : ∀ r a b, P ⟨r, a⟩ = P ⟨r, b⟩) :
    (∃ s ∈ solutions, P s) ↔ ∃ s ∈ solutions', P s :=
  ⟨h.exists_of_exists hP, h.symm.exists_of_exists hP⟩

theorem forall_iff (h : SameModels solutions solutions') {P : Query → Prop}
    (hP : ∀ r a b, P ⟨r, a⟩ = P ⟨r, b⟩) :
    (∀ s ∈ solutions, P s) ↔ ∀ s ∈ solutions', P s := by
  have hnot := h.exists_iff (P := fun s => ¬ P s) fun r a b => by rw [hP r a b]
  simpa using not_congr hnot

theorem any_eq (h : SameModels solutions solutions') {p : Query → Bool}
    (hp : ∀ r a b, p ⟨r, a⟩ = p ⟨r, b⟩) :
    solutions.any p = solutions'.any p := by
  rw [Bool.eq_iff_iff, List.any_eq_true, List.any_eq_true]
  exact h.exists_iff fun r a b => by rw [hp r a b]

theorem all_eq (h : SameModels solutions solutions') {p : Query → Bool}
    (hp : ∀ r a b, p ⟨r, a⟩ = p ⟨r, b⟩) :
    solutions.all p = solutions'.all p := by
  rw [Bool.eq_iff_iff, List.all_eq_true, List.all_eq_true]
  exact h.forall_iff fun r a b => by rw [hp r a b]

/-- What depends on the readings only takes the same values. -/
theorem mem_map_iff {α : Type} (h : SameModels solutions solutions')
    {f : Query → α} (hf : ∀ r a b, f ⟨r, a⟩ = f ⟨r, b⟩) (x : α) :
    x ∈ solutions.map f ↔ x ∈ solutions'.map f := by
  rw [List.mem_map, List.mem_map]
  exact h.exists_iff fun r a b => by rw [hf r a b]

theorem eq_nil_iff (h : SameModels solutions solutions') :
    solutions = [] ↔ solutions' = [] := by
  rw [List.eq_nil_iff_forall_not_mem, List.eq_nil_iff_forall_not_mem]
  exact h.forall_iff (P := fun _ => False) fun _ _ _ => rfl

theorem isEmpty_eq (h : SameModels solutions solutions') :
    solutions.isEmpty = solutions'.isEmpty := by
  rw [Bool.eq_iff_iff, List.isEmpty_iff, List.isEmpty_iff, h.eq_nil_iff]

end SameModels

/-! ### Checks that ask about some or all solutions -/

theorem Aggregate.distinctFindings_sameModels
    (h : SameModels solutions solutions') (q : Query) :
    distinctFindings q solutions = distinctFindings q solutions' := by
  have hused : ∀ function,
      usedIn function solutions = usedIn function solutions' :=
    fun _ => h.any_eq fun _ _ _ => rfl
  simp only [distinctFindings, distinctIn, hused]

theorem Wildcard.equationFindings_sameModels
    (h : SameModels solutions solutions') (q : Query) :
    equationFindings q solutions = equationFindings q solutions' := by
  have hused : ∀ c,
      solutions.any (inEquations c) = solutions'.any (inEquations c) :=
    fun _ => h.any_eq fun _ _ _ => rfl
  simp only [equationFindings, hused]

theorem Wildcard.patternFindings_sameModels
    (h : SameModels solutions solutions') (q : Query) :
    patternFindings q solutions = patternFindings q solutions' := by
  have hused : ∀ c,
      solutions.any (inPatterns c) = solutions'.any (inPatterns c) :=
    fun _ => h.any_eq fun _ _ _ => rfl
  have hsuspicions : suspicions solutions = suspicions solutions' := by
    funext pattern
    simp only [suspicions, hused, h.isEmpty_eq]
  simp only [patternFindings, hsuspicions]

theorem Projection.distinctFindings_sameModels
    (h : SameModels solutions solutions') (q : Query) :
    distinctFindings q solutions = distinctFindings q solutions' := by
  have hall :
      solutions.all (isDistinct ·.main.output) =
        solutions'.all (isDistinct ·.main.output) :=
    h.all_eq fun _ _ _ => rfl
  simp only [distinctFindings, hall]

/-! ### Joined tables -/

namespace Join

/-- Which findings there are is decided by the sizes of the sets, and those do
not depend on the order. -/
theorem compare_sameFindings (actual : List JoinedTable)
    {common common' all all' : List JoinedTable} (hcommon : common.Perm common')
    (hall : all.Perm all') :
    SameFindings (compare actual common all) (compare actual common' all') := by
  have hallowed : ∀ t, all.contains t = all'.contains t :=
    contains_eq_of_mem_iff fun t => hall.mem_iff
  unfold compare
  rw [hcommon.length_eq, hall.length_eq]
  simp only [hallowed]
  split
  · exact .of_perm rfl _ (hcommon.filter _)
  · exact .refl _

/-- The check on joins finds the same. -/
theorem findings_sameAnswer (h : SameModels solutions solutions') (q : Query) :
    SameAnswer (findings q solutions) (findings q solutions') := by
  have hmem : ∀ tables, tables ∈ solutions.map tablesOf ↔
      tables ∈ solutions'.map tablesOf :=
    h.mem_map_iff fun _ _ _ => rfl
  unfold findings
  rcases e : solutions.map tablesOf with _ | ⟨first, rest⟩
  · have hnil := h.eq_nil_iff.mp (List.map_eq_nil_iff.mp e)
    subst hnil
    exact .fault _
  rcases e' : solutions'.map tablesOf with _ | ⟨first', rest'⟩
  · have hnil := h.eq_nil_iff.mpr (List.map_eq_nil_iff.mp e')
    subst hnil
    cases e
  rw [e, e'] at hmem
  -- Both sets are described by their members, whichever solution comes first.
  refine .found (compare_sameFindings _ ?_ ?_)
  · refine (List.perm_ext_iff_of_nodup (nodup_common e)
      (nodup_common e')).mpr fun t => ?_
    rw [mem_common_iff, mem_common_iff]
    exact forall_congr' fun tables => by rw [hmem]
  · refine (List.perm_ext_iff_of_nodup (nodup_members _)
      (nodup_members _)).mpr fun t => ?_
    show t ∈ together first rest ↔ t ∈ together first' rest'
    rw [mem_together_iff, mem_together_iff]
    exact exists_congr fun tables => by rw [hmem]

end Join

/-! ### Selected columns -/

namespace Projection

theorem mem_width_iff (h : SameModels solutions solutions') (n : Nat) :
    n ∈ solutions.map width ↔ n ∈ solutions'.map width :=
  h.mem_map_iff (fun _ _ _ => rfl) n

theorem mem_required_sameModels (h : SameModels solutions solutions')
    (c : OutputSource) :
    c ∈ required solutions ↔ c ∈ required solutions' := by
  rw [mem_required_iff, mem_required_iff]
  exact h.exists_iff fun _ _ _ => rfl

/-- The same columns are required. -/
theorem required_perm (h : SameModels solutions solutions') :
    (required solutions).Perm (required solutions') :=
  (List.perm_ext_iff_of_nodup (nodup_members _) (nodup_members _)).mpr
    (mem_required_sameModels h)

theorem nodup_commonNames (solutions : List Query) :
    (commonNames solutions).Nodup := by
  rcases solutions with _ | ⟨first, rest⟩
  · exact List.nodup_nil
  · exact (nodup_members _).filter _

/-- The same names are common to the solutions. -/
theorem commonNames_perm (h : SameModels solutions solutions') :
    (commonNames solutions).Perm (commonNames solutions') := by
  by_cases hnil : solutions = []
  · rw [hnil, h.eq_nil_iff.mp hnil]
  · refine (List.perm_ext_iff_of_nodup (nodup_commonNames _)
      (nodup_commonNames _)).mpr fun name => ?_
    rw [mem_commonNames_iff hnil,
      mem_commonNames_iff (h.eq_nil_iff.not.mp hnil)]
    exact h.forall_iff fun _ _ _ => rfl

/-- The check for extraneous columns lists those of the query, so nothing
changes. -/
theorem extraneousFindings_sameModels (h : SameModels solutions solutions')
    (q : Query) :
    extraneousFindings q solutions = extraneousFindings q solutions' := by
  have hallowed : ∀ c,
      (required solutions).contains c = (required solutions').contains c :=
    contains_eq_of_mem_iff (mem_required_sameModels h)
  simp only [extraneousFindings, max?_eq_of_mem_iff (mem_width_iff h), hallowed]

/-- The check for missing columns lists those of the solutions. -/
theorem missingFindings_sameAnswer (h : SameModels solutions solutions')
    (q : Query) :
    SameAnswer (missingFindings q solutions)
      (missingFindings q solutions') := by
  unfold missingFindings
  rw [min?_eq_of_mem_iff (mem_width_iff h)]
  rcases (solutions'.map width).min? with _ | least
  · exact .fault _
  · -- the number of columns first, and then the columns as a set
    exact .found (.append (.refl _)
      (.of_perm rfl _ ((required_perm h).filter _)))

/-- Names are compared when no columns are extraneous or missing, which both
lists of solutions agree on. -/
theorem aliasFindings_sameAnswer (h : SameModels solutions solutions')
    (q : Query) :
    SameAnswer (aliasFindings q solutions) (aliasFindings q solutions') := by
  unfold aliasFindings
  rw [extraneousFindings_sameModels h]
  rcases extraneousFindings q solutions' with f | extraneous
  · exact .fault f
  have hmissing := missingFindings_sameAnswer h q
  generalize missingFindings q solutions = answer at hmissing
  generalize missingFindings q solutions' = answer' at hmissing
  cases hmissing with
  | fault f => exact .fault f
  | @found missing missing' hsame =>
    refine .found ?_
    rw [hsame.perm.isEmpty_eq]
    split
    · exact .of_perm rfl _ ((commonNames_perm h).filter _)
    · exact .refl []

end Projection

/-! ### Detectors -/

/-- **Step.** One check finds the same. -/
theorem Check.findings_sameAnswer (h : SameModels solutions solutions')
    (check : Check) (q : Query) :
    SameAnswer (check.findings q solutions) (check.findings q solutions') := by
  rcases hcompares : check.comparesSolutions with _ | _
  · exact .of_eq
      (findings_of_not_comparesSolutions hcompares q solutions solutions')
  cases check with
  | distinctSums =>
    exact .of_eq
      (congrArg Except.ok (Aggregate.distinctFindings_sameModels h q))
  | equationWildcards =>
    exact .of_eq (congrArg Except.ok (Wildcard.equationFindings_sameModels h q))
  | patternWildcards =>
    exact .of_eq (congrArg Except.ok (Wildcard.patternFindings_sameModels h q))
  | joins => exact Join.findings_sameAnswer h q
  | extraneousColumns =>
    exact .of_eq (Projection.extraneousFindings_sameModels h q)
  | missingColumns => exact Projection.missingFindings_sameAnswer h q
  | missingDistinct =>
    exact .of_eq
      (congrArg Except.ok (Projection.distinctFindings_sameModels h q))
  | missingAliases => exact Projection.aliasFindings_sameAnswer h q
  | _ => cases hcompares

/-- Checks one after the other find the same. -/
theorem Check.allFindings_sameAnswer (h : SameModels solutions solutions')
    (checks : List Check) (q : Query) :
    SameAnswer (allFindings checks q solutions)
      (allFindings checks q solutions') := by
  induction checks with
  | nil => exact .of_eq rfl
  | cons check checks ih =>
    rw [allFindings_cons, allFindings_cons]
    exact (findings_sameAnswer h check q).append ih

theorem DetectorKind.inspect_sameAnswer (h : SameModels solutions solutions')
    (kind : DetectorKind) (q : Query) :
    SameAnswer (kind.inspect q solutions) (kind.inspect q solutions') := by
  unfold inspect
  rw [h.isEmpty_eq]
  split
  · exact .of_eq rfl
  · exact Check.allFindings_sameAnswer h _ q

/-- One detector finds the same and leaves the same query. -/
theorem block_sameAnswer (h : SameModels solutions solutions') (g : Setting)
    (kind : DetectorKind) (q : Query) :
    SameAnswer (block g solutions kind q).1 (block g solutions' kind q).1 ∧
      (block g solutions kind q).2 = (block g solutions' kind q).2 := by
  by_cases hkind : kind = .syntactic
  · -- the only detector that replaces the query does not look at the solutions
    rw [hkind, block_syntactic_eq g solutions solutions' q]
    exact ⟨.of_eq rfl, rfl⟩
  · rw [block_of_ne_syntactic hkind, block_of_ne_syntactic hkind]
    exact ⟨DetectorKind.inspect_sameAnswer h kind q, rfl⟩

/-- **Run.** Detectors one after the other find the same, since each starts from
the same query. -/
theorem blocks_sameAnswer (h : SameModels solutions solutions') (g : Setting)
    (kinds : List DetectorKind) (q : Query) :
    SameAnswer (blocks g solutions kinds q).1
      (blocks g solutions' kinds q).1 := by
  induction kinds generalizing q with
  | nil => exact .of_eq rfl
  | cons kind kinds ih =>
    obtain ⟨hanswer, hleft⟩ := block_sameAnswer h g kind q
    rcases e : block g solutions kind q with ⟨answer, u⟩
    rcases e' : block g solutions' kind q with ⟨answer', u'⟩
    rw [e, e'] at hanswer hleft
    obtain rfl : u = u' := hleft
    cases hanswer with
    | fault f =>
      rw [blocks_cons_of_error e, blocks_cons_of_error e']
      exact .fault f
    | found hfound =>
      rw [blocks_cons_of_ok e, blocks_cons_of_ok e']
      exact (SameAnswer.found hfound).append (ih u)

/-! ### Diagnosis -/

/-- A diagnosis with solutions that are read alike has the same answer. -/
theorem diagnose_sameAnswer {g : Setting} {texts texts' : List String}
    (hsols : g.readSolutions texts = .ok solutions)
    (hsols' : g.readSolutions texts' = .ok solutions')
    (h : SameModels solutions solutions') (text : String)
    (kinds : List DetectorKind) :
    SameAnswer (diagnose g texts text kinds).1
      (diagnose g texts' text kinds).1 := by
  rcases hq : g.readQuery text with f | q
  · apply SameAnswer.of_eq
    simp only [diagnose, Session.start, hsols, hsols', hq]
  by_cases hkinds : .base ∈ kinds
  · rw [diagnose_of_base hsols hq hkinds, diagnose_of_base hsols' hq hkinds]
    exact .fault _
  · rw [diagnose_eq_blocks hsols hq hkinds, diagnose_eq_blocks hsols' hq hkinds]
    exact blocks_sameAnswer h g kinds q

/-- Such answers have the same categories. -/
theorem categories_of_sameAnswer {g : Setting} {texts texts' : List String}
    {text : String} {kinds : List DetectorKind}
    (h : SameAnswer (diagnose g texts text kinds).1
      (diagnose g texts' text kinds).1) :
    categories g texts text kinds = categories g texts' text kinds := by
  unfold categories
  generalize (diagnose g texts text kinds).1 = answer at h
  generalize (diagnose g texts' text kinds).1 = answer' at h
  cases h with
  | fault f => rfl
  | found hfound => rw [Answer.ok_bind, Answer.ok_bind, hfound.categories_eq]

/-- Texts in another order, and some more than once, can be read as well, and
have the same readings. -/
theorem Setting.readSolutions_of_mem_iff {g : Setting}
    {texts texts' : List String} (hsols : g.readSolutions texts = .ok solutions)
    (htexts : ∀ t, t ∈ texts ↔ t ∈ texts') :
    ∃ solutions', g.readSolutions texts' = .ok solutions' ∧
      SameModels solutions solutions' := by
  have hread : ∀ t ∈ texts', ∃ s,
      g.reader.read g.catalog g.solutionSearchPath t = .ok s := by
    intro t ht
    obtain ⟨s, -, hs⟩ := Answer.exists_mem_of_mapM hsols ((htexts t).mpr ht)
    exact ⟨s, hs⟩
  obtain ⟨solutions', hsols'⟩ := Answer.mapM_ok_of_forall hread
  have hmem : ∀ s, s ∈ solutions ↔ s ∈ solutions' := by
    intro s
    rw [Answer.mem_mapM_iff hsols, Answer.mem_mapM_iff hsols']
    simp only [htexts]
  exact ⟨solutions', hsols', fun r => by simp only [List.mem_map, hmem]⟩

/-- **Solutions are a set.** Let a list of solutions be readable. With another
list that has the same readings, or with the same texts in another order and
repeated at will, a diagnosis has the same answer: it fails with the same fault,
or finds the same up to the order inside the checks that collect a set, and the
categories are the same and in the same order. This holds in whatever order sets
are gone through. -/
theorem diagnose_solution_set {g : Setting} {texts : List String}
    {solutions : List Query} (hsols : g.readSolutions texts = .ok solutions)
    (text : String) (kinds : List DetectorKind) :
    (∀ texts' solutions', g.readSolutions texts' = .ok solutions' →
      SameModels solutions solutions' →
        SameAnswer (diagnose g texts text kinds).1
            (diagnose g texts' text kinds).1 ∧
          categories g texts text kinds = categories g texts' text kinds) ∧
    ∀ texts', (∀ t, t ∈ texts ↔ t ∈ texts') →
      SameAnswer (diagnose g texts text kinds).1
          (diagnose g texts' text kinds).1 ∧
        categories g texts text kinds = categories g texts' text kinds := by
  have hmodels : ∀ texts' solutions', g.readSolutions texts' = .ok solutions' →
      SameModels solutions solutions' →
        SameAnswer (diagnose g texts text kinds).1
            (diagnose g texts' text kinds).1 ∧
          categories g texts text kinds = categories g texts' text kinds := by
    intro texts' solutions' hsols' h
    have hanswer := diagnose_sameAnswer hsols hsols' h text kinds
    exact ⟨hanswer, categories_of_sameAnswer hanswer⟩
  refine ⟨hmodels, fun texts' htexts => ?_⟩
  obtain ⟨solutions', hsols', h⟩ := g.readSolutions_of_mem_iff hsols htexts
  exact hmodels texts' solutions' hsols' h

/-- A setting with two solutions that take their columns from different places,
and a query without any. -/
def Setting.twoKeys : Setting :=
  .ofQueries [emptyQuery,
    { Projection.queryFrom Projection.orderKey with sql := "order" },
    { Projection.queryFrom Projection.customerKey with sql := "customer" }]

/-- The columns that a query lacks are listed in the order of the solutions, and
nothing else depends on this. -/
theorem diagnose_twoKeys :
    (diagnose .twoKeys ["order", "customer"] "" [.logical]).1 =
      .ok [Projection.widthFinding .missingColumn 0 1,
        Projection.sourceFinding .missingColumn Projection.orderKey,
        Projection.sourceFinding .missingColumn Projection.customerKey] ∧
    (diagnose .twoKeys ["customer", "order", "customer"] "" [.logical]).1 =
      .ok [Projection.widthFinding .missingColumn 0 1,
        Projection.sourceFinding .missingColumn Projection.customerKey,
        Projection.sourceFinding .missingColumn Projection.orderKey] ∧
    ∀ kinds,
      SameAnswer (diagnose .twoKeys ["order", "customer"] "" kinds).1
          (diagnose .twoKeys ["customer", "order", "customer"] "" kinds).1 ∧
      categories .twoKeys ["order", "customer"] "" kinds =
        categories .twoKeys ["customer", "order", "customer"] "" kinds := by
  refine ⟨by with_unfolding_all rfl, by with_unfolding_all rfl, fun kinds => ?_⟩
  have hsols : Setting.twoKeys.readSolutions ["order", "customer"] = .ok _ :=
    rfl
  refine (diagnose_solution_set hsols "" kinds).2
    ["customer", "order", "customer"] fun t => ?_
  simp only [List.mem_cons, List.not_mem_nil, or_false]
  tauto

end SqlDiagnosis
