import SqlDiagnosis.Proofs.Redundancy
import SqlDiagnosis.Proofs.SelectAnswer

/-!
# Conditions that cannot be converted

A condition is examined as a formula. A condition with a disjunct that has no
formula is passed over, and nothing is lost by it. The parts of the disjuncts
have formulas of their own, and a part may lack one although its disjunct has
one. This is not foreseen: the first such part ends the whole check with its
fault, and what is found about the other selects is lost.

This holds however terms are converted. Of the conversion that is run it is also
said, along the structure of a term, which terms have a formula, and what the
fault is of one that has none.
-/

namespace SqlDiagnosis

/-- A term has a formula: it can be converted, and not to a number. -/
def Conversion.HasFormula (convert : Conversion) (columns : List String)
    (t : Term) : Prop :=
  ∃ f, convert columns t = .ok (some f)

/-! ### Terms with and without a formula -/

/-- The term is a number. -/
def Term.IsNumber : Term → Prop
  | number _ => True
  | _ => False

namespace Connective

/-- A connective can join these terms: it is known, and negates or joins no
number. -/
def Joins : Connective → List Term → Prop
  | not, [] => False
  | not, t :: _ => ¬ t.IsNumber
  | and, ts | or, ts => ∀ t ∈ ts, ¬ t.IsNumber
  | other _, _ => False

/-- The fault of a connective that cannot join some terms. -/
def joinFault : Connective → List Term → Fault
  | not, [] => .listTooShort
  | not, _ :: _ => .notTruthValue
  | and, _ => .notTruthValues "and"
  | or, _ => .notTruthValues "or"
  | other word, _ => .noKey word

end Connective

namespace Term

variable {columns : List String} {t : Term} {ts : List Term} {c : Connective}

/-- Induction on terms, with what is joined as the hypothesis. -/
theorem induction_joined {P : Term → Prop} (truth : ∀ b, P (.truth b))
    (number : ∀ n, P (.number n)) (column : ∀ name, P (.column name))
    (joined : ∀ c ts, (∀ t ∈ ts, P t) → P (.joined c ts)) (t : Term) : P t := by
  match t with
  | .truth b => exact truth b
  | .number n => exact number n
  | .column name => exact column name
  | .joined c ts =>
    exact joined c ts fun t _ => induction_joined truth number column joined t

/-- A term that can be converted: a formula, or a number. -/
inductive Convertible (columns : List String) : Term → Prop where
  | truth (b : Bool) : Convertible columns (.truth b)
  | number (n : Int) : Convertible columns (.number n)
  | column {name : String} (h : name ∈ columns) :
      Convertible columns (.column name)
  | joined {c : Connective} {ts : List Term}
      (hts : ∀ t ∈ ts, Convertible columns t) (hc : c.Joins ts) :
      Convertible columns (.joined c ts)

/-- A term that cannot be converted, with the fault. What is joined is converted
first, and in order. -/
inductive FailsWith (columns : List String) : Term → Fault → Prop where
  | column {name : String} (h : name ∉ columns) :
      FailsWith columns (.column name) (.noKey name)
  | operand {c : Connective} {before after : List Term} {t : Term} {e : Fault}
      (hbefore : ∀ t ∈ before, Convertible columns t)
      (h : FailsWith columns t e) :
      FailsWith columns (.joined c (before ++ t :: after)) e
  | joining {c : Connective} {ts : List Term}
      (hts : ∀ t ∈ ts, Convertible columns t) (hc : ¬ c.Joins ts) :
      FailsWith columns (.joined c ts) (c.joinFault ts)

theorem formulas?_eq_mapM (columns : List String) (ts : List Term) :
    formulas? columns ts = ts.mapM (formula? columns) := by
  induction ts with
  | nil => rw [formulas?, List.mapM_nil]; rfl
  | cons t ts ih => rw [formulas?, List.mapM_cons, ih]

/-- What has no formula, and yet no fault, is a number. -/
theorem eq_none_iff_isNumber {r : Option Formula}
    (h : t.formula? columns = .ok r) : r = none ↔ t.IsNumber := by
  cases t with
  | truth b =>
    rw [formula?] at h
    cases h
    exact iff_of_false (Option.some_ne_none _) id
  | number n =>
    rw [formula?] at h
    cases h
    exact iff_of_true rfl trivial
  | column name =>
    rw [formula?] at h
    split at h
    · cases h
      exact iff_of_false (Option.some_ne_none _) id
    · cases h
  | joined c ts =>
    rw [formula?] at h
    obtain ⟨fs, -, h⟩ := Answer.bind_eq_ok_iff.mp h
    obtain ⟨f, -, h⟩ := Answer.bind_eq_ok_iff.mp h
    cases h
    exact iff_of_false (Option.some_ne_none _) id

/-- Among operands that could be converted, those without a formula are the
numbers. -/
theorem none_mem_iff {fs : List (Option Formula)}
    (h : List.Forall₂ (fun t r => t.formula? columns = .ok r) ts fs) :
    none ∈ fs ↔ ∃ t ∈ ts, t.IsNumber := by
  induction h with
  | nil => simp
  | cons hr _ ih =>
    rw [List.mem_cons, ih, List.exists_mem_cons_iff, eq_comm,
      eq_none_iff_isNumber hr]

/-- A connective joins what is converted if it can, and fails otherwise. -/
theorem join_eq {fs : List (Option Formula)}
    (h : List.Forall₂ (fun t r => t.formula? columns = .ok r) ts fs) :
    (c.Joins ts → ∃ f, c.join fs = .ok f) ∧
      (¬ c.Joins ts → c.join fs = .error (c.joinFault ts)) := by
  have hnumber : fs.contains none = true ↔ ¬ ∀ t ∈ ts, ¬ t.IsNumber := by
    rw [List.contains_iff_mem, none_mem_iff h]
    simp
  cases c with
  | not =>
    -- only the first counts
    cases h with
    | nil => exact ⟨False.elim, fun _ => rfl⟩
    | @cons t r _ _ hr _ =>
      have hnumber := eq_none_iff_isNumber hr
      rcases r with _ | f
      · exact ⟨fun hc => absurd (hnumber.mp rfl) hc, fun _ => rfl⟩
      · exact ⟨fun _ => ⟨_, rfl⟩, fun hc =>
          absurd (fun ht => Option.some_ne_none f (hnumber.mpr ht)) hc⟩
  | and =>
    exact ⟨fun hc => ⟨_, if_neg (mt hnumber.mp (not_not_intro hc))⟩,
      fun hc => if_pos (hnumber.mpr hc)⟩
  | or =>
    exact ⟨fun hc => ⟨_, if_neg (mt hnumber.mp (not_not_intro hc))⟩,
      fun hc => if_pos (hnumber.mpr hc)⟩
  | other word => exact ⟨False.elim, fun _ => rfl⟩

theorem formula?_joined_of_error {e : Fault}
    (h : ts.mapM (formula? columns) = .error e) :
    (joined c ts).formula? columns = .error e := by
  rw [formula?, formulas?_eq_mapM, h]
  rfl

/-- If all operands can be converted, it is up to the connective. -/
theorem formula?_joined (h : ∀ t ∈ ts, ∃ r, t.formula? columns = .ok r) :
    (c.Joins ts → ∃ r, (joined c ts).formula? columns = .ok r) ∧
      (¬ c.Joins ts →
        (joined c ts).formula? columns = .error (c.joinFault ts)) := by
  obtain ⟨fs, hfs⟩ := Answer.mapM_ok_of_forall h
  obtain ⟨hjoin, hfault⟩ :=
    @join_eq columns ts c fs (Answer.mapM_eq_ok_iff.mp hfs)
  rw [formula?, formulas?_eq_mapM, hfs, Answer.ok_bind]
  constructor
  · intro hc
    obtain ⟨f, hf⟩ := hjoin hc
    rw [hf]
    exact ⟨_, rfl⟩
  · intro hc
    rw [hfault hc]
    rfl

/-- What is convertible has a formula, or is a number, without a fault. -/
theorem Convertible.exists_formula? (h : Convertible columns t) :
    ∃ r, t.formula? columns = .ok r := by
  induction h with
  | truth b => rw [formula?]; exact ⟨_, rfl⟩
  | number n => rw [formula?]; exact ⟨_, rfl⟩
  | column h => rw [formula?, if_pos (by simpa using h)]; exact ⟨_, rfl⟩
  | joined _ hc ih => exact (formula?_joined ih).1 hc

theorem FailsWith.formula?_eq {e : Fault} (h : FailsWith columns t e) :
    t.formula? columns = .error e := by
  induction h with
  | column h => rw [formula?, if_neg (by simpa using h)]
  | @operand c before after t e hbefore _ ih =>
    apply formula?_joined_of_error
    exact Answer.mapM_eq_error_iff.mpr ⟨before, t, after, rfl,
      fun t ht => (hbefore t ht).exists_formula?, ih⟩
  | joining hts hc =>
    exact (formula?_joined fun t ht => (hts t ht).exists_formula?).2 hc

/-- The answer tells whether a term can be converted, and what its fault is. -/
theorem of_formula?_eq (columns : List String) (t : Term) :
    (∀ r, t.formula? columns = .ok r → Convertible columns t) ∧
      ∀ e, t.formula? columns = .error e → FailsWith columns t e := by
  -- both at once, since an operand before the one that fails has to be
  -- convertible
  induction t using induction_joined with
  | truth b =>
    exact ⟨fun _ _ => .truth b, fun e h => by rw [formula?] at h; cases h⟩
  | number n =>
    exact ⟨fun _ _ => .number n, fun e h => by rw [formula?] at h; cases h⟩
  | column name =>
    rw [formula?]
    split
    · rename_i h
      exact ⟨fun _ _ => .column (by simpa using h), nofun⟩
    · rename_i h
      refine ⟨nofun, fun e he => ?_⟩
      cases he
      exact .column (by simpa using h)
  | joined c ts ih =>
    rcases hts : ts.mapM (formula? columns) with e | fs
    · -- the first operand that fails
      rw [formula?_joined_of_error hts]
      obtain ⟨before, t, after, rfl, hbefore, ht⟩ :=
        Answer.mapM_eq_error_iff.mp hts
      refine ⟨nofun, fun e' he' => ?_⟩
      cases he'
      refine .operand (fun t' ht' => ?_) ((ih t (by simp)).2 e ht)
      obtain ⟨r, hr⟩ := hbefore t' ht'
      exact (ih t' (by simp [ht'])).1 r hr
    · -- all operands are converted, and it depends on the connective
      have hall : ∀ t ∈ ts, ∃ r, t.formula? columns = .ok r := by
        intro t ht
        obtain ⟨r, -, hr⟩ := Answer.exists_mem_of_mapM hts ht
        exact ⟨r, hr⟩
      have hconvertible : ∀ t ∈ ts, Convertible columns t := by
        intro t ht
        obtain ⟨r, hr⟩ := hall t ht
        exact (ih t ht).1 r hr
      by_cases hc : c.Joins ts
      · obtain ⟨r, hr⟩ := (formula?_joined hall).1 hc
        rw [hr]
        exact ⟨fun _ _ => .joined hconvertible hc, nofun⟩
      · rw [(formula?_joined hall).2 hc]
        refine ⟨nofun, fun e he => ?_⟩
        cases he
        exact .joining hconvertible hc

theorem exists_formula?_iff :
    (∃ r, t.formula? columns = .ok r) ↔ Convertible columns t := by
  refine ⟨?_, Convertible.exists_formula?⟩
  rintro ⟨r, hr⟩
  exact (of_formula?_eq columns t).1 r hr

theorem formula?_eq_error_iff {e : Fault} :
    t.formula? columns = .error e ↔ FailsWith columns t e :=
  ⟨(of_formula?_eq columns t).2 e, FailsWith.formula?_eq⟩

/-- A term has a formula if it can be converted and is no number. -/
theorem hasFormula_formula?_iff :
    Conversion.HasFormula formula? columns t ↔
      Convertible columns t ∧ ¬ t.IsNumber := by
  rw [← exists_formula?_iff]
  constructor
  · rintro ⟨f, hf⟩
    refine ⟨⟨_, hf⟩, ?_⟩
    rw [← eq_none_iff_isNumber hf]
    exact Option.some_ne_none f
  · rintro ⟨⟨r, hr⟩, hnumber⟩
    rw [← eq_none_iff_isNumber hr] at hnumber
    obtain ⟨f, rfl⟩ := Option.ne_none_iff_exists'.mp hnumber
    exact ⟨f, hr⟩

end Term

namespace Condition

variable {convert : Conversion} {columns : List String} {s : Select} {e : Fault}

/-! ### The fault of a condition -/

/-- The parts of a disjunct fail as their terms do. -/
theorem parts_eq_error_iff {d : Disjunct} :
    parts convert columns d = .error e ↔
      d.parts.mapM (fun p => convert columns p.term) = .error e := by
  rw [parts, Answer.bind_return_eq_error_iff]
  exact Answer.mapM_eq_error_congr
    (fun p _ e => Answer.bind_return_eq_error_iff) e

theorem disjunctFindings_eq_error_iff {d : Disjunct} {f : Formula}
    {others : List Formula} :
    disjunctFindings convert columns d f others = .error e ↔
      d.parts.mapM (fun p => convert columns p.term) = .error e := by
  rw [disjunctFindings, Answer.bind_return_eq_error_iff, parts_eq_error_iff]

/-- The first part that cannot be converted makes the fault, if all disjuncts
have formulas. -/
theorem conditionFindings_eq_error_iff {condition : List Disjunct} :
    conditionFindings convert columns condition = .error e ↔
      (∀ d ∈ condition, convert.HasFormula columns d.term) ∧
        (condition.flatMap (·.parts)).mapM (fun p => convert columns p.term) =
          .error e := by
  rw [conditionFindings]
  rcases hfs : condition.mapM (fun d => convert.formula columns d.term) with
    fault | fs
  · rw [hfs]
    obtain ⟨d, hd, hfault⟩ := Answer.exists_of_mapM_error hfs
    refine iff_of_false (by simp) fun h => ?_
    obtain ⟨f, hf⟩ := h.1 d hd
    rw [Conversion.formula_eq_ok_iff.mpr hf] at hfault
    cases hfault
  · have hall : ∀ d ∈ condition, convert.HasFormula columns d.term := by
      intro d hd
      obtain ⟨f, -, hf⟩ := Answer.exists_mem_of_mapM hfs hd
      exact ⟨f, Conversion.formula_eq_ok_iff.mp hf⟩
    have hlength : condition.length = fs.length :=
      (Answer.mapM_eq_ok_iff.mp hfs).length_eq
    -- the disjuncts are examined with their formulas and places, which are no
    -- matter for the fault
    have hdisjuncts : (condition.zip fs).zipIdx.map (·.1.1) = condition := by
      show (condition.zip fs).zipIdx.map (Prod.fst ∘ Prod.fst) = condition
      rw [← List.map_map, List.zipIdx_map_fst]
      exact List.map_fst_zip (Nat.le_of_eq hlength)
    rw [hfs, and_iff_right hall, Answer.mapM_flatMap,
      Answer.bind_return_eq_error_iff, Answer.bind_return_eq_error_iff]
    conv_rhs => rw [← hdisjuncts, List.mapM_map]
    exact Answer.mapM_eq_error_congr
      (fun x _ e => disjunctFindings_eq_error_iff) e

/-! ### The fault of a query -/

/-- The columns that the condition of a select may use. -/
def knownColumns (s : Select) : List String := s.columnNames.filterMap id

/-- A select is passed over: some disjunct of its condition has no formula. -/
def IsSkipped (convert : Conversion) (s : Select) : Prop :=
  ∃ d ∈ s.condition, ¬ convert.HasFormula (knownColumns s) d.term

/-- A select ends the check with a fault: its disjuncts have formulas, and the
fault is that of the first of their parts that cannot be converted. -/
def BreaksWith (convert : Conversion) (s : Select) (e : Fault) : Prop :=
  (∀ d ∈ s.condition, convert.HasFormula (knownColumns s) d.term) ∧
    ∃ before p after, s.condition.flatMap (·.parts) = before ++ p :: after ∧
      (∀ p ∈ before, ∃ r, convert (knownColumns s) p.term = .ok r) ∧
        convert (knownColumns s) p.term = .error e

/-- What is found about one select. -/
def selectFindings (convert : Conversion) (s : Select) :
    Except Fault (List Finding) :=
  if !s.condition.isEmpty then
    conditionFindings convert (knownColumns s) s.condition
  else .ok []

/-- The check goes from select to select; a select without a condition
contributes nothing. -/
theorem redundancyFindings_eq_flatten :
    redundancyFindings convert = fun q =>
      return (← q.selects.mapM (selectFindings convert)).flatten := by
  funext q
  exact Answer.flatten_mapM_filter (!·.condition.isEmpty)
    (fun s => conditionFindings convert (knownColumns s) s.condition) _

theorem goesBySelect_redundancyFindings :
    GoesBySelect (redundancyFindings convert) := by
  rw [redundancyFindings_eq_flatten]
  exact goesBySelect_flatten (selectFindings convert)

/-- A select ends the check exactly when some part breaks it. -/
theorem selectFindings_eq_error_iff :
    selectFindings convert s = .error e ↔ BreaksWith convert s e := by
  have hbreaks : BreaksWith convert s e ↔
      conditionFindings convert (knownColumns s) s.condition = .error e := by
    rw [conditionFindings_eq_error_iff, Answer.mapM_eq_error_iff]
    rfl
  rw [hbreaks, selectFindings]
  rcases s.condition with _ | ⟨d, condition⟩
  · -- a select without a condition has no parts
    exact iff_of_false nofun (show ¬ Except.ok _ = Except.error e from nofun)
  · rfl

/-- A select that is passed over contributes nothing. -/
theorem selectFindings_of_isSkipped (h : IsSkipped convert s) :
    selectFindings convert s = .ok [] := by
  obtain ⟨d, hd, hformula⟩ := h
  rcases hfs :
    s.condition.mapM (fun d => convert.formula (knownColumns s) d.term)
    with fault | fs
  · rw [selectFindings, conditionFindings, hfs]
    exact ite_self _
  · obtain ⟨f, -, hf⟩ := Answer.exists_mem_of_mapM hfs hd
    exact absurd ⟨f, Conversion.formula_eq_ok_iff.mp hf⟩ hformula

/-- **Conditions that cannot be converted.** However terms are converted, the
check goes from select to select. A select with a disjunct that has no formula
adds nothing and takes nothing away. The check has an answer exactly when there
is no select whose disjuncts have formulas while some part of them cannot be
converted, and otherwise fails with the first fault of the first such select. Of
the conversion that is run, the structure of a term says whether it can be
converted, and what the fault is if it cannot. -/
theorem unconvertible_select (convert : Conversion) (q : Query) :
    GoesBySelect (redundancyFindings convert) ∧
    (∀ earlier s later, IsSkipped convert s →
      redundancyFindings convert { q with selects := earlier ++ s :: later } =
        redundancyFindings convert { q with selects := earlier ++ later }) ∧
    ((∃ found, redundancyFindings convert q = .ok found) ↔
      ∀ s ∈ q.selects, ∀ fault, ¬ BreaksWith convert s fault) ∧
    (∀ fault, redundancyFindings convert q = .error fault ↔
      ∃ earlier s later, q.selects = earlier ++ s :: later ∧
        (∀ s' ∈ earlier, ∀ fault', ¬ BreaksWith convert s' fault') ∧
          BreaksWith convert s fault) ∧
    ∀ columns t,
      ((∃ r, Term.formula? columns t = .ok r) ↔ t.Convertible columns) ∧
      (Conversion.HasFormula Term.formula? columns t ↔
        t.Convertible columns ∧ ¬ t.IsNumber) ∧
      ∀ fault, Term.formula? columns t = .error fault ↔
        t.FailsWith columns fault := by
  have hbreaks : ∀ s, (∃ found, selectFindings convert s = .ok found) ↔
      ∀ fault, ¬ BreaksWith convert s fault := by
    intro s
    rw [Answer.exists_ok_iff]
    exact forall_congr' fun fault => not_congr selectFindings_eq_error_iff
  refine ⟨goesBySelect_redundancyFindings, fun earlier s later hskipped => ?_,
    ?_, fun fault => ?_, fun columns t => ?_⟩
  · rw [redundancyFindings_eq_flatten]
    show (do
        return (← (earlier ++ s :: later).mapM
          (selectFindings convert)).flatten) =
      (do return (← (earlier ++ later).mapM (selectFindings convert)).flatten :
        Except Fault (List Finding))
    rw [List.mapM_append, List.mapM_append, List.mapM_cons,
      selectFindings_of_isSkipped hskipped]
    simp only [Answer.ok_bind, bind_assoc, pure_bind, List.flatten_append,
      List.flatten_cons, List.nil_append]
  · rw [redundancyFindings_eq_flatten, Answer.exists_bind_return_iff,
      Answer.exists_mapM_iff]
    exact forall_congr' fun s => forall_congr' fun _ => hbreaks s
  · rw [redundancyFindings_eq_flatten, Answer.bind_return_eq_error_iff,
      Answer.mapM_eq_error_iff]
    simp only [hbreaks, selectFindings_eq_error_iff]
  · exact ⟨Term.exists_formula?_iff, Term.hasFormula_formula?_iff,
      fun fault => Term.formula?_eq_error_iff⟩

/-! ### Casts to a truth value -/

/-- A cast to a truth value says what the column says. The name of the type
counts as one of its parts. -/
def castCondition : List Disjunct :=
  [⟨"CAST(paid AS BOOLEAN)", .column "paid",
    [⟨"paid", .column "paid"⟩, ⟨"BOOLEAN", .column "BOOLEAN"⟩]⟩]

/-- The condition that is always true. -/
def trueCondition : List Disjunct := [⟨"TRUE", .truth true, []⟩]

/-- Where the column is unknown, the cast is passed over, and the tautology in
the other select is found. -/
theorem unknown_column_skipped :
    IsSkipped Term.formula? (selectWhere ["id"] castCondition) ∧
      redundancyFindings Term.formula?
          (queryOf [selectWhere ["id"] castCondition,
            selectWhere ["id"] trueCondition]) =
        .ok [finding "tautology" []] := by
  have hskipped :
      IsSkipped Term.formula? (selectWhere ["id"] castCondition) := by
    refine ⟨_, List.mem_singleton_self _, fun h => ?_⟩
    obtain ⟨f, hf⟩ := h
    cases hf
  refine ⟨hskipped, ?_⟩
  exact ((unconvertible_select Term.formula? (queryOf [])).2.1
    [] _ [selectWhere ["id"] trueCondition] hskipped).trans rfl

/-- Where the column is known, the name of the type is looked up among the
columns, and the tautology is lost. -/
theorem type_name_breaks :
    redundancyFindings Term.formula?
          (queryOf [selectWhere ["id", "paid"] trueCondition]) =
        .ok [finding "tautology" []] ∧
      redundancyFindings Term.formula?
          (queryOf [selectWhere ["id", "paid"] castCondition,
            selectWhere ["id", "paid"] trueCondition]) =
        .error (.noKey "BOOLEAN") :=
  ⟨rfl, rfl⟩

end Condition

end SqlDiagnosis
