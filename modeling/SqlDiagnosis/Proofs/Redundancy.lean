import Mathlib.Data.List.Perm.Basic
import SqlDiagnosis.Check.Condition
import SqlDiagnosis.Proofs.Answer
import SqlDiagnosis.Proofs.Satisfiability

/-!
# Redundancy is decided exactly

The checks on a condition ask whether certain formulas can be true. What the
answers mean is said here without them: a disjunct is redundant when the
condition without it is equivalent, and a part of a disjunct is redundant when
the condition in which the disjunct has only its other parts is equivalent. The
findings about a condition are the verdicts in these terms, all of them and in
order.
-/

namespace SqlDiagnosis

namespace Formula

variable {fs : List Formula} {f g : Formula} {i : Nat}

/-! ### One member of a disjunction or conjunction -/

/-- A disjunction is true if the disjunct at a place is or the others are. -/
theorem eval_any_of_getElem? (h : fs[i]? = some f) (ρ : String → Bool) :
    (any fs).eval ρ = (f.eval ρ || (any (fs.eraseIdx i)).eval ρ) := by
  obtain ⟨hi, rfl⟩ := List.getElem?_eq_some_iff.1 h
  rw [eval_any, eval_any, ← (List.getElem_cons_eraseIdx_perm hi).any_eq,
    List.any_cons]

theorem eval_all_of_getElem? (h : fs[i]? = some f) (ρ : String → Bool) :
    (all fs).eval ρ = (f.eval ρ && (all (fs.eraseIdx i)).eval ρ) := by
  obtain ⟨hi, rfl⟩ := List.getElem?_eq_some_iff.1 h
  rw [eval_all, eval_all, ← (List.getElem_cons_eraseIdx_perm hi).all_eq,
    List.all_cons]

theorem eval_any_set (hi : i < fs.length) (g : Formula) (ρ : String → Bool) :
    (any (fs.set i g)).eval ρ = (g.eval ρ || (any (fs.eraseIdx i)).eval ρ) := by
  rw [eval_any_of_getElem? (List.getElem?_set_self hi), List.eraseIdx_set_eq]

/-! ### What can be left out of a disjunction -/

/-- The disjunction without the disjunct at a place is equivalent. -/
def Deletable (fs : List Formula) (i : Nat) : Prop :=
  (any (fs.eraseIdx i)).Equivalent (any fs)

/-- The disjunction with another formula in place of the disjunct at a place is
equivalent. -/
def Replaceable (fs : List Formula) (i : Nat) (g : Formula) : Prop :=
  (any (fs.set i g)).Equivalent (any fs)

/-- A disjunct can be left out when it is never true without one of the
others. -/
theorem deletable_iff (h : fs[i]? = some f) :
    Deletable fs i ↔ (and f (not (any (fs.eraseIdx i)))).Unsatisfiable := by
  refine forall_congr' fun ρ => ?_
  rw [eval_any_of_getElem? h, eval, eval]
  cases f.eval ρ <;> simp

/-- A conjunction can be replaced by that of its other parts when the part left
out follows from them and from the other disjuncts being false. -/
theorem replaceable_iff {as : List Formula} {a : Formula} {j : Nat}
    (h : fs[i]? = some f) (hf : f.Equivalent (all as)) (ha : as[j]? = some a) :
    Replaceable fs i (all (as.eraseIdx j)) ↔
      (and (not a) (and (all (as.eraseIdx j))
        (not (any (fs.eraseIdx i))))).Unsatisfiable := by
  obtain ⟨hi, -⟩ := List.getElem?_eq_some_iff.1 h
  -- Under each assignment the two formulas differ exactly where the other parts
  -- are true, this one is not, and no other disjunct makes up for it.
  refine forall_congr' fun ρ => ?_
  rw [eval_any_set hi, eval_any_of_getElem? h, hf ρ, eval_all_of_getElem? ha,
    eval, eval, eval, eval]
  generalize (all (as.eraseIdx j)).eval ρ = rest,
    (any (fs.eraseIdx i)).eval ρ = others
  cases a.eval ρ <;> cases rest <;> cases others <;> decide

theorem unsatisfiable_not_iff : (not f).Unsatisfiable ↔ f.Valid :=
  forall_congr' fun ρ => by rw [eval, Bool.not_eq_false']

theorem Unsatisfiable.not_valid (h : f.Unsatisfiable) : ¬ f.Valid := by
  intro hv
  have hfalse : f.eval (fun _ => false) = false := h _
  rw [hv] at hfalse
  cases hfalse

end Formula

/-- A term that must be a formula is the formula that it is converted to. -/
theorem Conversion.formula_eq_ok_iff {convert : Conversion}
    {columns : List String} {t : Term} {f : Formula} :
    convert.formula columns t = .ok f ↔ convert columns t = .ok (some f) := by
  constructor
  · intro h
    obtain ⟨r, hr, h⟩ := Answer.bind_eq_ok_iff.1 h
    rcases r with _ | g
    · cases h
    · cases h
      exact hr
  · intro h
    rw [formula, h]
    rfl

namespace Condition

open Formula

variable {convert : Conversion}

/-! ### Verdicts -/

/-- A disjunct as formulas, with the texts: what it says as a whole, and its
parts, which say the same together. -/
structure Clause where
  sql : String
  whole : Formula
  parts : List (String × Formula)
  whole_equivalent : whole.Equivalent (.all (parts.map (·.2)))

/-- A disjunct and each of its parts are formulas over the columns, namely those
of the clause. -/
structure Denotes (convert : Conversion) (columns : List String) (d : Disjunct)
    (c : Clause) : Prop where
  sql : d.sql = c.sql
  whole : convert.formula columns d.term = .ok c.whole
  parts :
      List.Forall₂
        (fun p a => p.sql = a.1 ∧ convert.formula columns p.term = .ok a.2)
        d.parts c.parts

/-- The formulas of some clauses. -/
def wholes (cs : List Clause) : List Formula := cs.map (·.whole)

/-- The conjunction of all parts of a clause but one. -/
def Clause.without (c : Clause) (j : Nat) : Formula :=
  .all ((c.parts.map (·.2)).eraseIdx j)

open Classical in
/-- The verdict on a condition as a whole. -/
noncomputable def wholeVerdict (fs : List Formula) : List Finding :=
  (if (any fs).Unsatisfiable then
      [⟨.redundantCondition, [.text "contradiction"]⟩] else []) ++
    (if (any fs).Valid then
      [⟨.redundantCondition, [.text "tautology"]⟩] else [])

open Classical in
/-- The verdict on the clause at a place among some disjuncts, followed by those
on its parts. -/
noncomputable def clauseVerdicts (fs : List Formula) (c : Clause) (i : Nat) :
    List Finding :=
  (if Deletable fs i then
      [⟨.redundantCondition, [.text "redundant_disjunct", .text c.sql]⟩]
    else []) ++
    (c.parts.zipIdx.filter fun (_, j) => Replaceable fs i (c.without j)).map
      fun (a, _) =>
        ⟨.redundantCondition,
          [.text "redundant_conjunct", .tuple [.text c.sql, .text a.1]]⟩

/-- The verdicts on a condition: that on the whole, then those on each
clause. -/
noncomputable def verdicts (cs : List Clause) : List Finding :=
  wholeVerdict (wholes cs) ++
    cs.zipIdx.flatMap fun (c, i) => clauseVerdicts (wholes cs) c i

/-! ### The findings are the verdicts -/

theorem wholeFindings_eq (fs : List Formula) :
    wholeFindings fs = wholeVerdict fs := by
  -- The search for a tautology is skipped after a contradiction, which cannot
  -- be one.
  have hu := not_satisfiable_iff (any fs)
  have hv := (not_satisfiable_iff (not (any fs))).trans unsatisfiable_not_iff
  by_cases h : (any fs).Unsatisfiable
  · simp [wholeFindings, wholeVerdict, finding, hu.2 h, h, h.not_valid]
  · classical
    rw [wholeVerdict, if_neg h, List.nil_append, wholeFindings,
      if_neg (mt hu.1 h)]
    exact if_congr hv rfl rfl

/-- The search tells which disjuncts can be left out. -/
theorem isRedundantDisjunct_iff {fs : List Formula} {f : Formula} {i : Nat}
    (h : fs[i]? = some f) :
    isRedundantDisjunct f (fs.eraseIdx i) = true ↔ Deletable fs i :=
  (not_satisfiable_iff _).trans (deletable_iff h).symm

theorem isRedundantPart_iff {fs : List Formula} {c : Clause}
    {a : String × Formula} {i j : Nat} (h : fs[i]? = some c.whole)
    (ha : c.parts[j]? = some a) :
    isRedundantPart a.2 ((c.parts.map (·.2)).eraseIdx j) (fs.eraseIdx i) =
        true ↔
      Replaceable fs i (c.without j) := by
  have hj : (c.parts.map (·.2))[j]? = some a.2 := by
    rw [List.getElem?_map, ha, Option.map_some]
  exact (not_satisfiable_iff _).trans
    (replaceable_iff h c.whole_equivalent hj).symm

/-- The parts of a disjunct are read as those of the clause. -/
theorem Denotes.parts_eq {columns : List String} {d : Disjunct} {c : Clause}
    (h : Denotes convert columns d c) :
    Condition.parts convert columns d = .ok c.parts := by
  have hconverted :
      d.parts.mapM
          (fun p => return (← convert columns p.term).map fun f => (p.sql, f)) =
        (.ok (c.parts.map some) :
          Except Fault (List (Option (String × Formula)))) := by
    rw [Answer.mapM_eq_ok_iff, List.forall₂_map_right_iff]
    refine h.parts.imp ?_
    rintro p ⟨sql, f⟩ ⟨hsql, hf⟩
    rw [Conversion.formula_eq_ok_iff.mp hf, hsql]
    rfl
  rw [Condition.parts, hconverted]
  simp [pure, Except.pure]

/-- The findings about one disjunct are the verdicts on its clause. -/
theorem Denotes.disjunctFindings_eq {columns : List String} {d : Disjunct}
    {c : Clause} (h : Denotes convert columns d c) {fs : List Formula} {i : Nat}
    (hi : fs[i]? = some c.whole) :
    disjunctFindings convert columns d c.whole (fs.eraseIdx i) =
      .ok (clauseVerdicts fs c i) := by
  rw [disjunctFindings, h.parts_eq, h.sql, Answer.ok_bind]
  classical
  -- the disjunct itself, and then its parts in order
  refine congrArg Except.ok (congrArg₂ (· ++ ·) ?_ ?_)
  · exact if_congr (isRedundantDisjunct_iff hi) rfl rfl
  · refine congrArg (List.map _) (List.filter_congr ?_)
    rintro ⟨a, j⟩ ha
    rw [Bool.eq_iff_iff, decide_eq_true_iff]
    exact isRedundantPart_iff hi (List.mem_zipIdx_iff_getElem?.1 ha)

/-- The findings about a condition are its verdicts. -/
theorem conditionFindings_eq {columns : List String} {condition : List Disjunct}
    {cs : List Clause}
    (h : List.Forall₂ (Denotes convert columns) condition cs) :
    conditionFindings convert columns condition = .ok (verdicts cs) := by
  have hwhole : condition.mapM (fun d => convert.formula columns d.term) =
      .ok (wholes cs) := by
    rw [Answer.mapM_eq_ok_iff, wholes, List.forall₂_map_right_iff]
    exact h.imp fun _ _ hd => hd.whole
  have hfound :
      List.Forall₂
        (fun x found => disjunctFindings convert columns x.1.1 x.1.2
          ((wholes cs).eraseIdx x.2) = .ok found)
        (condition.zip (wholes cs)).zipIdx
        (cs.zipIdx.map fun x => clauseVerdicts (wholes cs) x.1 x.2) := by
    -- The disjunct at each place denotes the clause there, and the formula
    -- there is that of the clause.
    obtain ⟨hlen, hget⟩ := List.forall₂_iff_get.1 h
    rw [List.forall₂_iff_get]
    refine ⟨by simp [wholes, hlen], fun i hi hi' => ?_⟩
    have hc : i < cs.length := by simpa using hi'
    have hd : i < condition.length := hlen ▸ hc
    have hwi : (wholes cs)[i]? = some cs[i].whole := by simp [wholes, hc]
    simpa [wholes] using (hget i hd hc).disjunctFindings_eq hwi
  rw [conditionFindings, hwhole, verdicts, List.flatMap_def, ← wholeFindings_eq]
  exact Answer.bind_eq_ok_iff.2 ⟨_, Answer.mapM_eq_ok_iff.2 hfound, rfl⟩

/-- The findings about a query are those about its conditions, one after the
other. -/
theorem redundancyFindings_eq {q : Query} {before after : List Select}
    {s : Select} {found : List Finding} (hq : q.selects = before ++ s :: after)
    (hs : s.condition ≠ [])
    (hfound : conditionFindings convert (s.columnNames.filterMap id)
      s.condition = .ok found) :
    redundancyFindings convert q = (do
      let earlier ← redundancyFindings convert { q with selects := before }
      let later ← redundancyFindings convert { q with selects := after }
      return earlier ++ found ++ later) := by
  have hkept : (!s.condition.isEmpty) = true := by
    simpa using hs
  simp only [redundancyFindings, hq, List.filter_append, List.filter_cons,
    hkept, if_true, List.mapM_append, List.mapM_cons, hfound, Answer.ok_bind,
    bind_assoc, pure_bind, List.flatten_append, List.flatten_cons,
    List.append_assoc]

/-- However terms are converted: where each disjunct of a condition is a formula
and says what its parts, which are formulas too, say together, the findings
about the condition are exactly its verdicts, whatever is found about the other
selects of the query; and no condition is both a contradiction and a
tautology. -/
theorem redundancyFindings_exact {q : Query} {before after : List Select}
    {s : Select} {cs : List Clause} (hq : q.selects = before ++ s :: after)
    (hs : s.condition ≠ [])
    (hcs : List.Forall₂ (Denotes convert (s.columnNames.filterMap id))
      s.condition cs) :
    conditionFindings convert (s.columnNames.filterMap id) s.condition =
        .ok (verdicts cs) ∧
      redundancyFindings convert q = (do
        let earlier ← redundancyFindings convert { q with selects := before }
        let later ← redundancyFindings convert { q with selects := after }
        return earlier ++ verdicts cs ++ later) ∧
      ¬ ((any (wholes cs)).Unsatisfiable ∧ (any (wholes cs)).Valid) := by
  have hfound := conditionFindings_eq hcs
  refine ⟨hfound, redundancyFindings_eq hq hs hfound, ?_⟩
  rintro ⟨hu, hv⟩
  exact hu.not_valid hv

/-! ### A case distinction -/

/-- A select from a table with some columns. -/
def selectWhere (columns : List String) (condition : List Disjunct) : Select :=
  let block : QueryBlock :=
    ⟨"", none, none, [], [⟨none, none, none, none, columns.map some⟩], ⟨[]⟩,
      "public", [], false, false, false, false, ⟨none, [], []⟩, []⟩
  ⟨block, block, block, [], condition⟩

/-- A query of some selects. -/
def queryOf (selects : List Select) : Query :=
  ⟨⟨[], selects, [], [], ⟨⟨none, [], []⟩, []⟩, []⟩, ""⟩

/-- The two cases of `b` under `a`. -/
def caseSplit : List Disjunct :=
  [⟨"a AND b", .joined .and [.column "a", .column "b"],
      [⟨"a", .column "a"⟩, ⟨"b", .column "b"⟩]⟩,
    ⟨"a AND NOT b", .joined .and [.column "a", .joined .not [.column "b"]],
      [⟨"a", .column "a"⟩, ⟨"NOT b", .joined .not [.column "b"]⟩]⟩]

/-- The formulas of the two cases. -/
def caseSplitClauses : List Clause :=
  [⟨"a AND b", .all [.var "a", .var "b"],
      [("a", .var "a"), ("b", .var "b")], fun _ => rfl⟩,
    ⟨"a AND NOT b", .all [.var "a", .not (.var "b")],
      [("a", .var "a"), ("NOT b", .not (.var "b"))], fun _ => rfl⟩]

/-- Neither case can be deleted, but in each the part that tells them apart can.
A condition that is not a formula stands before it and adds nothing. -/
theorem redundancyFindings_caseSplit :
    List.Forall₂ (Denotes Term.formula? ["a", "b"]) caseSplit caseSplitClauses ∧
      redundancyFindings Term.formula?
          (queryOf
            [selectWhere [] caseSplit, selectWhere ["a", "b"] caseSplit]) =
        .ok (verdicts caseSplitClauses) ∧
      verdicts caseSplitClauses =
        [⟨.redundantCondition,
            [.text "redundant_conjunct", .tuple [.text "a AND b", .text "b"]]⟩,
          ⟨.redundantCondition,
            [.text "redundant_conjunct",
              .tuple [.text "a AND NOT b", .text "NOT b"]]⟩] := by
  have hdenotes : List.Forall₂ (Denotes Term.formula? ["a", "b"]) caseSplit
      caseSplitClauses := by
    refine .cons ⟨rfl, rfl, ?_⟩ (.cons ⟨rfl, rfl, ?_⟩ .nil)
    · exact .cons ⟨rfl, rfl⟩ (.cons ⟨rfl, rfl⟩ .nil)
    · exact .cons ⟨rfl, rfl⟩ (.cons ⟨rfl, rfl⟩ .nil)
  obtain ⟨hfound, hall, -⟩ := @redundancyFindings_exact Term.formula?
    (queryOf [selectWhere [] caseSplit, selectWhere ["a", "b"] caseSplit])
    [selectWhere [] caseSplit] [] (selectWhere ["a", "b"] caseSplit)
    caseSplitClauses rfl (List.cons_ne_nil _ _) hdenotes
  refine ⟨hdenotes, ?_, ?_⟩
  · exact hall.trans
      (congrArg Except.ok (List.append_nil (verdicts caseSplitClauses)))
  · refine Except.ok.inj (hfound.symm.trans ?_)
    rfl

end Condition

end SqlDiagnosis
