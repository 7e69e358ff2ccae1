import SqlDiagnosis.Finding
import SqlDiagnosis.Proofs.Answer

/-!
# Checks that go from select to select

Several checks look at the selects of a query one after the other. Such a check
is known once it is known what it answers about a single select,

    check q = answer about the first select ++ answer about the second ++ ...,

and the first fault ends it.
-/

namespace SqlDiagnosis

/-- What a check says about one select of a query: what it says when the query
has no other. -/
def answerFor {α : Type} (check : Query → α) (q : Query) (s : Select) : α :=
  check { q with selects := [s] }

/-- A check whose answer is made of those about the selects, one after the
other. -/
def GoesBySelect (check : Query → Except Fault (List Finding)) : Prop :=
  ∀ q, check q = return (← q.selects.mapM (answerFor check q)).flatten

/-! ### Checks that may fail -/

/-- Where a check asks something about each select, this is its answer about
one. -/
theorem answerFor_flatten (make : Select → Except Fault (List Finding))
    (q : Query) (s : Select) :
    answerFor (fun q => return (← q.selects.mapM make).flatten) q s =
      make s := by
  show (do let found ← [s].mapM make; return found.flatten) = make s
  rw [List.mapM_cons, List.mapM_nil]
  -- one answer, joined with nothing
  rcases make s with f | found
  · rfl
  · show Except.ok (found ++ []) = Except.ok found
    rw [List.append_nil]

/-- Such a check goes from select to select. -/
theorem goesBySelect_flatten (make : Select → Except Fault (List Finding)) :
    GoesBySelect fun q => return (← q.selects.mapM make).flatten := by
  intro q
  have hmake :
      answerFor (fun q => return (← q.selects.mapM make).flatten) q = make :=
    funext (answerFor_flatten make q)
  rw [hmake]

/-- The answer about a query with a certain select: those about the selects
before it, about it, and about those after it. -/
theorem GoesBySelect.answer_append {check : Query → Except Fault (List Finding)}
    (h : GoesBySelect check) (q : Query) (earlier later : List Select)
    (s : Select) :
    check { q with selects := earlier ++ s :: later } = (do
      let before ← check { q with selects := earlier }
      let own ← answerFor check q s
      let after ← check { q with selects := later }
      return before ++ own ++ after) := by
  have hanswer : ∀ selects,
      answerFor check { q with selects := selects } = answerFor check q :=
    fun _ => rfl
  rw [h, h { q with selects := earlier }, h { q with selects := later }]
  simp only [hanswer, List.mapM_append, List.mapM_cons, bind_assoc, pure_bind,
    List.flatten_append, List.flatten_cons, List.append_assoc]

/-! ### Checks that cannot fail -/

/-- A check without faults whose findings are those in its selects, one after
the other. -/
def SelectWise (check : Query → List Finding) : Prop :=
  GoesBySelect fun q => .ok (check q)

/-- The same without faults. -/
theorem selectWise_iff {check : Query → List Finding} :
    SelectWise check ↔
      ∀ q, check q = q.selects.flatMap (answerFor check q) := by
  refine forall_congr' fun q => ?_
  -- no select has a fault, so that the answers about them are simply joined
  have hjoin :
      (do return (← q.selects.mapM
          (answerFor (fun q => .ok (check q)) q)).flatten) =
        (.ok (q.selects.flatMap (answerFor check q)) :
          Except Fault (List Finding)) := by
    show (do return (← q.selects.mapM
      (fun s => pure (answerFor check q s))).flatten) = _
    rw [List.mapM_pure]
    rfl
  rw [hjoin, Except.ok.injEq]

theorem answerFor_flatMap (make : Select → List Finding) (q : Query)
    (s : Select) :
    answerFor (fun q => q.selects.flatMap make) q s = make s :=
  List.flatMap_singleton make s

theorem answerFor_filterMap (make : Select → Option Finding) (q : Query)
    (s : Select) :
    answerFor (fun q => q.selects.filterMap make) q s = (make s).toList := by
  show List.filterMap make [s] = _
  rw [List.filterMap_eq_flatMap_toList, List.flatMap_singleton]

theorem selectWise_flatMap (make : Select → List Finding) :
    SelectWise fun q => q.selects.flatMap make := by
  refine selectWise_iff.mpr fun q => List.flatMap_congr fun s _ => ?_
  rw [answerFor_flatMap]

theorem selectWise_filterMap (make : Select → Option Finding) :
    SelectWise fun q => q.selects.filterMap make := by
  refine selectWise_iff.mpr fun q => ?_
  rw [List.filterMap_eq_flatMap_toList]
  refine List.flatMap_congr fun s _ => ?_
  rw [answerFor_filterMap]

end SqlDiagnosis
