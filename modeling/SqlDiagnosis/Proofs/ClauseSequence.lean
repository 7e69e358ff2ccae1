import Mathlib.Data.List.Perm.Subperm
import Mathlib.Data.List.Sort
import SqlDiagnosis.Proofs.ClauseRepetition

/-!
# The sequence of clauses

The clauses of a select are a part of the standard sequence SELECT, FROM, WHERE
and so on when none comes twice and none comes too late. The first is what the
check for repeated clauses asks. The check of the order looks at neighbours
only. That is enough, since the places in the sequence are numbers and `≤` is
transitive: of two clauses in the wrong order, however far apart, there are two
neighbours between them that are.

    K is a part of the sequence  ↔
      K has no repetition  ∧  no neighbours in K are in the wrong order

The two checks do not read tokens alike. For the order, every statement counts
as SELECT and a SELECT keyword is not seen; for repetitions it is the word that
counts. Where all statements are SELECT, and no keyword is, both see the same
clauses.
-/

namespace SqlDiagnosis.Clause

variable {c d : Clause} {cs : List Clause}

/-! ### Places in the sequence -/

/-- Two clauses are never at the same place of the standard sequence. -/
theorem rank_injective : Function.Injective rank := by
  intro c d h
  exact (List.idxOf_inj (mem_order c)).mp h

/-- A clause is the same as another one or comes before it in the standard
sequence. -/
def NotAfter (c d : Clause) : Prop := c.rank ≤ d.rank

instance : Trans NotAfter NotAfter NotAfter := ⟨Nat.le_trans⟩

instance : Std.Antisymm NotAfter :=
  ⟨fun _ _ hcd hdc => rank_injective (Nat.le_antisymm hcd hdc)⟩

/-- The standard sequence is in order. -/
theorem pairwise_order : order.Pairwise NotAfter := by
  show order.Pairwise fun c d => c.rank ≤ d.rank
  decide

theorem nodup_order : order.Nodup := by
  decide

/-- What the check asks of neighbours holds of all pairs. -/
theorem inOrder_iff_pairwise : inOrder cs ↔ cs.Pairwise NotAfter := by
  -- as a chain both sides speak of neighbours; that a chain holds of all pairs
  -- is transitivity
  rw [← List.isChain_iff_pairwise]
  induction cs with
  | nil => simp [inOrder]
  | cons c rest ih =>
    cases rest with
    | nil => simp [inOrder]
    | cons d rest =>
      rw [inOrder, Bool.and_eq_true, decide_eq_true_eq,
        List.isChain_cons_cons, ih]
      rfl

/-- Clauses are a part of the standard sequence when none is repeated and they
are in order. -/
theorem sublist_order_iff : cs.Sublist order ↔ cs.Nodup ∧ inOrder cs := by
  rw [inOrder_iff_pairwise]
  constructor
  · -- parts of a sequence that is in order and has no duplicates are such again
    intro h
    exact ⟨nodup_order.sublist h, pairwise_order.sublist h⟩
  · rintro ⟨hnodup, hpairwise⟩
    -- the standard sequence has all clauses, and there is only one way to order
    -- a choice of them
    have hall : cs ⊆ order := fun c _ => mem_order c
    exact List.sublist_of_subperm_of_pairwise
      (hnodup.subperm hall) hpairwise pairwise_order

/-- A clause comes before another one in the standard sequence. -/
def Precedes (c d : Clause) : Prop := [c, d].Sublist order

/-- Of two clauses one precedes the other, or they are the same. -/
theorem precedes_iff : Precedes c d ↔ ¬ NotAfter d c := by
  have hne : c ∉ [d] ↔ c.rank ≠ d.rank := by
    rw [List.mem_singleton, ← rank_injective.eq_iff]
  unfold Precedes NotAfter
  rw [sublist_order_iff, inOrder_iff_pairwise, List.pairwise_pair,
    List.nodup_cons, hne, and_iff_left (List.nodup_singleton d)]
  show c.rank ≠ d.rank ∧ c.rank ≤ d.rank ↔ ¬ d.rank ≤ c.rank
  omega

/-- Clauses at two places of a list are in the wrong order. -/
def Misplaced (cs : List Clause) : Prop :=
  ∃ (i j : Nat) (c d : Clause), i < j ∧ cs[i]? = some c ∧ cs[j]? = some d ∧
    Precedes d c

/-- If the check of neighbours fails, there are two clauses in the wrong order,
and the other way round. -/
theorem misplaced_iff : Misplaced cs ↔ ¬ inOrder cs := by
  rw [inOrder_iff_pairwise, List.pairwise_iff_getElem]
  constructor
  · rintro ⟨i, j, c, d, hij, hi, hj, hwrong⟩ hall
    obtain ⟨hilt, rfl⟩ := List.getElem?_eq_some_iff.mp hi
    obtain ⟨hjlt, rfl⟩ := List.getElem?_eq_some_iff.mp hj
    exact precedes_iff.mp hwrong (hall i j hilt hjlt hij)
  · intro h
    push Not at h
    obtain ⟨i, j, hi, hj, hij, hwrong⟩ := h
    exact ⟨i, j, cs[i], cs[j], hij, List.getElem?_eq_getElem hi,
      List.getElem?_eq_getElem hj, precedes_iff.mpr hwrong⟩

/-! ### Two ways to read tokens -/

/-- All statements among the tokens are SELECT, and no keyword is. -/
structure OnlySelects (tokens : List Token) : Prop where
  statements : ∀ t ∈ tokens, t.hasType .dml → Text.upper t.text = select.keyword
  keywords : ∀ t ∈ tokens, ¬ t.isKeyword select.keyword

/-- Both checks read a token alike, unless it is a statement other than SELECT
or a SELECT keyword. -/
theorem opened?_eq_ordered? {t : Token}
    (hstatement : t.hasType .dml → Text.upper t.text = select.keyword)
    (hkeyword : ¬ t.isKeyword select.keyword) : opened? t = ordered? t := by
  unfold opened? ordered?
  by_cases hdml : t.hasType .dml
  · simp [hdml, hstatement hdml]
  · by_cases htype : t.hasType .keyword
    · -- among keywords SELECT alone is read in two ways
      have hother : ofKeyword? (Text.upper t.text) ≠ some select := by
        rw [Ne, ofKeyword?_eq_some_iff]
        intro hword
        exact hkeyword (by simp [Token.isKeyword, htype, hword])
      rcases hclause : ofKeyword? (Text.upper t.text) with _ | c
      · simp [hdml, htype, hclause]
      · rw [hclause, Ne, Option.some.injEq] at hother
        simp [hdml, htype, hclause, Option.filter_some, bne_iff_ne.mpr hother]
    · simp [hdml, htype]

theorem OnlySelects.filterMap_opened? {tokens : List Token}
    (h : OnlySelects tokens) :
    tokens.filterMap opened? = tokens.filterMap ordered? :=
  List.filterMap_congr fun t ht =>
    opened?_eq_ordered? (h.statements t ht) (h.keywords t ht)

/-! ### What a select contributes -/

/-- The clauses of a select, as they are collected to check their order. -/
def sequenceOf (s : Select) : List Clause :=
  s.stripped.tokens.filterMap ordered?

/-- The finding about clauses in a wrong order. -/
def orderFinding (cs : List Clause) : Finding :=
  ⟨.keywordOrder, [.value (.list (cs.map (.text ·.keyword)))]⟩

/-- Nothing is repeated in a list without duplicates. -/
theorem repeated_eq_nil_iff : repeated cs = [] ↔ cs.Nodup := by
  unfold repeated
  rw [List.filter_eq_nil_iff, List.forall_mem_map, List.nodup_iff_count_le_one]
  constructor
  · intro h c
    by_cases hc : c ∈ cs
    · simpa using h c (List.mem_eraseDups.mpr hc)
    · rw [List.count_eq_zero_of_not_mem hc]
      exact Nat.zero_le 1
  · intro h c _
    simpa using h c

theorem selectWise_orderFindings : SelectWise orderFindings :=
  selectWise_filterMap _

section Select

variable (q : Query) (s : Select)

/-- A select contributes the list of its clauses if these are not in order. -/
theorem answerFor_orderFindings : answerFor orderFindings q s =
    if inOrder (sequenceOf s) then [] else [orderFinding (sequenceOf s)] := by
  unfold orderFindings
  rw [answerFor_filterMap]
  show Option.toList (if inOrder (sequenceOf s) then _ else _) = _
  split
  · rfl
  · rfl

theorem answerFor_orderFindings_eq_nil_iff :
    answerFor orderFindings q s = [] ↔ inOrder (sequenceOf s) := by
  rw [answerFor_orderFindings]
  split
  · next hin => exact iff_of_true rfl hin
  · next hout => exact iff_of_false (List.cons_ne_nil _ _) hout

theorem answerFor_orderFindings_eq_singleton_iff :
    answerFor orderFindings q s = [orderFinding (sequenceOf s)] ↔
      ¬ inOrder (sequenceOf s) := by
  rw [answerFor_orderFindings]
  split
  · next hin => exact iff_of_false (by simp) (not_not_intro hin)
  · next hout => exact iff_of_true rfl hout

theorem answerFor_repetitionFindings_eq_nil_iff :
    answerFor repetitionFindings q s = [] ↔
      (s.stripped.tokens.filterMap opened?).Nodup := by
  rw [answerFor_repetitionFindings, List.map_eq_nil_iff, repeated_eq_nil_iff]

end Select

/-- **Sequence of clauses.** Each select contributes to the findings about
repeated and about misplaced clauses. If its statements are all SELECT, and no
keyword is, it contributes nothing exactly when its clauses are a part of the
standard sequence. In any case it contributes one finding about the order, with
all its clauses, exactly when there are two in the wrong order, and otherwise
none. -/
theorem clause_sequence (q : Query) :
    (SelectWise repetitionFindings ∧ SelectWise orderFindings) ∧
    ∀ s : Select,
      (OnlySelects s.stripped.tokens →
        (answerFor repetitionFindings q s = [] ∧
          answerFor orderFindings q s = [] ↔
          (sequenceOf s).Sublist order)) ∧
      (answerFor orderFindings q s = [orderFinding (sequenceOf s)] ↔
        Misplaced (sequenceOf s)) ∧
      (answerFor orderFindings q s = [] ↔ ¬ Misplaced (sequenceOf s)) := by
  refine ⟨⟨selectWise_repetitionFindings, selectWise_orderFindings⟩,
    fun s => ?_⟩
  refine ⟨fun honly => ?_, ?_, ?_⟩
  · rw [answerFor_repetitionFindings_eq_nil_iff,
      answerFor_orderFindings_eq_nil_iff, honly.filterMap_opened?,
      sublist_order_iff]
    rfl
  · rw [answerFor_orderFindings_eq_singleton_iff, misplaced_iff]
  · rw [answerFor_orderFindings_eq_nil_iff, misplaced_iff, not_not]

/-- A select of some tokens, without subqueries. -/
def selectOfTokens (tokens : List Token) : Select :=
  let block : QueryBlock :=
    ⟨"", none, none, tokens, [], ⟨[]⟩, "public", [], false, false, false, false,
      ⟨none, [], []⟩, []⟩
  ⟨block, block, block, [], []⟩

/-- A query of one select. -/
def queryOfSelect (s : Select) : Query :=
  ⟨⟨[s.tokens], [s], [], [], ⟨s.output, [s]⟩, []⟩, s.sql⟩

/-- A select with a FROM and a WHERE clause, written in small letters. -/
def paidOrders : Select := selectOfTokens
  [⟨some .dml, "select"⟩, ⟨some .name, "id"⟩, ⟨some .keyword, "from"⟩,
    ⟨some .name, "orders"⟩, ⟨some .keyword, "where"⟩, ⟨some .name, "paid"⟩]

/-- The same clauses with WHERE before FROM. -/
def paidFirst : Select := selectOfTokens
  [⟨some .dml, "select"⟩, ⟨some .name, "id"⟩, ⟨some .keyword, "where"⟩,
    ⟨some .name, "paid"⟩, ⟨some .keyword, "from"⟩, ⟨some .name, "orders"⟩]

/-- A select in small letters whose clauses are in the standard sequence
contributes nothing. With WHERE before FROM it contributes one finding about the
order, which lists all three clauses. -/
theorem clause_sequence_paidOrders :
    OnlySelects paidOrders.stripped.tokens ∧
      answerFor repetitionFindings (queryOfSelect paidOrders) paidOrders = [] ∧
      answerFor orderFindings (queryOfSelect paidOrders) paidOrders = [] ∧
      answerFor orderFindings (queryOfSelect paidFirst) paidFirst =
        [⟨.keywordOrder,
          [.value (.list [.text "SELECT", .text "WHERE", .text "FROM"])]⟩] := by
  have honly : OnlySelects paidOrders.stripped.tokens :=
    ⟨by decide +kernel, by decide +kernel⟩
  have hpart : (sequenceOf paidOrders).Sublist order := by decide +kernel
  have hprecedes : Precedes source filter :=
    show [source, filter].Sublist order by decide
  have hmisplaced : Misplaced (sequenceOf paidFirst) :=
    ⟨1, 2, filter, source, by decide, by decide +kernel, by decide +kernel,
      hprecedes⟩
  obtain ⟨hinOrder, -⟩ := (clause_sequence (queryOfSelect paidOrders)).2 paidOrders
  obtain ⟨hrepetition, horder⟩ := (hinOrder honly).mpr hpart
  obtain ⟨-, hreported, -⟩ :=
    (clause_sequence (queryOfSelect paidFirst)).2 paidFirst
  exact ⟨honly, hrepetition, horder, hreported.mpr hmisplaced⟩

end SqlDiagnosis.Clause
