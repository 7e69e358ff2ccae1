import Mathlib.Data.List.Perm.Basic
import SqlDiagnosis.Check.Typing

/-!
# Types of the branches of a set operation

The branches of a set operation are compared with one of them, the first that
has a type, while the messages of all types are collected on the way. Up to
their order the findings are

    inconsistency, ..., inconsistency, message, ..., message

with one inconsistency for each branch that differs from the first. How many
these are depends on which branch comes first, but whether there are any does
not: when sameness is an equivalence among the types, then a branch that differs
from the first can be found just when there are two branches that differ.
-/

namespace SqlDiagnosis.Typing

variable {op : SetOperation} {first : ResultType} {rest : List ResultType}

/-! ### Types that are the same -/

/-- Two types count as the same. -/
def SameType (t u : ResultType) : Prop := t.type.same u.type = true

instance (t u : ResultType) : Decidable (SameType t u) :=
  inferInstanceAs (Decidable (_ = true))

/-- Sameness is an equivalence among the types of the branches. -/
def ComparesTypes (op : SetOperation) : Prop :=
  Equivalence fun t u : { t : ResultType // t ∈ branchTypes op } => SameType t u

/-- Two branches have types, and these are different. -/
def TypesDiffer (op : SetOperation) : Prop :=
  ∃ s ∈ op.branches, ∃ s' ∈ op.branches, ∃ ast ast', s.typedAst = some ast ∧
    s'.typedAst = some ast' ∧
    ¬ SameType ast.facts.resultType ast'.facts.resultType

theorem mem_branchTypes_iff {t : ResultType} :
    t ∈ branchTypes op ↔ ∃ s ∈ op.branches, ∃ ast, s.typedAst = some ast ∧
      ast.facts.resultType = t := by
  simp only [branchTypes, List.mem_filterMap, Option.map_eq_some_iff]

theorem typesDiffer_iff :
    TypesDiffer op ↔ ∃ t ∈ branchTypes op, ∃ u ∈ branchTypes op,
      ¬ SameType t u := by
  constructor
  · rintro ⟨s, hs, s', hs', ast, ast', hast, hast', hdiffer⟩
    exact ⟨_, mem_branchTypes_iff.mpr ⟨s, hs, ast, hast, rfl⟩, _,
      mem_branchTypes_iff.mpr ⟨s', hs', ast', hast', rfl⟩, hdiffer⟩
  · rintro ⟨t, ht, u, hu, hdiffer⟩
    obtain ⟨s, hs, ast, hast, rfl⟩ := mem_branchTypes_iff.mp ht
    obtain ⟨s', hs', ast', hast', rfl⟩ := mem_branchTypes_iff.mp hu
    exact ⟨s, hs, s', hs', ast, ast', hast, hast', hdiffer⟩

/-- Whether types differ does not depend on the order of the branches. -/
theorem typesDiffer_perm {branches : List Select}
    (h : branches.Perm op.branches) :
    TypesDiffer { op with branches := branches } ↔ TypesDiffer op := by
  simp only [TypesDiffer, h.mem_iff]

/-- If some two types differ, then one of them differs from the first, whichever
that is. -/
theorem typesDiffer_iff_of_first (hsame : ComparesTypes op)
    (hop : branchTypes op = first :: rest) :
    TypesDiffer op ↔ ∃ t ∈ branchTypes op, ¬ SameType first t := by
  have hfirst : first ∈ branchTypes op := hop ▸ List.mem_cons_self
  rw [typesDiffer_iff]
  constructor
  · rintro ⟨t, ht, u, hu, hdiffer⟩
    -- if all types were the same as the first, they would be the same as each
    -- other
    by_contra hall
    push Not at hall
    have htfirst : SameType t first :=
      hsame.symm (x := ⟨first, hfirst⟩) (y := ⟨t, ht⟩) (hall t ht)
    exact hdiffer (hsame.trans (x := ⟨t, ht⟩) (y := ⟨first, hfirst⟩)
      (z := ⟨u, hu⟩) htfirst (hall u hu))
  · rintro ⟨t, ht, hdiffer⟩
    exact ⟨first, hfirst, t, ht, hdiffer⟩

/-! ### Findings about the branches -/

/-- The finding that the types of a set operation do not fit together. -/
def inconsistency (location : String) : Finding :=
  ⟨.dataTypeMismatch, [.text location, .text "setop types inconsistent"]⟩

/-- The findings with the messages of a type. -/
def messagesOf (t : ResultType) : List Finding :=
  t.messages.map (messageFinding .dataTypeMismatch)

/-- The findings with the messages of all types. -/
def messageFindings (op : SetOperation) : List Finding :=
  (branchTypes op).flatMap messagesOf

/-- How many branches have a type that differs from the first one. -/
def differing (op : SetOperation) : Nat :=
  match branchTypes op with
  | [] => 0
  | first :: rest => (first :: rest).countP fun t => ¬ SameType first t

/-- The inconsistency is among the findings, besides the messages: one of these
might read the same. -/
def ReportsInconsistency (location : String) (op : SetOperation) : Prop :=
  ∃ others, (operationFindings location op).Perm
    (inconsistency location :: others ++ messageFindings op)

theorem branchFindings_eq (location : String) (first t : ResultType) :
    branchFindings location first t =
      (if SameType first t then [] else [inconsistency location]) ++
        messagesOf t := rfl

/-- The inconsistencies sorted out of the findings about some branches. -/
theorem flatMap_branchFindings_perm (location : String) (first : ResultType)
    (types : List ResultType) :
    (types.flatMap (branchFindings location first)).Perm
      (List.replicate (types.countP fun t => ¬ SameType first t)
        (inconsistency location) ++
        types.flatMap messagesOf) := by
  induction types with
  | nil => exact .refl _
  | cons t types ih =>
    rw [List.flatMap_cons, List.flatMap_cons, branchFindings_eq,
      List.append_assoc]
    -- the messages of `t` move behind the inconsistencies of the branches after
    -- it
    have hmoved :=
      (ih.append_left (messagesOf t)).trans (List.perm_append_comm_assoc _ _ _)
    by_cases hsame : SameType first t
    · rw [if_pos hsame, List.countP_cons_of_neg (by simpa using hsame),
        List.nil_append]
      exact hmoved
    · rw [if_neg hsame, List.countP_cons_of_pos (by simpa using hsame),
        List.replicate_succ]
      exact hmoved.cons _

/-- The findings about a set operation, sorted: one inconsistency for each
branch that differs from the first, and then the messages. -/
theorem operationFindings_perm (location : String) (hsame : ComparesTypes op) :
    (operationFindings location op).Perm
      (List.replicate (differing op) (inconsistency location) ++
        messageFindings op) := by
  unfold operationFindings differing messageFindings
  rcases hop : branchTypes op with _ | ⟨first, rest⟩
  · exact .refl _
  · -- the first type is not compared with itself, which would find nothing
    have hfirst : SameType first first :=
      hsame.refl ⟨first, hop ▸ List.mem_cons_self⟩
    have hall := flatMap_branchFindings_perm location first (first :: rest)
    rw [List.flatMap_cons, branchFindings_eq, if_pos hfirst,
      List.nil_append] at hall
    exact hall

/-- Some branch differs from the first just when two branches differ. -/
theorem differing_pos_iff (hsame : ComparesTypes op) :
    0 < differing op ↔ TypesDiffer op := by
  rcases hop : branchTypes op with _ | ⟨first, rest⟩
  · rw [typesDiffer_iff, differing, hop]
    simp
  · rw [typesDiffer_iff_of_first hsame hop, differing, hop, List.countP_pos_iff]
    simp

/-- The inconsistency is reported besides the messages just when two branches
differ. -/
theorem reportsInconsistency_iff (location : String)
    (hsame : ComparesTypes op) :
    ReportsInconsistency location op ↔ TypesDiffer op := by
  have hperm := operationFindings_perm location hsame
  rw [← differing_pos_iff hsame]
  constructor
  · rintro ⟨others, hothers⟩
    -- the number of findings tells how many inconsistencies there are
    have hlength := hothers.length_eq.symm.trans hperm.length_eq
    simp only [List.length_append, List.length_cons,
      List.length_replicate] at hlength
    omega
  · intro hpos
    obtain ⟨n, hn⟩ :=
      Nat.exists_eq_succ_of_ne_zero (Nat.pos_iff_ne_zero.mp hpos)
    rw [hn, List.replicate_succ] at hperm
    exact ⟨_, hperm⟩

/-- The types are the same ones in another order of the branches. -/
theorem ComparesTypes.of_perm {branches : List Select}
    (h : branches.Perm op.branches) (hsame : ComparesTypes op) :
    ComparesTypes { op with branches := branches } := by
  have hmem : ∀ t, t ∈ branchTypes { op with branches := branches } →
      t ∈ branchTypes op := by
    intro t ht
    exact (h.filterMap _).mem_iff.mp ht
  exact ⟨fun t => hsame.refl ⟨t, hmem t t.2⟩,
    fun {t u} htu => hsame.symm (x := ⟨t, hmem t t.2⟩)
      (y := ⟨u, hmem u u.2⟩) htu,
    fun {t u v} htu huv =>
      hsame.trans (x := ⟨t, hmem t t.2⟩) (y := ⟨u, hmem u u.2⟩)
        (z := ⟨v, hmem v v.2⟩) htu huv⟩

/-! ### Set operations of a query -/

/-- The set operations of a query with their locations. -/
def located (q : Query) : List (String × SetOperation) :=
  q.ctes.map (fun cte => ("CTE " ++ Value.shown cte.output.name, cte)) ++
    [("Main Query", q.main)]

theorem mismatchFindings_eq (q : Query) :
    mismatchFindings q = (located q).flatMap fun p =>
      operationFindings p.1 p.2 := by
  rw [located, List.flatMap_append, List.flatMap_map, List.flatMap_singleton]
  rfl

/-- **Types of branches.** The set operations of a query are checked one after
the other. If sameness is an equivalence among the types of the branches of one,
then the inconsistency is reported for it exactly when two of its branches have
different types, which does not depend on their order. In number, its findings
are the branches that differ from the first one with a type, and the messages of
all types. -/
theorem branch_types_verdict (q : Query) :
    mismatchFindings q =
      ((located q).flatMap fun p => operationFindings p.1 p.2) ∧
    ∀ location op, ComparesTypes op →
      (ReportsInconsistency location op ↔ TypesDiffer op) ∧
      (inconsistency location ∈ operationFindings location op ↔
        TypesDiffer op ∨ inconsistency location ∈ messageFindings op) ∧
      (∀ branches, branches.Perm op.branches →
        (ReportsInconsistency location { op with branches := branches } ↔
          ReportsInconsistency location op)) ∧
      (operationFindings location op).length =
        differing op + ((branchTypes op).flatMap (·.messages)).length := by
  refine ⟨mismatchFindings_eq q, fun location op hsame => ?_⟩
  have hperm := operationFindings_perm location hsame
  refine ⟨reportsInconsistency_iff location hsame, ?_,
    fun branches hbranches => ?_, ?_⟩
  · rw [hperm.mem_iff, List.mem_append, List.mem_replicate,
      ← differing_pos_iff hsame, Nat.pos_iff_ne_zero, and_iff_left rfl]
  · rw [reportsInconsistency_iff location hsame,
      reportsInconsistency_iff location (hsame.of_perm hbranches),
      typesDiffer_perm hbranches]
  · rw [hperm.length_eq, List.length_append, List.length_replicate,
      messageFindings]
    unfold messagesOf
    rw [← List.map_flatMap, List.length_map]

/-! ### Types that are texts -/

/-- Types that are texts are the same when they are equal. -/
theorem ComparesTypes.of_texts
    (h : ∀ t ∈ branchTypes op, ∃ name, t.type = .text name) :
    ComparesTypes op := by
  have hiff : ∀ t u : { t : ResultType // t ∈ branchTypes op },
      SameType t u ↔ t.1.type = u.1.type := by
    intro t u
    obtain ⟨name, hname⟩ := h t t.2
    obtain ⟨name', hname'⟩ := h u u.2
    rw [SameType, hname, hname', Value.text.injEq]
    exact beq_iff_eq
  refine ⟨fun t => (hiff t t).mpr rfl, fun {t u} htu => ?_,
    fun {t u v} htu huv => ?_⟩
  · exact (hiff u t).mpr ((hiff t u).mp htu).symm
  · exact (hiff t v).mpr (((hiff t u).mp htu).trans ((hiff u v).mp huv))

/-- A select with a type, or without one. -/
def typedSelect (type : Option ResultType) : Select :=
  let block : QueryBlock :=
    ⟨"", none,
      type.map fun t => .mk .select { NodeFacts.none with resultType := t } [],
      [], [], ⟨[]⟩, "public", [], false, false, false, false,
      ⟨none, [], []⟩, []⟩
  ⟨block, block, block, [], []⟩

/-- Numbers, something without a type, texts with a message, and numbers
again. -/
def mixedUnion : SetOperation :=
  ⟨⟨none, [], []⟩,
    [none, some ⟨.text "int", []⟩, none, some ⟨.text "text", [[.text "cast"]]⟩,
      some ⟨.text "int", []⟩].map typedSelect⟩

/-- The union of numbers and texts is inconsistent in every order of its
branches. As it stands, it has one branch that differs from the first, and one
message. -/
theorem mixedUnion_inconsistent :
    ComparesTypes mixedUnion ∧
    (∀ branches, branches.Perm mixedUnion.branches →
      ReportsInconsistency "Main Query"
        { mixedUnion with branches := branches }) ∧
    (operationFindings "Main Query" mixedUnion).length = 2 := by
  have htypes : branchTypes mixedUnion =
      [⟨.text "int", []⟩, ⟨.text "text", [[.text "cast"]]⟩,
        ⟨.text "int", []⟩] := rfl
  have hsame : ComparesTypes mixedUnion := by
    apply ComparesTypes.of_texts
    rw [htypes]
    simp
  have hdiffer : TypesDiffer mixedUnion := by
    rw [typesDiffer_iff, htypes]
    exact ⟨⟨.text "int", []⟩, by simp, ⟨.text "text", [[.text "cast"]]⟩,
      by simp, by decide⟩
  obtain ⟨-, hverdict⟩ :=
    branch_types_verdict ⟨⟨[], [], [], [], mixedUnion, []⟩, ""⟩
  obtain ⟨hreported, -, horder, hlength⟩ :=
    hverdict "Main Query" mixedUnion hsame
  refine ⟨hsame, fun branches hbranches => ?_, hlength⟩
  exact (horder branches hbranches).mpr (hreported.mpr hdiffer)

end SqlDiagnosis.Typing
