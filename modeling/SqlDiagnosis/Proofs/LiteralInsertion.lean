import SqlDiagnosis.Proofs.Effect
import SqlDiagnosis.Proofs.Rearrangement

/-!
# Which proposals are inserted as they are

What a correction proposes is a template, although it is written like the text
that is to be inserted: a name of the catalog in quotes, behind its qualifier
and before the other name of a table, or the standard spelling of an operator.
The two agree exactly where the proposal is inert. Operators always are. A
quoted name is inert unless it has a backslash before an ASCII letter, an ASCII
digit or another backslash; then the correction fails on every text, or puts in
another name.

That two templates which differ can be told apart by what they do to some text
is shown by a text of one occurrence (`exists_replaceWords_injective`).
-/

namespace SqlDiagnosis

/-! ### Telling replacements apart -/

namespace Text

variable {old : List Char} {before : Option Char}

theorem replaceWords_nil_underscore (new : List Char) :
    replaceWords [] new ['_'] = new ++ '_' :: new := by
  have hfront : occursAt [] none ['_'] = true := by decide
  have hback : occursAt [] (some '_') [] = true := by decide
  rw [replaceWords, replaceFrom, if_pos hfront, replaceFrom, if_pos hback]

/-- A text that begins with no word character does not occur at an
underscore. -/
theorem occursAt_underscore_of_head (hne : old ≠ [])
    (hhead : old.head?.any isWordChar = false) (rest : List Char) :
    occursAt old before ('_' :: rest) = false := by
  obtain ⟨a, tail, rfl⟩ := List.exists_cons_of_ne_nil hne
  refine Bool.eq_false_iff.mpr fun hocc => ?_
  obtain ⟨rfl, -⟩ := List.cons_prefix_cons.mp (prefix_of_occursAt hocc)
  exact absurd (show isWordChar '_' = false from hhead) (by decide)

/-- A text that ends with no word character does not occur in an underscore. -/
theorem occursAt_underscore_of_getLast (hne : old ≠ [])
    (hlast : old.getLast?.any isWordChar = false) :
    occursAt old before ['_'] = false := by
  obtain ⟨a, tail, rfl⟩ := List.exists_cons_of_ne_nil hne
  refine Bool.eq_false_iff.mpr fun hocc => ?_
  obtain ⟨rfl, htail⟩ := List.cons_prefix_cons.mp (prefix_of_occursAt hocc)
  obtain rfl := List.prefix_nil.mp htail
  exact absurd hlast (by decide)

/-- An occurrence at a boundary, with an underscore behind it if it does not end
with a word character. -/
theorem exists_replaceFrom_append (hne : old ≠ [])
    (hbefore : isBoundary before old.head? = true) :
    ∃ back, ∀ new,
      replaceFrom old new before 0 (old ++ back) = new ++ back := by
  rcases hlast : old.getLast?.any isWordChar with _ | _
  · refine ⟨['_'], fun new => ?_⟩
    have hocc : occursAt old before (old ++ ['_']) = true := by
      rw [occursAt_append hne, hbefore, isBoundary, hlast]
      decide
    rw [replaceFrom_of_occursAt hne hocc,
      replaceFrom_cons_of_not_occursAt
        (occursAt_underscore_of_getLast hne hlast), replaceFrom_nil hne]
  · refine ⟨[], fun new => ?_⟩
    have hocc : occursAt old before (old ++ []) = true := by
      rw [occursAt_append hne, hbefore, isBoundary, hlast]
      rfl
    rw [replaceFrom_of_occursAt hne hocc, replaceFrom_nil hne]

/-- For every text there is one in which different replacements of it give
different results. -/
theorem exists_replaceWords_injective (old : List Char) :
    ∃ text, Function.Injective fun new => replaceWords old new text := by
  by_cases hne : old = []
  · subst hne
    refine ⟨['_'], fun new new' h => ?_⟩
    simp only [replaceWords_nil_underscore] at h
    -- the empty text occurs on both sides of the underscore, so the halves are
    -- told apart by their length
    have hlength := congrArg List.length h
    simp only [List.length_append, List.length_cons] at hlength
    exact (List.append_inj h (by omega)).1
  · rcases hfirst : old.head?.any isWordChar with _ | _
    · -- no boundary stands before it at the start of a text: an underscore has
      -- to come first
      have hbefore : isBoundary (some '_') old.head? = true := by
        rw [isBoundary, hfirst]
        decide
      obtain ⟨back, hback⟩ := exists_replaceFrom_append hne hbefore
      refine ⟨'_' :: (old ++ back), fun new new' h => ?_⟩
      simp only [replaceWords, replaceFrom_cons_of_not_occursAt
        (occursAt_underscore_of_head hne hfirst _), hback] at h
      exact List.append_cancel_right (List.cons.inj h).2
    · have hbefore : isBoundary none old.head? = true := by
        rw [isBoundary, hfirst]
        rfl
      obtain ⟨back, hback⟩ := exists_replaceFrom_append hne hbefore
      refine ⟨old ++ back, fun new new' h => ?_⟩
      simp only [replaceWords, hback] at h
      exact List.append_cancel_right h

/-! ### Quoted names -/

/-- Double quotes, doubled. -/
def doubleQuotes (cs : List Char) : List Char :=
  cs.flatMap fun c => if c == '"' then ['"', '"'] else [c]

theorem head?_doubleQuotes (cs : List Char) :
    (doubleQuotes cs).head? = cs.head? := by
  cases cs with
  | nil => rfl
  | cons c cs => by_cases hc : c = '"' <;> simp [doubleQuotes, hc]

/-- Doubling the quotes puts no other character behind a backslash. -/
theorem keepsBackslashes_doubleQuotes (cs : List Char) :
    KeepsBackslashes (doubleQuotes cs) ↔ KeepsBackslashes cs := by
  induction cs with
  | nil => rfl
  | cons c cs ih =>
    by_cases hc : c = '"'
    · subst hc
      show KeepsBackslashes ('"' :: '"' :: doubleQuotes cs) ↔ _
      rw [keepsBackslashes_cons (by decide), keepsBackslashes_cons (by decide),
        keepsBackslashes_cons (by decide), ih]
    · have hdouble : doubleQuotes (c :: cs) = c :: doubleQuotes cs := by
        simp [doubleQuotes, hc]
      rw [hdouble]
      unfold KeepsBackslashes at ih ⊢
      rw [List.isChain_cons, List.isChain_cons, head?_doubleQuotes, ih]

/-- A quoted name is the name with its quotes doubled, between two more. -/
theorem toList_quoteIdentifier (name : String) :
    (quoteIdentifier name).toList =
      '"' :: (doubleQuotes name.toList ++ ['"']) := by
  simp [quoteIdentifier, doubleQuotes]

/-- A quoted name is inert in its surroundings if neither the name nor its
surroundings have escapes. -/
theorem isInert_quoted_iff (qualifier : Option String) (name other : String) :
    IsInert (Node.dotted qualifier (quoteIdentifier name) ++ other).toList ↔
      (∀ x ∈ qualifier, KeepsBackslashes x.toList) ∧
        KeepsBackslashes name.toList ∧ IsInert other.toList := by
  have hquoted : IsInert ((quoteIdentifier name).toList ++ other.toList) ↔
      KeepsBackslashes name.toList ∧ IsInert other.toList := by
    rw [toList_quoteIdentifier, List.cons_append, isInert_cons (by decide),
      List.append_assoc, List.singleton_append, isInert_append_cons (by decide),
      keepsBackslashes_doubleQuotes]
  -- a quote or a dot is a place where the text can be divided
  rcases qualifier with _ | x
  · rw [← hquoted]
    simp [Node.dotted]
  · have hdot := isInert_append_cons (c := '.') (by decide) x.toList
      ((quoteIdentifier name).toList ++ other.toList)
    rw [hquoted] at hdot
    simpa [Node.dotted] using hdot

end Text

/-! ### Literal corrections -/

namespace Correction

variable {c : Correction}

/-- The text with the proposed text in place of the written one, character by
character. -/
def literally (c : Correction) (text : String) : String :=
  String.ofList
    (Text.replaceWords c.written.toList c.proposed.toList text.toList)

/-- What is proposed is inserted as it is. -/
def IsLiteral (c : Correction) : Prop :=
  ∀ text, c.apply text = .ok (c.literally text)

/-- A correction is literal exactly when it inserts what it proposes. -/
theorem isLiteral_iff_inserted :
    c.IsLiteral ↔ c.inserted = .ok c.proposed.toList := by
  constructor
  · intro h
    -- one text is enough: one in which what was inserted can be told from the
    -- result
    obtain ⟨text, hinj⟩ := Text.exists_replaceWords_injective c.written.toList
    have happly := h (String.ofList text)
    rw [apply_eq] at happly
    obtain ⟨new, hnew, hresult⟩ := Answer.map_eq_ok_iff.mp happly
    rw [literally, String.toList_ofList] at hresult
    rw [hnew, hinj (String.ofList_injective hresult)]
  · intro h text
    exact apply_of_inserted h text

/-- What is inserted as it is has to be inert. -/
theorem isInert_of_isLiteral (hwritten : '\\' ∉ c.written.toList)
    (h : c.IsLiteral) :
    Text.IsInert c.proposed.toList := by
  refine (Text.parseTemplate_map_expand_iff hwritten).mp ?_
  rw [isLiteral_iff_inserted, inserted] at h
  rcases hparse : (Text.parseTemplate c.proposed.toList).map
    (Text.expand c.written.toList) with e | new
  · rw [hparse] at h
    cases h
  · rw [hparse] at h
    exact congrArg Except.ok (Except.ok.inj h)

/-- What becomes of a correction that does not insert what it proposes: it fails
whatever the text is, or inserts something else. -/
theorem fails_or_inserts_other (h : ¬ c.IsLiteral) :
    (∃ f, ∀ text, c.apply text = .error f) ∨
      ∃ new, new ≠ c.proposed.toList ∧
        ∀ text, c.apply text =
          .ok (String.ofList
            (Text.replaceWords c.written.toList new text.toList)) := by
  rcases hinserted : c.inserted with f | new
  · refine .inl ⟨f, fun text => ?_⟩
    rw [apply_eq, hinserted]
    rfl
  · refine .inr ⟨new, ?_, apply_of_inserted hinserted⟩
    rintro rfl
    exact h (isLiteral_iff_inserted.mpr hinserted)

end Correction

namespace Spelling

open Reference

variable {q : Query} {cs : List Correction} {c : Correction}

/-- A name that a query may be corrected to: that of a table of the catalog, or
that of a column of a referenced table. -/
def Offers (q : Query) (name : String) : Prop :=
  ∃ s ∈ q.selects, (∃ schema, s.stripped.catalog.hasTable schema (some name)) ∨
    ∃ t ∈ s.stripped.tables, ∃ column ∈ t.columns, Value.shown column = name

/-- The corrections of tables and columns propose a name in quotes, behind its
qualifier and before the other name. -/
theorem exists_quoted_of_mem_tableCorrections
    (hcs : tableCorrections q = .ok cs) (hc : c ∈ cs) :
    ∃ qualifier name other, Offers q name ∧
      c.proposed = Node.dotted qualifier (quoteIdentifier name) ++ other := by
  obtain ⟨s, hs, n, -, -, schema, name, htable, hproposes⟩ :=
    (mem_tableCorrections_iff hcs).mp hc
  have hoffers : Offers q name := ⟨s, hs, .inl ⟨schema, htable⟩⟩
  cases hproposes with
  | qualified => exact ⟨_, name, _, hoffers, rfl⟩
  | unqualified => exact ⟨_, name, _, hoffers, rfl⟩

theorem exists_quoted_of_mem_columnCorrections
    (hcs : columnCorrections q = .ok cs) (hc : c ∈ cs) :
    ∃ qualifier name other, Offers q name ∧
      c.proposed = Node.dotted qualifier (quoteIdentifier name) ++ other := by
  obtain ⟨s, hs, n, -, -, t, ht, column, hcolumn, hproposes⟩ :=
    (mem_columnCorrections_iff hcs).mp hc
  have hoffers : Offers q (Value.shown column) :=
    ⟨s, hs, .inr ⟨t, ht, column, hcolumn, rfl⟩⟩
  cases hproposes with
  | qualified => exact ⟨_, _, "", hoffers, (String.append_empty).symm⟩
  | unqualified => exact ⟨_, _, "", hoffers, (String.append_empty).symm⟩

end Spelling

/-- **Inert proposals are inserted as they are, and no others.** What a step
proposes is inserted character by character into every text if it is inert, and
only then unless the written text has a backslash itself: otherwise the
correction fails on every text, or inserts something else. The standard
spellings of operators are inert. What is proposed for a table or a column is a
quoted name with its surroundings, and is inert unless one of these has a
backslash before an ASCII letter, an ASCII digit or another backslash. -/
theorem proposals_literal_iff_inert {q : Query} {step : CorrectionStep}
    {cs : List Correction} (hcs : step.corrections q = .ok cs) {c : Correction}
    (hc : c ∈ cs) :
    (Text.IsInert c.proposed.toList → c.IsLiteral) ∧
    ('\\' ∉ c.written.toList → ¬ Text.IsInert c.proposed.toList →
      ¬ c.IsLiteral ∧
        ((∃ f, ∀ text, c.apply text = .error f) ∨
          ∃ new, new ≠ c.proposed.toList ∧
            ∀ text, c.apply text =
              .ok (String.ofList
                (Text.replaceWords c.written.toList new text.toList)))) ∧
    (step = .operators → Text.IsInert c.proposed.toList) ∧
    (step ≠ .operators →
      ∃ qualifier name other, Spelling.Offers q name ∧
        c.proposed = Node.dotted qualifier (quoteIdentifier name) ++ other ∧
        (Text.IsInert c.proposed.toList ↔
          (∀ x ∈ qualifier, Text.KeepsBackslashes x.toList) ∧
            Text.KeepsBackslashes name.toList ∧
            Text.IsInert other.toList)) := by
  refine ⟨?_, ?_, ?_, ?_⟩
  · intro hinert
    exact Correction.isLiteral_iff_inserted.mpr
      (Correction.inserted_of_isInert hinert)
  · intro hwritten hinert
    have hliteral : ¬ c.IsLiteral :=
      fun h => hinert (Correction.isInert_of_isLiteral hwritten h)
    exact ⟨hliteral, Correction.fails_or_inserts_other hliteral⟩
  · rintro rfl
    cases hcs
    obtain ⟨-, -, -, hplain⟩ :=
      Operator.standardSpelling_plain _ (Operator.mem_standardSpelling hc)
    exact Text.isInert_of_plain hplain
  · intro hstep
    have hquoted : ∃ qualifier name other, Spelling.Offers q name ∧
        c.proposed = Node.dotted qualifier (quoteIdentifier name) ++ other := by
      cases step with
      | operators => exact absurd rfl hstep
      | tables => exact Spelling.exists_quoted_of_mem_tableCorrections hcs hc
      | columns => exact Spelling.exists_quoted_of_mem_columnCorrections hcs hc
    obtain ⟨qualifier, name, other, hoffers, hproposed⟩ := hquoted
    refine ⟨qualifier, name, other, hoffers, hproposed, ?_⟩
    rw [hproposed]
    exact Text.isInert_quoted_iff qualifier name other

namespace Spelling

/-- A query of one misspelt table, where the catalog has one table. -/
def oneTable (written table : String) : Query :=
  .referring ⟨[⟨"public", [table]⟩]⟩
    [(.build .table { NodeFacts.none with realName := some written }
      [("this", .word written)], [])]

/-- A backslash before a hyphen is kept. -/
theorem hyphened_name_literal :
    tableCorrections (oneTable "orderitems" "order\\-items") =
      .ok [⟨"orderitems", "\"order\\-items\""⟩] ∧
    (⟨"orderitems", "\"order\\-items\""⟩ : Correction).IsLiteral := by
  have hcs : tableCorrections (oneTable "orderitems" "order\\-items") =
      .ok [⟨"orderitems", "\"order\\-items\""⟩] :=
    Answer.eq_ok_of_toOption (by decide +kernel)
  have hstep : CorrectionStep.tables.corrections
      (oneTable "orderitems" "order\\-items") = _ := hcs
  obtain ⟨hliteral, -⟩ :=
    proposals_literal_iff_inert hstep (List.mem_singleton_self _)
  exact ⟨hcs, hliteral (by decide +kernel)⟩

/-- A backslash before a letter is not: `\i` is no escape, and the correction
fails; `\n` is one, and a line break is inserted instead. -/
theorem escaped_names_not_literal :
    tableCorrections (oneTable "orderitems" "order\\items") =
      .ok [⟨"orderitems", "\"order\\items\""⟩] ∧
    (⟨"orderitems", "\"order\\items\""⟩ : Correction).apply
        "SELECT * FROM orderitems" =
      .error (.template ⟨.badEscape 'i', "\"order\\items\"".toList, 6⟩) ∧
    tableCorrections (oneTable "newnames" "new\\names") =
      .ok [⟨"newnames", "\"new\\names\""⟩] ∧
    (⟨"newnames", "\"new\\names\""⟩ : Correction).apply
        "SELECT * FROM newnames" =
      .ok "SELECT * FROM \"new\names\"" := by
  refine ⟨?_, ?_, ?_, ?_⟩
  · exact Answer.eq_ok_of_toOption (by decide +kernel)
  · decide +kernel
  · exact Answer.eq_ok_of_toOption (by decide +kernel)
  · decide +kernel

end Spelling

end SqlDiagnosis
