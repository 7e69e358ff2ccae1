import SqlDiagnosis.Proofs.Pipeline

/-!
# The closing semicolon

The tokens of a query are scanned from their end, with two flags. Read from the
left, the outcome is simple: if a semicolon is followed by blanks only, it
closes the query (`Closes`) and is the one that is kept, else none is. All other
tokens stay where they are.

The scan has three phases, and each has its equation here: the blanks at the end
(`scan_of_blank`), the token before them, and then everything to the left of it,
where no semicolon can be kept any more (`foldr_step_of_decided`). Every list of
tokens falls into these parts (`blank_or_split`).

What is kept is scanned without any change. The length of the text tells how
many semicolons were removed (`length_text_add_removed`), so the query is read
again exactly when there was one.
-/

namespace SqlDiagnosis

namespace Semicolon

/-- The tokens that are no semicolons. -/
def others (tokens : List Token) : List Token := tokens.filter (!·.isSemicolon)

/-- A semicolon that closes a list of tokens: it comes after the tokens `pre`,
and only blanks come after it. -/
structure Closes (tokens pre : List Token) (closing : Token)
    (post : List Token) : Prop where
  eq : tokens = pre ++ closing :: post
  isSemicolon : closing.isSemicolon
  blank : ∀ t ∈ post, t.isBlank

section Parts

variable {t : Token} {tokens pre post : List Token} {closing : Token} {s : Scan}

theorem isBlank_of_isSemicolon (h : t.isSemicolon) : t.isBlank = false := by
  simp only [Token.isSemicolon, Token.hasType, Bool.and_eq_true,
    beq_iff_eq] at h
  simp [Token.isBlank, Token.hasType, h.1, TokenType.punctuation,
    TokenType.whitespace, TokenType.newline]

theorem text_of_isSemicolon (h : t.isSemicolon) : t.text = ";" := by
  simp only [Token.isSemicolon, Bool.and_eq_true, beq_iff_eq] at h
  exact h.2

/-! ### Tokens without semicolons -/

theorem isSemicolon_of_mem_others (h : t ∈ others tokens) :
    t.isSemicolon = false := by
  have hkept := (List.mem_filter.mp h).2
  simpa using hkept

@[simp] theorem countP_others (tokens : List Token) :
    (others tokens).countP (·.isSemicolon) = 0 := by
  rw [List.countP_eq_zero]
  intro t ht
  simp [isSemicolon_of_mem_others ht]

theorem others_eq_self_of_blank (h : ∀ t ∈ tokens, t.isBlank) :
    others tokens = tokens := by
  refine List.filter_eq_self.mpr fun t ht => ?_
  by_contra hsemicolon
  have hnot := isBlank_of_isSemicolon (t := t) (by simpa using hsemicolon)
  rw [h t ht] at hnot
  cases hnot

theorem countP_of_blank (h : ∀ t ∈ tokens, t.isBlank) :
    tokens.countP (·.isSemicolon) = 0 := by
  rw [← others_eq_self_of_blank h, countP_others]

/-! ### One token -/

theorem step_of_blank (h : t.isBlank) (s : Scan) :
    s.step t = { s with kept := t :: s.kept } := by
  simp [Scan.step, h]

theorem step_of_content (hblank : t.isBlank = false)
    (hsemicolon : t.isSemicolon = false) (s : Scan) :
    s.step t = { s with kept := t :: s.kept, content := true } := by
  simp [Scan.step, hblank, hsemicolon]

/-- A semicolon with nothing but blanks after it is kept. -/
theorem step_of_first_semicolon (h : t.isSemicolon)
    (hs : s.content = false ∧ s.closed = false) :
    s.step t = { s with kept := t :: s.kept, closed := true } := by
  simp [Scan.step, isBlank_of_isSemicolon h, h, hs.1, hs.2]

/-- Any other semicolon is removed, and counted. -/
theorem step_of_later_semicolon (h : t.isSemicolon)
    (hs : (s.content || s.closed) = true) :
    s.step t = { s with removed := s.removed + 1 } := by
  simp only [Scan.step, isBlank_of_isSemicolon h, h, hs, Bool.false_eq_true,
    if_true, if_false]

/-! ### The three phases -/

/-- Blanks are kept. -/
theorem scan_of_blank (h : ∀ t ∈ tokens, t.isBlank) :
    scan tokens = ⟨tokens, 0, false, false⟩ := by
  induction tokens with
  | nil => rfl
  | cons t tokens ih =>
    show (scan tokens).step t = _
    rw [ih fun u hu => h u (List.mem_cons_of_mem t hu),
      step_of_blank (h t List.mem_cons_self)]

/-- Once it is decided which semicolon is kept, if any, all others are
removed. -/
theorem foldr_step_of_decided (hs : (s.content || s.closed) = true)
    (pre : List Token) :
    ∃ content, (content || s.closed) = true ∧
      pre.foldr Scan.step s =
        ⟨others pre ++ s.kept, s.removed + pre.countP (·.isSemicolon), s.closed,
          content⟩ := by
  -- the induction is on the tokens to the left; that it is decided stays true,
  -- and from then on no semicolon can be kept
  induction pre with
  | nil => exact ⟨s.content, hs, rfl⟩
  | cons t pre ih =>
    obtain ⟨content, hdecided, hfold⟩ := ih
    rw [List.foldr_cons, hfold]
    by_cases hsemicolon : t.isSemicolon
    · refine ⟨content, hdecided, ?_⟩
      rw [step_of_later_semicolon hsemicolon hdecided]
      simp [others, hsemicolon, Nat.add_assoc]
    · have hother : t.isSemicolon = false := by simpa using hsemicolon
      by_cases hblank : t.isBlank
      · refine ⟨content, hdecided, ?_⟩
        rw [step_of_blank hblank]
        simp [others, hother]
      · refine ⟨true, rfl, ?_⟩
        rw [step_of_content (by simpa using hblank) hother]
        simp [others, hother]

/-- Tokens are all blank, or have a last one that is not. -/
theorem blank_or_split (tokens : List Token) :
    (∀ t ∈ tokens, t.isBlank) ∨
      ∃ pre t post, tokens = pre ++ t :: post ∧ t.isBlank = false ∧
        ∀ u ∈ post, u.isBlank := by
  induction tokens with
  | nil => exact .inl fun _ h => absurd h List.not_mem_nil
  | cons x tokens ih =>
    rcases ih with hblank | ⟨pre, t, post, rfl, ht, hpost⟩
    · by_cases hx : x.isBlank
      · exact .inl (List.forall_mem_cons.mpr ⟨hx, hblank⟩)
      · exact .inr ⟨[], x, tokens, rfl, by simpa using hx, hblank⟩
    · exact .inr ⟨x :: pre, t, post, rfl, ht, hpost⟩

/-! ### The whole scan -/

/-- A closing semicolon is kept, and all others are removed. -/
theorem scan_of_closes (h : Closes tokens pre closing post) :
    ∃ content, scan tokens =
      ⟨others pre ++ closing :: post, pre.countP (·.isSemicolon), true,
        content⟩ := by
  have hend : scan (closing :: post) = ⟨closing :: post, 0, true, false⟩ := by
    show (scan post).step closing = _
    rw [scan_of_blank h.blank, step_of_first_semicolon h.isSemicolon ⟨rfl, rfl⟩]
  obtain ⟨content, -, hfold⟩ :=
    foldr_step_of_decided (s := scan (closing :: post)) (by rw [hend]; rfl) pre
  refine ⟨content, ?_⟩
  rw [h.eq, scan, List.foldr_append]
  show pre.foldr Scan.step (scan (closing :: post)) = _
  rw [hfold, hend, Nat.zero_add]

/-- Without a closing semicolon, all are removed. -/
theorem scan_of_not_closes
    (h : ∀ pre closing post, ¬ Closes tokens pre closing post) :
    ∃ content, scan tokens =
      ⟨others tokens, tokens.countP (·.isSemicolon), false, content⟩ := by
  rcases blank_or_split tokens with hblank | ⟨pre, t, post, rfl, ht, hpost⟩
  · refine ⟨false, ?_⟩
    rw [scan_of_blank hblank, others_eq_self_of_blank hblank,
      countP_of_blank hblank]
  · -- the last token that is not blank is no semicolon, or it would close the
    -- query
    have hother : t.isSemicolon = false := by
      by_contra hsemicolon
      exact h pre t post ⟨rfl, by simpa using hsemicolon, hpost⟩
    have hend : scan (t :: post) = ⟨t :: post, 0, false, true⟩ := by
      show (scan post).step t = _
      rw [scan_of_blank hpost, step_of_content ht hother]
    obtain ⟨content, -, hfold⟩ :=
      foldr_step_of_decided (s := scan (t :: post)) (by rw [hend]; rfl) pre
    refine ⟨content, ?_⟩
    have hothers : others (pre ++ t :: post) = others pre ++ t :: post := by
      rw [others, List.filter_append, List.filter_cons_of_pos (by simp [hother])]
      exact congrArg (others pre ++ t :: ·) (others_eq_self_of_blank hpost)
    have hcount : (pre ++ t :: post).countP (·.isSemicolon) =
        pre.countP (·.isSemicolon) := by
      rw [List.countP_append, List.countP_cons_of_neg (by simp [hother]),
        countP_of_blank hpost, Nat.add_zero]
    rw [scan, List.foldr_append]
    show pre.foldr Scan.step (scan (t :: post)) = _
    rw [hfold, hend, hothers, hcount, Nat.zero_add]

/-- Without its semicolons, a list of tokens is not closed. -/
theorem not_closes_others (pre : List Token) (closing : Token)
    (post : List Token) :
    ¬ Closes (others tokens) pre closing post := by
  intro h
  have hmem : closing ∈ others tokens := by
    rw [h.eq]
    simp
  have hsemicolon := h.isSemicolon
  rw [isSemicolon_of_mem_others hmem] at hsemicolon
  cases hsemicolon

/-! ### What is kept and what is removed -/

/-- A token is kept or it is a semicolon and is counted; the closing semicolon
is the only one kept. -/
theorem step_cases (t : Token) (s : Scan) :
    (t.isSemicolon = false ∧
      ∃ content, s.step t = ⟨t :: s.kept, s.removed, s.closed, content⟩) ∨
    (t.isSemicolon ∧ s.closed = false ∧
      s.step t = ⟨t :: s.kept, s.removed, true, s.content⟩) ∨
    (t.isSemicolon ∧
      s.step t = ⟨s.kept, s.removed + 1, s.closed, s.content⟩) := by
  by_cases hsemicolon : t.isSemicolon
  · by_cases hs : (s.content || s.closed) = true
    · exact .inr (.inr ⟨hsemicolon, step_of_later_semicolon hsemicolon hs⟩)
    · have hnone : s.content = false ∧ s.closed = false := by simpa using hs
      exact .inr (.inl
        ⟨hsemicolon, hnone.2, step_of_first_semicolon hsemicolon hnone⟩)
  · have hother : t.isSemicolon = false := by simpa using hsemicolon
    refine .inl ⟨hother, ?_⟩
    by_cases hblank : t.isBlank
    · exact ⟨s.content, step_of_blank hblank s⟩
    · exact ⟨true, step_of_content (by simpa using hblank) hother s⟩

/-- The semicolons are divided into kept and removed ones. -/
theorem removed_add_countP (tokens : List Token) :
    (scan tokens).removed + (scan tokens).kept.countP (·.isSemicolon) =
      tokens.countP (·.isSemicolon) := by
  -- at each token one of the two numbers grows with the total, or none does
  induction tokens with
  | nil => rfl
  | cons t tokens ih =>
    show ((scan tokens).step t).removed +
      ((scan tokens).step t).kept.countP (·.isSemicolon) = _
    rcases step_cases t (scan tokens) with
      ⟨ht, content, hstep⟩ | ⟨ht, -, hstep⟩ | ⟨ht, hstep⟩
    · rw [hstep, List.countP_cons_of_neg (by simp [ht]),
        List.countP_cons_of_neg (by simp [ht])]
      exact ih
    · rw [hstep, List.countP_cons_of_pos ht, List.countP_cons_of_pos ht]
      exact congrArg (· + 1) ih
    · rw [hstep, List.countP_cons_of_pos ht, Nat.add_right_comm]
      exact congrArg (· + 1) ih

/-- The flag for the closing semicolon says whether one was kept. -/
theorem closed_eq_any (tokens : List Token) :
    (scan tokens).closed = (scan tokens).kept.any (·.isSemicolon) := by
  induction tokens with
  | nil => rfl
  | cons t tokens ih =>
    show ((scan tokens).step t).closed =
      ((scan tokens).step t).kept.any (·.isSemicolon)
    rcases step_cases t (scan tokens) with
      ⟨ht, content, hstep⟩ | ⟨ht, -, hstep⟩ | ⟨ht, hstep⟩
    · rw [hstep, List.any_cons, ht, Bool.false_or]
      exact ih
    · rw [hstep, List.any_cons, ht, Bool.true_or]
    · rw [hstep]
      exact ih

/-- A removed semicolon makes the text shorter by one character. -/
theorem length_text_add_removed (tokens : List Token) :
    (scan tokens).text.length + (scan tokens).removed =
      (String.join (tokens.map (·.text))).length := by
  induction tokens with
  | nil => rfl
  | cons t tokens ih =>
    rw [List.map_cons, String.join_cons, String.length_append, ← ih]
    show ((scan tokens).step t).text.length + ((scan tokens).step t).removed = _
    -- a token that is kept adds its own length, one that is removed was a
    -- single character
    rcases step_cases t (scan tokens) with
      ⟨-, content, hstep⟩ | ⟨-, -, hstep⟩ | ⟨ht, hstep⟩
    · rw [hstep, Scan.text, List.map_cons, String.join_cons,
        String.length_append, Nat.add_assoc]
      rfl
    · rw [hstep, Scan.text, List.map_cons, String.join_cons,
        String.length_append, Nat.add_assoc]
      rfl
    · have hlength : t.text.length = 1 := by
        rw [text_of_isSemicolon ht]
        rfl
      rw [hstep, hlength, Nat.add_comm 1, ← Nat.add_assoc]
      rfl

/-- If no semicolon is removed, all tokens are kept. -/
theorem kept_of_removed_eq_zero (h : (scan tokens).removed = 0) :
    (scan tokens).kept = tokens := by
  induction tokens with
  | nil => rfl
  | cons t tokens ih =>
    change ((scan tokens).step t).removed = 0 at h
    show ((scan tokens).step t).kept = t :: tokens
    rcases step_cases t (scan tokens) with
      ⟨-, content, hstep⟩ | ⟨-, -, hstep⟩ | ⟨-, hstep⟩
    · rw [hstep] at h ⊢
      exact congrArg (t :: ·) (ih h)
    · rw [hstep] at h ⊢
      exact congrArg (t :: ·) (ih h)
    · rw [hstep] at h
      cases h

/-- Nothing is removed when what was kept is scanned again. -/
theorem removed_scan_kept (tokens : List Token) :
    (scan (scan tokens).kept).removed = 0 := by
  by_cases h : ∃ pre closing post, Closes tokens pre closing post
  · obtain ⟨pre, closing, post, h⟩ := h
    obtain ⟨content, hscan⟩ := scan_of_closes h
    rw [hscan]
    have hclosed : Closes (others pre ++ closing :: post)
        (others pre) closing post :=
      ⟨rfl, h.isSemicolon, h.blank⟩
    obtain ⟨content', hagain⟩ := scan_of_closes hclosed
    rw [hagain]
    exact countP_others pre
  · simp only [not_exists] at h
    obtain ⟨content, hscan⟩ := scan_of_not_closes h
    rw [hscan]
    have hopen : ∀ pre closing post,
        ¬ Closes (others tokens) pre closing post := not_closes_others
    obtain ⟨content', hagain⟩ := scan_of_not_closes hopen
    rw [hagain]
    exact countP_others tokens

end Parts

/-! ### The query without additional semicolons -/

/-- An additional semicolon is reported just when one was removed. -/
theorem additional_mem_findings_iff (s : Scan) :
    (∃ f ∈ s.findings, f.category = .additionalSemicolon) ↔ s.removed ≠ 0 := by
  have hmissing :
      ∀ f ∈ (if s.closed then [] else [⟨.missingSemicolon, []⟩] : List Finding),
        f.category ≠ .additionalSemicolon := by
    cases s.closed <;> simp
  constructor
  · rintro ⟨f, hf, hcategory⟩
    rcases List.mem_append.mp hf with hf | hf
    · exact (List.mem_replicate.mp hf).1
    · exact absurd hcategory (hmissing f hf)
  · intro h
    exact ⟨⟨.additionalSemicolon, []⟩,
      List.mem_append_left _ (List.mem_replicate.mpr ⟨h, rfl⟩), rfl⟩

/-- The text of a query that is made up of its tokens is changed by removing a
semicolon, and only by that. -/
theorem corrected_eq_iff {q : Query}
    (hsql : q.sql = String.join (q.tokens.map (·.text))) :
    corrected q = q.sql ↔ (scan q.tokens).removed = 0 := by
  constructor
  · intro h
    -- the lengths of the two texts differ by the number of semicolons removed
    have hlength := length_text_add_removed q.tokens
    rw [← hsql, ← h, corrected] at hlength
    omega
  · intro h
    rw [hsql, corrected, Scan.text, kept_of_removed_eq_zero h]

end Semicolon

namespace Action

/-- What the syntactic detector does when the semicolons are removed. -/
def afterSemicolons (place : Int) (semicolons : List Finding) :
    Action (List Finding) := do
  let undefinedNames ← definitionFindings place
  let d ← detectorAt place
  let corrections ← takeSteps place CorrectionStep.order d.query.sql
  let others ← inspect place
  return semicolons ++ undefinedNames ++ corrections ++ others

/-- The first thing that the syntactic detector does: the text without
additional semicolons is read if it differs. -/
def rereadCorrected (q : Query) : Action Unit :=
  if Semicolon.corrected q == q.sql then pure ()
  else setQuery (Semicolon.corrected q) (some semicolonLabel)

/-- A run of the syntactic detector rereads the text if it has to, and then does
the rest. -/
theorem perform_runAt_of_holds {place : Int} {s : Session}
    (hs : s.Holds place .syntactic) :
    (runAt place).perform s =
      (rereadCorrected s.query >>= fun _ =>
        afterSemicolons place (Semicolon.findings s.query)).perform s := by
  have hrun : (runAt place).perform s =
      (removeSemicolons place >>= afterSemicolons place).perform s := by
    unfold runAt
    rw [perform_bind_of_ok (perform_detectorAt_of_holds hs), if_pos rfl]
    rfl
  have hupdate :
      (updateQuery place (Semicolon.corrected s.query) semicolonLabel).perform s =
        (rereadCorrected s.query).perform s := by
    unfold updateQuery
    rw [perform_bind_of_ok (perform_detectorAt_of_holds hs)]
    rfl
  rw [hrun]
  rcases hread : (rereadCorrected s.query).perform s with ⟨f | u, s'⟩
  · rw [hread] at hupdate
    have hremove : (removeSemicolons place).perform s = (.error f, s') := by
      unfold removeSemicolons
      rw [perform_bind_of_ok (perform_detectorAt_of_holds hs),
        perform_bind_of_error hupdate]
    rw [perform_bind_of_error hremove, perform_bind_of_error hread]
  · rw [hread] at hupdate
    have hremove : (removeSemicolons place).perform s =
        (.ok (Semicolon.findings s.query), s') := by
      unfold removeSemicolons
      rw [perform_bind_of_ok (perform_detectorAt_of_holds hs),
        perform_bind_of_ok hupdate]
      rfl
    rw [perform_bind_of_ok hremove, perform_bind_of_ok hread]

theorem perform_runAt_of_eq {place : Int} {s : Session}
    (hs : s.Holds place .syntactic)
    (h : Semicolon.corrected s.query = s.query.sql) :
    (runAt place).perform s =
      (afterSemicolons place (Semicolon.findings s.query)).perform s := by
  have hkept : rereadCorrected s.query = pure () := by
    rw [rereadCorrected, if_pos (by simpa using h)]
  rw [perform_runAt_of_holds hs, hkept, perform_bind_of_ok (perform_pure () s)]

/-- A text without additional semicolons is read before anything else is
done. -/
theorem perform_runAt_of_ne {place : Int} {s : Session}
    (hs : s.Holds place .syntactic)
    (h : Semicolon.corrected s.query ≠ s.query.sql) :
    (runAt place).perform s =
      (setQuery (Semicolon.corrected s.query) (some semicolonLabel) >>= fun _ =>
        afterSemicolons place (Semicolon.findings s.query)).perform s := by
  have hread : rereadCorrected s.query =
      setQuery (Semicolon.corrected s.query) (some semicolonLabel) := by
    rw [rereadCorrected, if_neg (by simpa using h)]
  rw [perform_runAt_of_holds hs, hread]

end Action

/-! ### The theorem -/

namespace Semicolon

/-- The findings are one for each semicolon that is not kept, and one if none is
kept. -/
theorem findings_eq (tokens : List Token) :
    (scan tokens).findings =
      List.replicate
          (tokens.countP (·.isSemicolon) -
            (scan tokens).kept.countP (·.isSemicolon))
          ⟨.additionalSemicolon, []⟩ ++
        if (scan tokens).kept.any (·.isSemicolon) then []
        else [⟨.missingSemicolon, []⟩] := by
  have hremoved : (scan tokens).removed =
      tokens.countP (·.isSemicolon) -
        (scan tokens).kept.countP (·.isSemicolon) := by
    rw [← removed_add_countP tokens, Nat.add_sub_cancel]
  rw [Scan.findings, hremoved, closed_eq_any]

/-- What is kept stays as it is, and the same is said about its closing
semicolon. -/
theorem scan_kept (tokens : List Token) :
    (scan (scan tokens).kept).kept = (scan tokens).kept ∧
      (scan (scan tokens).kept).findings =
        (scan tokens).findings.filter (·.category == .missingSemicolon) := by
  have hkept := kept_of_removed_eq_zero (removed_scan_kept tokens)
  refine ⟨hkept, ?_⟩
  rw [Scan.findings, Scan.findings, removed_scan_kept, closed_eq_any, hkept,
    ← closed_eq_any, List.filter_append,
    List.filter_replicate_of_neg (by decide)]
  cases (scan tokens).closed <;> rfl

open SqlDiagnosis.Action

/-- **Semicolons.** Of any tokens,

* a semicolon that closes them is kept, with everything else that is no
  semicolon, and without such a semicolon all of them are removed; what is kept
  makes up the text;
* there is one finding for each semicolon that is removed, and then one more if
  none is kept;
* what is kept is kept as a whole when it is scanned again, with the same text
  and the same verdict on the closing semicolon;
* the syntactic detector goes on with the query as it is if there is no finding
  about an additional semicolon, and has another text read first if there is
  one, provided that the text of the query is made up of its tokens. -/
theorem semicolons_removed (tokens : List Token) :
    (∀ pre closing post, Closes tokens pre closing post →
      (scan tokens).kept = others pre ++ closing :: post) ∧
    ((∀ pre closing post, ¬ Closes tokens pre closing post) →
      (scan tokens).kept = others tokens) ∧
    (scan tokens).text = String.join ((scan tokens).kept.map (·.text)) ∧
    (scan tokens).findings =
      List.replicate
          (tokens.countP (·.isSemicolon) -
            (scan tokens).kept.countP (·.isSemicolon))
          ⟨.additionalSemicolon, []⟩ ++
        (if (scan tokens).kept.any (·.isSemicolon) then []
          else [⟨.missingSemicolon, []⟩]) ∧
    ((scan (scan tokens).kept).kept = (scan tokens).kept ∧
      (scan (scan tokens).kept).text = (scan tokens).text ∧
      (scan (scan tokens).kept).findings =
        (scan tokens).findings.filter (·.category == .missingSemicolon)) ∧
    ∀ place s, Session.Holds place .syntactic s → s.query.tokens = tokens →
      s.query.sql = String.join (tokens.map (·.text)) →
      ((∃ f ∈ (scan tokens).findings, f.category = .additionalSemicolon) →
        (scan tokens).text ≠ s.query.sql ∧
        (runAt place).perform s =
          (setQuery (scan tokens).text (some semicolonLabel) >>= fun _ =>
            afterSemicolons place (scan tokens).findings).perform s) ∧
      ((¬ ∃ f ∈ (scan tokens).findings, f.category = .additionalSemicolon) →
        (scan tokens).text = s.query.sql ∧
        (runAt place).perform s =
          (afterSemicolons place (scan tokens).findings).perform s) := by
  obtain ⟨hkept, hagain⟩ := scan_kept tokens
  refine ⟨?_, ?_, rfl, findings_eq tokens, ⟨hkept, ?_, hagain⟩, ?_⟩
  · intro pre closing post h
    obtain ⟨content, hscan⟩ := scan_of_closes h
    rw [hscan]
  · intro h
    obtain ⟨content, hscan⟩ := scan_of_not_closes h
    rw [hscan]
  · rw [Scan.text, hkept, Scan.text]
  · rintro place s hs rfl hsql
    -- whether the text changed can be seen in the findings
    have hsame : corrected s.query = s.query.sql ↔
        ¬ ∃ f ∈ (scan s.query.tokens).findings,
          f.category = .additionalSemicolon := by
      rw [corrected_eq_iff hsql, additional_mem_findings_iff, not_not]
    constructor
    · intro h
      have hne : corrected s.query ≠ s.query.sql := fun heq => hsame.mp heq h
      exact ⟨hne, perform_runAt_of_ne hs hne⟩
    · intro h
      exact ⟨hsame.mpr h, perform_runAt_of_eq hs (hsame.mpr h)⟩

/-- The second of two semicolons closes an equation. The first is removed, and
the shorter text is read before anything else is done. -/
theorem semicolons_removed_equation :
    ∃ s, Session.Holds 0 .syntactic s ∧ s.query = .equation "==" 2 ∧
      (scan s.query.tokens).kept = (Query.equation "==" 1).tokens ∧
      (scan s.query.tokens).text ≠ s.query.sql ∧
      (runAt 0).perform s =
        (setQuery (scan s.query.tokens).text (some semicolonLabel) >>= fun _ =>
          afterSemicolons 0 (scan s.query.tokens).findings).perform s := by
  let q := Query.equation "==" 2
  obtain ⟨hclosed, -, -, -, -, hrun⟩ := semicolons_removed q.tokens
  have hholds : Session.Holds 0 .syntactic
      ⟨.equations, [], q, [⟨.syntactic, q, []⟩], []⟩ := rfl
  have hadditional : ∃ f ∈ (scan q.tokens).findings,
      f.category = .additionalSemicolon :=
    ⟨⟨.additionalSemicolon, []⟩, List.mem_cons_self, rfl⟩
  obtain ⟨hne, hfirst⟩ := (hrun 0 _ hholds rfl rfl).1 hadditional
  refine ⟨_, hholds, rfl, ?_, hne, hfirst⟩
  exact hclosed (q.tokens.take 4) ⟨some .punctuation, ";"⟩ []
    ⟨rfl, rfl, by simp⟩

end Semicolon

end SqlDiagnosis
