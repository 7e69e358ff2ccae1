import SqlDiagnosis.Proofs.Interchange

/-!
# Substituting one word

A text can be split in exactly one way into words, each as long as possible, and
the other characters one by one (`isSplit_iff`). A correction of a single word
goes through the pieces of this split: those that are the written word give way
to the proposed text, and all others stay. In particular no occurrence is found
inside a longer word.

An occurrence is a whole piece, so the characters around it belong to no word,
and what is inserted does not grow together with what stands beside it,
whichever characters it begins and ends with. Hence the pieces after a
correction are the kept ones and those of the inserted text, and if the written
word is not among the latter, there is nothing left to correct.
-/

namespace SqlDiagnosis

namespace Text

variable {old new text piece : List Char} {pieces : List (List Char)}

/-! ### The split of a text -/

/-- A word, or one character that belongs to no word. -/
def IsPiece (piece : List Char) : Prop :=
  isWord piece = true ∨ ∃ c, isWordChar c = false ∧ piece = [c]

/-- The pieces make up the text, and of two neighbours at most one is a word. -/
structure IsSplit (text : List Char) (pieces : List (List Char)) : Prop where
  flatten_eq : pieces.flatten = text
  forall_isPiece : ∀ piece ∈ pieces, IsPiece piece
  maximal : pieces.IsChain fun piece next =>
    isWord piece = true → isWord next = false

theorem isWord_iff :
    isWord piece = true ↔
      piece ≠ [] ∧ ∀ c ∈ piece, isWordChar c = true := by
  rw [isWord, Bool.and_eq_true, List.all_eq_true, Bool.not_eq_true',
    List.isEmpty_eq_false_iff]

/-- What follows a word in a split continues no word. -/
theorem endsWord_flatten (hpieces : ∀ piece ∈ pieces, IsPiece piece)
    (hfirst : ∀ piece ∈ pieces.head?, isWord piece = false) :
    endsWord pieces.flatten = true := by
  cases pieces with
  | nil => rfl
  | cons first rest =>
    rcases hpieces first List.mem_cons_self with hword | ⟨c, hc, rfl⟩
    · rw [hfirst first rfl] at hword
      cases hword
    · simp [endsWord, hc]

/-- Every split of a text is that into its runs. -/
theorem IsSplit.runs_eq (h : IsSplit text pieces) : runs text = pieces := by
  obtain ⟨rfl, hpieces, hmaximal⟩ := h
  -- the first piece is the first run, because the piece behind a word begins
  -- with another kind of character
  induction pieces with
  | nil => rfl
  | cons piece rest ih =>
    obtain ⟨hpiece, hrest⟩ := List.forall_mem_cons.mp hpieces
    obtain ⟨hnext, hlater⟩ := List.isChain_cons.mp hmaximal
    have hruns : runs rest.flatten = rest := ih hrest hlater
    rw [List.flatten_cons]
    rcases hpiece with hword | ⟨c, hc, rfl⟩
    · obtain ⟨hne, hchars⟩ := isWord_iff.mp hword
      have hends : endsWord rest.flatten = true :=
        endsWord_flatten hrest fun next h => hnext next h hword
      rw [runs_word_append hne hchars hends, hruns]
    · rw [List.singleton_append, runs_cons_of_not_word hc, hruns]

theorem isSplit_runs (text : List Char) : IsSplit text (runs text) := by
  induction hn : text.length using Nat.strong_induction_on generalizing text with
  | _ n ih =>
    subst hn
    cases text with
    | nil => exact ⟨rfl, by simp [runs], .nil⟩
    | cons c rest =>
      rcases hc : isWordChar c with _ | _
      · obtain ⟨-, hpieces, hmaximal⟩ := ih rest.length (by simp) rest rfl
        refine ⟨flatten_runs _, ?_, ?_⟩
        · rw [runs_cons_of_not_word hc]
          exact List.forall_mem_cons.mpr ⟨.inr ⟨c, hc, rfl⟩, hpieces⟩
        · rw [runs_cons_of_not_word hc, List.isChain_cons]
          refine ⟨fun next _ hword => ?_, hmaximal⟩
          simp [isWord, hc] at hword
      · -- a word goes as far as word characters do, so that the piece behind it
        -- is no word
        obtain ⟨word, rest, rfl, hword, hrest⟩ := exists_word rest
        have hchars : ∀ a ∈ c :: word, isWordChar a = true :=
          List.forall_mem_cons.mpr ⟨hc, hword⟩
        have hruns : runs (c :: (word ++ rest)) = (c :: word) :: runs rest :=
          runs_word_append (List.cons_ne_nil c word) hchars hrest
        have hshorter : rest.length < (c :: (word ++ rest)).length := by
          rw [List.length_cons, List.length_append]
          omega
        obtain ⟨hflatten, hpieces, hmaximal⟩ := ih rest.length hshorter rest rfl
        refine ⟨flatten_runs _, ?_, ?_⟩
        · rw [hruns]
          exact List.forall_mem_cons.mpr
            ⟨.inl (isWord_iff.mpr ⟨List.cons_ne_nil c word, hchars⟩), hpieces⟩
        · rw [hruns, List.isChain_cons]
          refine ⟨fun next hnext _ => Bool.eq_false_iff.mpr fun hword' => ?_,
            hmaximal⟩
          obtain ⟨hne, hchars'⟩ := isWord_iff.mp hword'
          obtain ⟨others, hothers⟩ := List.head?_eq_some_iff.mp hnext
          obtain ⟨a, tail, rfl⟩ := List.exists_cons_of_ne_nil hne
          rw [← hflatten, hothers] at hrest
          simp [endsWord, hchars' a List.mem_cons_self] at hrest

/-- A text has one split, which is that into its runs. -/
theorem isSplit_iff : IsSplit text pieces ↔ pieces = runs text := by
  constructor
  · intro h
    exact h.runs_eq.symm
  · rintro rfl
    exact isSplit_runs text

/-! ### Substitution -/

/-- Substituting a word is replacing pieces. -/
theorem replaceWords_eq_flatten (h : isWord old = true) (text : List Char) :
    replaceWords old new text =
      ((runs text).map fun piece =>
        if piece = old then new else piece).flatten := by
  rw [← flatten_runs (replaceWords old new text), runs_replaceWords_of_isWord h]
  induction runs text with
  | nil => rfl
  | cons piece rest ih =>
    rw [List.flatMap_cons, List.flatten_append, ih, List.map_cons,
      List.flatten_cons]
    congr 1
    by_cases hpiece : piece = old
    · rw [if_pos hpiece, if_pos hpiece, flatten_runs]
    · rw [if_neg hpiece, if_neg hpiece, List.flatten_singleton]

/-- A word is not found in a text that does not have it as a piece. -/
theorem replaceWords_of_not_mem (h : isWord old = true)
    (hmem : old ∉ runs text) :
    replaceWords old new text = text := by
  have hkept : ∀ piece ∈ runs text,
      (if piece = old then new else piece) = piece := by
    intro piece hpiece
    refine if_neg ?_
    rintro rfl
    exact hmem hpiece
  rw [replaceWords_eq_flatten h, List.map_congr_left hkept, List.map_id',
    flatten_runs]

/-- After a substitution the word is left only where it was inserted. -/
theorem not_mem_runs_replaceWords (h : isWord old = true)
    (hnew : old ∉ runs new) (text : List Char) :
    old ∉ runs (replaceWords old new text) := by
  rw [runs_replaceWords_of_isWord h, List.mem_flatMap]
  rintro ⟨piece, -, hpiece⟩
  split at hpiece
  · exact hnew hpiece
  · rename_i hne
    exact hne (List.mem_singleton.mp hpiece).symm

end Text

namespace Correction

/-- **A word is replaced where it is a word.** Let a correction have a single
word as its written text and no backslash in its proposed text. Every text has
one split into words and other characters, and the correction can be applied to
every text: it puts the proposed text in place of the pieces that are the
written word and keeps all others. If the written word is no piece of the
proposed text, applying the correction once more changes nothing. -/
theorem apply_word {c : Correction}
    (hword : Text.isWord c.written.toList = true)
    (hplain : '\\' ∉ c.proposed.toList) (text : String) :
    ∃ pieces result,
      (∀ split, Text.IsSplit text.toList split ↔ split = pieces) ∧
      c.apply text = .ok result ∧
      result.toList =
        (pieces.map fun piece =>
          if piece = c.written.toList then c.proposed.toList
          else piece).flatten ∧
      ((∀ split, Text.IsSplit c.proposed.toList split →
          c.written.toList ∉ split) →
        c.apply result = .ok result) := by
  have happly := apply_of_inserted (inserted_of_plain hplain)
  refine ⟨Text.runs text.toList, _, fun split => Text.isSplit_iff, happly text,
    ?_, fun hfresh => ?_⟩
  · rw [String.toList_ofList, Text.replaceWords_eq_flatten hword]
  · have hnew := hfresh _ (Text.isSplit_runs c.proposed.toList)
    have hgone := Text.not_mem_runs_replaceWords hword hnew text.toList
    rw [happly, String.toList_ofList, Text.replaceWords_of_not_mem hword hgone]

/-- A misspelt column is replaced where it stands alone and kept inside a longer
name, and then it is gone. -/
theorem apply_word_nme :
    Text.isWord "nme".toList = true ∧ '\\' ∉ "\"name\"".toList ∧
      (Correction.mk "nme" "\"name\"").apply "SELECT nme, nmes FROM t" =
        .ok "SELECT \"name\", nmes FROM t" ∧
      (Correction.mk "nme" "\"name\"").apply "SELECT \"name\", nmes FROM t" =
        .ok "SELECT \"name\", nmes FROM t" := by
  have hword : Text.isWord "nme".toList = true := by decide +kernel
  have hplain : '\\' ∉ "\"name\"".toList := by decide +kernel
  obtain ⟨pieces, result, hsplit, happly, hresult, hagain⟩ :=
    @apply_word ⟨"nme", "\"name\""⟩ hword hplain "SELECT nme, nmes FROM t"
  have hpieces : pieces = Text.runs "SELECT nme, nmes FROM t".toList :=
    ((hsplit _).mp (Text.isSplit_runs _)).symm
  have htext : result = "SELECT \"name\", nmes FROM t" := by
    apply String.toList_injective
    rw [hresult, hpieces]
    decide +kernel
  have hfresh : ∀ split, Text.IsSplit "\"name\"".toList split →
      "nme".toList ∉ split := by
    intro split h
    rw [Text.isSplit_iff.mp h]
    decide +kernel
  rw [htext] at happly hagain
  exact ⟨hword, hplain, happly, hagain hfresh⟩

end Correction

end SqlDiagnosis
