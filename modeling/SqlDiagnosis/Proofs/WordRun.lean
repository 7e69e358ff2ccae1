import Mathlib.Data.List.SplitBy
import SqlDiagnosis.Proofs.Rewriting
import SqlDiagnosis.Text.WordSubstitution

/-!
# Word substitution on runs

A text is cut into its maximal runs of word characters and the characters
between them. A text that begins and ends with a word character occurs as
separate words exactly where its runs occur among the runs of the other
(`occursAt_iff`), so substituting it is replacing runs by runs
(`runs_replaceWords`). What is known about replacing parts of a list is thereby
known about substituting words.
-/

namespace SqlDiagnosis.Text

open Rewriting

variable {old new text : List Char} {before : Option Char} {c : Char}

/-! ### Runs -/

/-- The maximal runs of word characters of a text, and the characters between
them one by one. -/
def runs (text : List Char) : List (List Char) :=
  text.splitBy fun a b => isWordChar a && isWordChar b

/-- Whether a text begins and ends with a word character. -/
def isWordEnded (text : List Char) : Bool :=
  text.head?.any isWordChar && text.getLast?.any isWordChar

/-- A text that is empty or begins with a character of another kind continues no
word. -/
def endsWord (rest : List Char) : Bool := !rest.head?.any isWordChar

@[simp] theorem flatten_runs (text : List Char) : (runs text).flatten = text :=
  List.flatten_splitBy _ _

theorem runs_ne_nil (h : text ≠ []) : runs text ≠ [] :=
  List.splitBy_ne_nil.mpr h

/-- Texts are cut apart from each other if no word goes on between them. -/
theorem runs_append {xs ys : List Char}
    (h : xs.getLast?.any isWordChar = true → endsWord ys = true) :
    runs (xs ++ ys) = runs xs ++ runs ys := by
  refine List.splitBy_append fun a ha b hb => ?_
  rw [Option.mem_def] at ha hb
  rw [endsWord, ha, hb] at h
  simpa using h

theorem runs_cons_of_not_word (hc : isWordChar c = false) (rest : List Char) :
    runs (c :: rest) = [c] :: runs rest :=
  @runs_append [c] rest (by simp [hc])

/-- A word that ends is the first run. -/
theorem runs_word_append {word rest : List Char} (hne : word ≠ [])
    (hword : ∀ c ∈ word, isWordChar c = true) (hrest : endsWord rest = true) :
    runs (word ++ rest) = word :: runs rest := by
  have hchain : word.IsChain fun a b =>
      (isWordChar a && isWordChar b) = true := by
    refine (List.pairwise_of_forall_mem_list fun a ha b hb => ?_).isChain
    rw [hword a ha, hword b hb]
    rfl
  rw [runs_append fun _ => hrest, runs, List.splitBy_of_isChain hne hchain]
  rfl

/-- A text goes on with a word, possibly empty, that ends somewhere. -/
theorem exists_word (text : List Char) :
    ∃ word rest, text = word ++ rest ∧ (∀ c ∈ word, isWordChar c = true) ∧
      endsWord rest = true := by
  refine ⟨text.takeWhile isWordChar, text.dropWhile isWordChar,
    List.takeWhile_append_dropWhile.symm, ?_, ?_⟩
  · intro a ha
    exact List.all_eq_true.mp List.all_takeWhile a ha
  · have hhead := List.head?_dropWhile_not isWordChar text
    rw [endsWord]
    rcases h : (text.dropWhile isWordChar).head? with _ | a
    · rfl
    · rw [h] at hhead
      rw [Option.any_some, hhead]
      rfl

theorem ne_nil_of_isWordEnded (h : isWordEnded old = true) : old ≠ [] := by
  rintro rfl
  cases h

/-- The runs of a text that ends in a word character come first among those of
another exactly when it is a beginning that is not continued by the same
word. -/
theorem runs_prefix_iff (hold : isWordEnded old = true) :
    runs old <+: runs text ↔
      ∃ rest, text = old ++ rest ∧ endsWord rest = true := by
  have hne := ne_nil_of_isWordEnded hold
  have hlast : isWordChar (old.getLast hne) = true := by
    rw [isWordEnded, Bool.and_eq_true, List.getLast?_eq_some_getLast hne] at hold
    exact hold.2
  constructor
  · rintro ⟨rs, hrs⟩
    refine ⟨rs.flatten, ?_, ?_⟩
    · rw [← flatten_runs text, ← hrs, List.flatten_append, flatten_runs]
    · -- two runs stand beside each other only where no word goes on from one
      -- to the other
      have hchain := List.isChain_getLast_head_splitBy
        (fun a b => isWordChar a && isWordChar b) text
      change List.IsChain _ (runs text) at hchain
      rw [← hrs, List.isChain_append] at hchain
      cases rs with
      | nil => rfl
      | cons r rs =>
        obtain ⟨ha, hb, hlink⟩ :=
          hchain.2.2 _ (List.getLast_mem_getLast? (runs_ne_nil hne)) r rfl
        have hlast' : ((runs old).getLast (runs_ne_nil hne)).getLast ha =
            old.getLast hne :=
          List.getLast_getLast_splitBy _ hne
        rw [hlast', hlast, Bool.true_and] at hlink
        rw [endsWord, List.flatten_cons, List.head?_append_of_ne_nil _ hb,
          List.head?_eq_some_head hb, Option.any_some, hlink]
        rfl
  · rintro ⟨rest, rfl, hrest⟩
    rw [runs_append fun _ => hrest]
    exact List.prefix_append _ _

/-- What begins with a word character does not begin with another one. -/
theorem not_runs_prefix_cons (hold : isWordEnded old = true)
    (hc : isWordChar c = false) (rest : List Char) :
    ¬ runs old <+: [c] :: runs rest := by
  rw [← runs_cons_of_not_word hc, runs_prefix_iff hold]
  rintro ⟨rest', htext, -⟩
  obtain ⟨a, tail, rfl⟩ :=
    List.exists_cons_of_ne_nil (ne_nil_of_isWordEnded hold)
  have ha : isWordChar a = true := (Bool.and_eq_true_iff.mp hold).1
  rw [(List.cons.inj htext).1, ha] at hc
  cases hc

/-! ### Occurrences -/

/-- A text occurs at its own beginning if there are boundaries on both sides. -/
theorem occursAt_append (hne : old ≠ []) (before : Option Char)
    (rest : List Char) :
    occursAt old before (old ++ rest) =
      (isBoundary before old.head? && isBoundary old.getLast? rest.head?) := by
  have hprefix : old.isPrefixOf (old ++ rest) = true :=
    List.isPrefixOf_iff_prefix.mpr (List.prefix_append _ _)
  have hlast : (old.getLast? <|> before) = old.getLast? := by
    rw [List.getLast?_eq_some_getLast hne]
    rfl
  rw [occursAt, hprefix, Bool.true_and, List.head?_append_of_ne_nil _ hne,
    hlast, List.drop_left]

/-- A text occurs where no word is under way when it begins with a word
character, and a word begins or ends where it ends. -/
theorem occursAt_append_of_not_word (hne : old ≠ [])
    (hbefore : before.any isWordChar = false) (rest : List Char) :
    occursAt old before (old ++ rest) =
      (old.head?.any isWordChar &&
        (old.getLast?.any isWordChar != rest.head?.any isWordChar)) := by
  rw [occursAt_append hne, isBoundary, isBoundary, hbefore]
  cases old.head?.any isWordChar <;> rfl

theorem prefix_of_occursAt (h : occursAt old before text = true) :
    old <+: text := by
  rw [occursAt, Bool.and_eq_true, Bool.and_eq_true] at h
  exact List.isPrefixOf_iff_prefix.mp h.1.1

/-- A text that begins and ends with a word character occurs as separate words,
where no word is under way, exactly where its runs do. -/
theorem occursAt_iff (hold : isWordEnded old = true)
    (hbefore : before.any isWordChar = false) :
    occursAt old before text = true ↔ runs old <+: runs text := by
  have hoccurs : ∀ rest, occursAt old before (old ++ rest) = endsWord rest := by
    intro rest
    obtain ⟨hhead, hlast⟩ := Bool.and_eq_true_iff.mp hold
    rw [occursAt_append_of_not_word (ne_nil_of_isWordEnded hold) hbefore, hhead,
      hlast, endsWord]
    cases rest.head?.any isWordChar <;> rfl
  rw [runs_prefix_iff hold]
  constructor
  · intro h
    obtain ⟨rest, rfl⟩ := prefix_of_occursAt h
    rw [hoccurs] at h
    exact ⟨rest, rfl, h⟩
  · rintro ⟨rest, rfl, hrest⟩
    rw [hoccurs, hrest]

/-- Inside a word no occurrence begins, nor does one begin with a character of
another kind. -/
theorem occursAt_cons_eq_false (hold : isWordEnded old = true)
    (h : isWordChar c = true → before.any isWordChar = true)
    (rest : List Char) : occursAt old before (c :: rest) = false := by
  obtain ⟨a, tail, rfl⟩ :=
    List.exists_cons_of_ne_nil (ne_nil_of_isWordEnded hold)
  have ha : isWordChar a = true := (Bool.and_eq_true_iff.mp hold).1
  rcases hc : isWordChar c with _ | _
  · have hac : (a == c) = false := by
      refine beq_eq_false_iff_ne.mpr ?_
      rintro rfl
      rw [ha] at hc
      cases hc
    simp [occursAt, List.isPrefixOf, hac]
  · simp [occursAt, isBoundary, h hc, hc]

/-! ### Substitution -/

theorem replaceFrom_nil (hne : old ≠ []) (before : Option Char) :
    replaceFrom old new before 0 [] = [] := by
  obtain ⟨a, tail, rfl⟩ := List.exists_cons_of_ne_nil hne
  rfl

/-- The characters of an occurrence are passed over. -/
theorem replaceFrom_skip (xs ys : List Char) (before : Option Char) :
    replaceFrom old new before xs.length (xs ++ ys) =
      replaceFrom old new (xs.getLast?.or before) 0 ys := by
  induction xs generalizing before with
  | nil => rfl
  | cons x xs ih =>
    show replaceFrom old new (some x) xs.length (xs ++ ys) = _
    rw [ih, List.getLast?_cons]
    cases xs.getLast? <;> rfl

/-- An occurrence is replaced. -/
theorem replaceFrom_of_occursAt (hne : old ≠ []) {rest : List Char}
    (h : occursAt old before (old ++ rest) = true) :
    replaceFrom old new before 0 (old ++ rest) =
      new ++ replaceFrom old new old.getLast? 0 rest := by
  obtain ⟨a, tail, rfl⟩ := List.exists_cons_of_ne_nil hne
  have hskip := @replaceFrom_skip (a :: tail) new tail rest (some a)
  have hlast : tail.getLast?.or (some a) = (a :: tail).getLast? := by
    rw [List.getLast?_cons]
    cases tail.getLast? <;> rfl
  rw [List.cons_append] at h ⊢
  rw [replaceFrom.eq_def]
  simp only [h, if_true, hskip, hlast]

/-- Where nothing occurs, the character is kept. -/
theorem replaceFrom_cons_of_not_occursAt {rest : List Char}
    (h : occursAt old before (c :: rest) = false) :
    replaceFrom old new before 0 (c :: rest) =
      c :: replaceFrom old new (some c) 0 rest := by
  rw [replaceFrom.eq_def]
  simp only [h, Bool.false_eq_true, if_false]

/-- Nothing is replaced in a word that is under way. -/
theorem replaceFrom_word_append (hold : isWordEnded old = true)
    {word : List Char} (hword : ∀ c ∈ word, isWordChar c = true)
    (hbefore : before.any isWordChar = true) (rest : List Char) :
    replaceFrom old new before 0 (word ++ rest) =
      word ++ replaceFrom old new (word.getLast?.or before) 0 rest := by
  induction word generalizing before with
  | nil => rfl
  | cons a word ih =>
    have ha : isWordChar a = true := hword a List.mem_cons_self
    have hmiss :=
      occursAt_cons_eq_false hold (fun _ => hbefore) (word ++ rest) (c := a)
    have hrest :=
      @ih (some a) (fun c hc => hword c (List.mem_cons_of_mem a hc)) ha
    rw [List.cons_append, replaceFrom_cons_of_not_occursAt hmiss, hrest,
      List.getLast?_cons]
    cases word.getLast? <;> rfl

/-- A text that continues no word does so after a substitution. -/
theorem endsWord_replaceFrom (hold : isWordEnded old = true)
    (h : endsWord text = true) :
    endsWord (replaceFrom old new before 0 text) = true := by
  cases text with
  | nil =>
    rw [replaceFrom_nil (ne_nil_of_isWordEnded hold)]
    rfl
  | cons c rest =>
    have hc : isWordChar c = false := by simpa [endsWord] using h
    have hmiss := @occursAt_cons_eq_false old before c hold (by simp [hc]) rest
    rw [replaceFrom_cons_of_not_occursAt hmiss]
    exact h

/-- **Substitution on runs.** Where no word is under way, the runs of a text in
which words are substituted are those of the text with runs replaced. -/
theorem runs_replaceFrom (hold : isWordEnded old = true) (text : List Char)
    (before : Option Char)
    (hbefore : before.any isWordChar = true → endsWord text = true) :
    runs (replaceFrom old new before 0 text) =
      replaceAll (runs old) (runs new) (runs text) := by
  have hne := ne_nil_of_isWordEnded hold
  -- a word or an occurrence is passed as a whole, so the induction is on the
  -- length
  induction hn : text.length using Nat.strong_induction_on
    generalizing text before with
  | _ n ih =>
    subst hn
    cases text with
    | nil =>
      rw [replaceFrom_nil hne]
      rfl
    | cons c rest =>
      rcases hc : isWordChar c with _ | _
      · -- a character of another kind is kept
        have hmiss : occursAt old before (c :: rest) = false :=
          occursAt_cons_eq_false hold
            (by rw [hc]; exact fun h => absurd h Bool.false_ne_true) rest
        rw [replaceFrom_cons_of_not_occursAt hmiss, runs_cons_of_not_word hc,
          runs_cons_of_not_word hc,
          replaceAll_cons (not_runs_prefix_cons hold hc rest),
          ih rest.length (by simp) rest (some c) (by simp [hc]) rfl]
      · have hstart : before.any isWordChar = false := by
          rw [endsWord, List.head?_cons, Option.any_some, hc] at hbefore
          simpa using hbefore
        by_cases hocc : runs old <+: runs (c :: rest)
        · -- an occurrence is replaced as a whole, and no word is under way
          -- behind it
          have hmatch := (occursAt_iff hold hstart).mpr hocc
          obtain ⟨rest', htext, hrest'⟩ := (runs_prefix_iff hold).mp hocc
          have hlength : rest'.length < (c :: rest).length :=
            htext ▸ length_lt_length_append hne rest'
          rw [htext] at hmatch ⊢
          rw [replaceFrom_of_occursAt hne hmatch,
            runs_append fun _ => endsWord_replaceFrom hold hrest',
            runs_append fun _ => hrest',
            replaceAll_append_left (runs_ne_nil hne),
            ih rest'.length hlength rest' old.getLast? (fun _ => hrest') rfl]
        · -- a word is passed as a whole
          have hmiss : occursAt old before (c :: rest) = false :=
            Bool.eq_false_iff.mpr (mt (occursAt_iff hold hstart).mp hocc)
          obtain ⟨word, rest', rfl, hword, hrest'⟩ := exists_word rest
          have hword' : ∀ a ∈ c :: word, isWordChar a = true :=
            List.forall_mem_cons.mpr ⟨hc, hword⟩
          have hruns : runs (c :: (word ++ rest')) =
              (c :: word) :: runs rest' :=
            runs_word_append (List.cons_ne_nil c word) hword' hrest'
          have hlength : rest'.length < (c :: (word ++ rest')).length := by
            rw [List.length_cons, List.length_append]
            omega
          rw [hruns] at hocc ⊢
          rw [replaceFrom_cons_of_not_occursAt hmiss,
            replaceFrom_word_append hold hword (by exact hc),
            ← List.cons_append,
            runs_word_append (List.cons_ne_nil c word) hword'
              (endsWord_replaceFrom hold hrest'), replaceAll_cons hocc,
            ih rest'.length hlength rest' _ (fun _ => hrest') rfl]

/-- Substituting words in a whole text. -/
theorem runs_replaceWords (hold : isWordEnded old = true) (text : List Char) :
    runs (replaceWords old new text) =
      replaceAll (runs old) (runs new) (runs text) :=
  runs_replaceFrom hold text none (fun h => absurd h Bool.false_ne_true)

end SqlDiagnosis.Text
