import SqlDiagnosis.Detector
import SqlDiagnosis.Proofs.Interchange
import SqlDiagnosis.Proofs.Pipeline

/-!
# Whether a correction takes effect

A text *stands alone* in a query if there are blanks, or nothing, on both of its
sides. A correction is meant to take effect there. Since a word boundary is
asked for at both ends, it does so only if the written text begins and ends with
a word character; otherwise the text is left as it is. So the correction of a
quoted name has no effect, and neither has that of any operator: it is reported,
and the checks that follow look at the query with the operator still in it.

A text that recurs in itself, as `a AS a` does in `a AS a AS a`, has occurrences
that overlap, and only one of them can be replaced. This is left out (`Steady`).
What recurs at no word boundary does no harm: `"order details"` ends with a
quote as it begins, but is never found to overlap itself where it stands alone.
-/

namespace SqlDiagnosis

open Rewriting

namespace Text

variable {old new pre post xs ys text : List Char}
  {before after : Option Char} {c : Char}

/-! ### Blanks -/

/-- The ranges between boundaries: the first boundary opens one and the second
closes it. -/
def ranges : List Nat → List (Nat × Nat)
  | [] => []
  | [_] => []
  | a :: b :: rest => (a, b) :: ranges rest

/-- A number behind an odd number of boundaries is in one of the ranges. -/
theorem exists_range_of_passedOdd {bounds : List Nat} {n : Nat}
    (heven : bounds.length % 2 = 0) (h : passedOdd bounds n = true) :
    ∃ r ∈ ranges bounds, ∃ k < r.2 - r.1, n = r.1 + k := by
  induction bounds using ranges.induct with
  | case1 => cases h
  | case2 b => cases heven
  | case3 a b rest ih =>
    have ha : a ≤ n := by
      rw [← Nat.not_lt]
      intro hlt
      rw [passedOdd_cons_of_lt _ hlt] at h
      cases h
    by_cases hb : b ≤ n
    · rw [passedOdd_cons_of_le _ ha, passedOdd_cons_of_le _ hb,
        Bool.not_not] at h
      have heven' : rest.length % 2 = 0 := by
        rw [List.length_cons, List.length_cons] at heven
        omega
      obtain ⟨r, hr, hn⟩ := ih heven' h
      exact ⟨r, List.mem_cons_of_mem _ hr, hn⟩
    · refine ⟨(a, b), List.mem_cons_self, n - a, ?_, ?_⟩
      · show n - a < b - a
        omega
      · show n = a + (n - a)
        omega

/-- No blank is a word character. -/
theorem isWordChar_of_isBlank (h : isBlank c = true) :
    isWordChar c = false := by
  have hranges : ∀ r ∈ ranges blankChars.bounds, ∀ k < r.2 - r.1,
      passedOdd wordChars.bounds (r.1 + k) = false := by
    decide +kernel
  obtain ⟨r, hr, k, hk, hn⟩ := exists_range_of_passedOdd (by decide) h
  have hword := hranges r hr k hk
  rw [← hn] at hword
  exact hword

theorem any_isWordChar_of_all_isBlank {c : Option Char}
    (h : c.all isBlank = true) : c.any isWordChar = false := by
  cases c with
  | none => rfl
  | some c => exact isWordChar_of_isBlank h

/-! ### Substitution in parts -/

/-- Whether a text occurs at the start of another does not depend on what
follows the other, if no occurrence reaches into that, and one that ends there
ends with a word boundary also if nothing follows. -/
theorem occursAt_append_right (hne : old ≠ [])
    (hacross : occursAt old before (xs ++ ys) = true → old <+: xs)
    (hcut : old <:+ xs →
      isBoundary old.getLast? ys.head? = isBoundary old.getLast? none) :
    occursAt old before (xs ++ ys) = occursAt old before xs := by
  by_cases hprefix : old <+: xs
  · obtain ⟨more, rfl⟩ := hprefix
    rw [List.append_assoc, occursAt_append hne, occursAt_append hne]
    cases more with
    | nil =>
      have hsuffix : old <:+ old ++ [] :=
        ⟨[], by rw [List.nil_append, List.append_nil]⟩
      rw [List.nil_append, hcut hsuffix]
      rfl
    | cons m more => rfl
  · have hmiss : occursAt old before xs = false :=
      Bool.eq_false_iff.mpr fun h => hprefix (prefix_of_occursAt h)
    rw [hmiss]
    exact Bool.eq_false_iff.mpr fun h => hprefix (hacross h)

/-- Under the same conditions, at every place of it, a text is substituted in
two parts. -/
theorem replaceFrom_append (hne : old ≠ [])
    (hacross : ∀ r s, r ++ s = xs → s ≠ [] →
      occursAt old (r.getLast?.or before) (s ++ ys) = true → old <+: s)
    (hcut : old <:+ xs →
      isBoundary old.getLast? ys.head? = isBoundary old.getLast? none) :
    replaceFrom old new before 0 (xs ++ ys) =
      replaceFrom old new before 0 xs ++
        replaceFrom old new (xs.getLast?.or before) 0 ys := by
  -- an occurrence that is replaced is passed as a whole, so the induction is on
  -- the length of the first part
  induction hn : xs.length using Nat.strong_induction_on
    generalizing xs before with
  | _ n ih =>
    subst hn
    -- the conditions hold of what is left of the first part
    have hleft : ∀ p rest, p ++ rest = xs → p ≠ [] →
        replaceFrom old new (p.getLast?.or before) 0 (rest ++ ys) =
          replaceFrom old new (p.getLast?.or before) 0 rest ++
            replaceFrom old new (rest.getLast?.or (p.getLast?.or before)) 0
              ys := by
      rintro p rest rfl hp
      refine ih rest.length (length_lt_length_append hp rest)
        (fun r s hrs hs hocc => ?_) (fun hsuffix => hcut ?_) rfl
      · subst hrs
        refine hacross (p ++ r) s (List.append_assoc p r s) hs ?_
        rwa [List.getLast?_append, Option.or_assoc]
      · exact hsuffix.trans (List.suffix_append p rest)
    cases xs with
    | nil =>
      rw [replaceFrom_nil hne]
      rfl
    | cons c rest =>
      have hsame := @occursAt_append_right old (c :: rest) ys before hne
        (hacross [] (c :: rest) rfl (List.cons_ne_nil c rest)) hcut
      rcases hocc : occursAt old before (c :: rest) with _ | _
      · have hrest := hleft [c] rest rfl (List.cons_ne_nil c [])
        rw [List.getLast?_singleton, Option.some_or] at hrest
        rw [hocc, List.cons_append] at hsame
        rw [List.cons_append, replaceFrom_cons_of_not_occursAt hsame,
          replaceFrom_cons_of_not_occursAt hocc, hrest, List.getLast?_cons]
        cases rest.getLast? <;> rfl
      · obtain ⟨more, hmore⟩ := prefix_of_occursAt hocc
        have hrest := hleft old more hmore hne
        rw [List.getLast?_eq_some_getLast hne, Option.some_or,
          ← List.getLast?_eq_some_getLast hne] at hrest
        rw [← hmore] at hocc hsame ⊢
        rw [hocc, List.append_assoc] at hsame
        rw [List.append_assoc, replaceFrom_of_occursAt hne hsame,
          replaceFrom_of_occursAt hne hocc, hrest, List.append_assoc,
          List.getLast?_append, Option.or_assoc,
          List.getLast?_eq_some_getLast hne, Option.some_or]

theorem replaceFrom_of_length_lt (h : text.length < old.length)
    (before : Option Char) :
    replaceFrom old new before 0 text = text := by
  have hne : old ≠ [] := by
    rintro rfl
    exact Nat.not_lt_zero _ h
  -- each step leaves a text that is shorter still
  induction text generalizing before with
  | nil => exact replaceFrom_nil hne before
  | cons c rest ih =>
    have hmiss : occursAt old before (c :: rest) = false :=
      Bool.eq_false_iff.mpr fun hocc =>
        Nat.not_le.mpr h (prefix_of_occursAt hocc).length_le
    rw [replaceFrom_cons_of_not_occursAt hmiss, ih (Nat.lt_of_succ_lt h)]

/-- Where no word is under way, a text is replaced in itself if it begins and
ends with a word character. -/
theorem replaceFrom_self (hne : old ≠ [])
    (hbefore : before.any isWordChar = false) :
    replaceFrom old new before 0 old =
      if isWordEnded old then new else old := by
  have hocc : occursAt old before old = isWordEnded old := by
    have happend := occursAt_append_of_not_word hne hbefore []
    rw [List.append_nil] at happend
    rw [happend, isWordEnded]
    cases old.getLast?.any isWordChar <;> rfl
  rcases hended : isWordEnded old with _ | _
  · obtain ⟨a, tail, rfl⟩ := List.exists_cons_of_ne_nil hne
    rw [hended] at hocc
    rw [replaceFrom_cons_of_not_occursAt hocc,
      replaceFrom_of_length_lt (by simp)]
    rfl
  · have hself := @replaceFrom_of_occursAt old new before hne []
      (by rw [List.append_nil, hocc, hended])
    rw [List.append_nil, replaceFrom_nil hne, List.append_nil] at hself
    rw [hself]
    rfl

/-- What stands before a blank does not matter to what comes after it. -/
theorem replaceFrom_of_blank (hne : old ≠ [])
    (hhead : old.head?.any isBlank = false)
    (htext : text.head?.all isBlank = true) (before after : Option Char) :
    replaceFrom old new before 0 text = replaceFrom old new after 0 text := by
  cases text with
  | nil => rw [replaceFrom_nil hne, replaceFrom_nil hne]
  | cons c rest =>
    have hmiss : ∀ before, occursAt old before (c :: rest) = false := by
      intro before
      refine Bool.eq_false_iff.mpr fun hocc => ?_
      obtain ⟨a, tail, rfl⟩ := List.exists_cons_of_ne_nil hne
      obtain ⟨rfl, -⟩ := List.cons_prefix_cons.mp (prefix_of_occursAt hocc)
      have hblank : isBlank a = true := htext
      rw [List.head?_cons, Option.any_some, hblank] at hhead
      cases hhead
    rw [replaceFrom_cons_of_not_occursAt (hmiss before),
      replaceFrom_cons_of_not_occursAt (hmiss after)]

/-! ### Standing alone -/

/-- Between these two texts, a text stands alone: there is a blank or nothing on
both of its sides. -/
def StandsAlone (pre post : List Char) : Prop :=
  pre.getLast?.all isBlank = true ∧ post.head?.all isBlank = true

/-- A text ends as it begins, with a shared part that is not all of it. -/
structure Recurs (old first shared rest : List Char) : Prop where
  ends : first ++ shared = old
  begins : shared ++ rest = old
  first_ne_nil : first ≠ []
  shared_ne_nil : shared ≠ []

/-- A text of which no occurrence overlaps one that stands alone. What the two
would share is an end of the text as well as a beginning. An occurrence that
comes too early has the blank in front before the shared part, and one that
comes too late has the blank behind after it. Both are ruled out where the blank
is not there, or where no word boundary is.

So a text without blanks is steady, and so is `employee AS e`, which ends as it
begins, but not with the same word, and `"order details"`, which ends as it
begins, but with a quote, where the text goes on without a blank. -/
structure Steady (old : List Char) : Prop where
  ne_nil : old ≠ []
  head : old.head?.any isBlank = false
  last : old.getLast?.any isBlank = false
  /-- None that comes too early would end at a word boundary. -/
  early : ∀ {first shared rest}, Recurs old first shared rest →
    first.getLast?.any isBlank = true →
    isBoundary old.getLast? rest.head? = false
  /-- None that comes too late would begin at one, if the text is not replaced
  as a whole. -/
  late : isWordEnded old = false →
    ∀ {first shared rest}, Recurs old first shared rest →
    rest.head?.any isBlank = true → isBoundary first.getLast? old.head? = false

/-- The text goes on after the shared part, since it began before it. -/
theorem Recurs.rest_ne_nil {first shared rest : List Char}
    (h : Recurs old first shared rest) : rest ≠ [] := by
  rintro rfl
  have hlength := length_lt_length_append h.first_ne_nil shared
  rw [h.ends, ← h.begins, List.append_nil] at hlength
  exact Nat.lt_irrefl _ hlength

/-- An occurrence that begins before a blank does not reach beyond it. -/
theorem Steady.prefix_of_early (hold : Steady old) {s : List Char} (hs : s ≠ [])
    (hblank : s.getLast?.any isBlank = true)
    (hocc : occursAt old before (s ++ (old ++ post)) = true) : old <+: s := by
  have hprefix := prefix_of_occursAt hocc
  rcases List.prefix_or_prefix_of_prefix hprefix (List.prefix_append s _) with
    hwithin | ⟨shared, hends⟩
  · exact hwithin
  by_cases hshared : shared = []
  · rw [← hends, hshared, List.append_nil]
  -- it reaches into the text by `shared`, which is shorter than the text
  have hbegins : shared <+: old := by
    rw [← hends] at hprefix
    refine List.prefix_of_prefix_length_le
      ((List.prefix_append_right_inj s).mp hprefix) ?_ ?_
    · exact hends ▸ List.prefix_append _ post
    · rw [← hends, List.length_append]
      exact Nat.le_add_left _ _
  obtain ⟨rest, hrest⟩ := hbegins
  have hrecurs : Recurs old s shared rest := ⟨hends, hrest, hs, hshared⟩
  have htext : s ++ (old ++ post) = old ++ (rest ++ post) := by
    calc s ++ (old ++ post) = s ++ (shared ++ rest ++ post) := by rw [hrest]
      _ = s ++ shared ++ (rest ++ post) := by simp only [List.append_assoc]
      _ = old ++ (rest ++ post) := by rw [hends]
  rw [htext, occursAt_append hold.ne_nil,
    List.head?_append_of_ne_nil _ hrecurs.rest_ne_nil,
    hold.early hrecurs hblank, Bool.and_false] at hocc
  cases hocc

/-- An occurrence that begins in a text which is kept does not reach beyond
it. -/
theorem Steady.prefix_of_late (hold : Steady old)
    (hended : isWordEnded old = false) (hblank : post.head?.all isBlank = true)
    {r s : List Char} (hrs : r ++ s = old) (hs : s ≠ [])
    (hocc : occursAt old (r.getLast?.or before) (s ++ post) = true) :
    old <+: s := by
  by_cases hr : r = []
  · rw [← hrs, hr, List.nil_append]
  obtain ⟨more, hmore⟩ := prefix_of_occursAt hocc
  -- it begins with `s`, which is shorter than the text, and goes on with the
  -- blank behind
  have hbegins : s <+: old := by
    refine List.prefix_of_prefix_length_le (List.prefix_append s post)
      ⟨more, hmore⟩ ?_
    rw [← hrs, List.length_append]
    exact Nat.le_add_left _ _
  obtain ⟨rest, hrest⟩ := hbegins
  have hrecurs : Recurs old r s rest := ⟨hrs, hrest, hr, hs⟩
  have hbehind : rest ++ more = post := by
    rw [← hrest, List.append_assoc] at hmore
    exact List.append_cancel_left hmore
  have hrestblank : rest.head?.any isBlank = true := by
    rw [← hbehind, List.head?_append_of_ne_nil _ hrecurs.rest_ne_nil,
      List.head?_eq_some_head hrecurs.rest_ne_nil] at hblank
    rw [List.head?_eq_some_head hrecurs.rest_ne_nil]
    exact hblank
  rw [← hmore, occursAt_append hold.ne_nil, List.getLast?_eq_some_getLast hr,
    Option.some_or, ← List.getLast?_eq_some_getLast hr,
    hold.late hended hrecurs hrestblank, Bool.false_and] at hocc
  cases hocc

/-- Where no word is under way, a steady text before a blank is replaced if it
begins and ends with a word character. -/
theorem Steady.replaceFrom_append_post (hold : Steady old)
    (hbefore : before.any isWordChar = false)
    (hblank : post.head?.all isBlank = true) :
    replaceFrom old new before 0 (old ++ post) =
      (if isWordEnded old then new else old) ++ replaceWords old new post := by
  have hbehind : post.head?.any isWordChar = false :=
    any_isWordChar_of_all_isBlank hblank
  rcases hended : isWordEnded old with _ | _
  · have hcut : old <:+ old →
        isBoundary old.getLast? post.head? = isBoundary old.getLast? none := by
      intro _
      rw [isBoundary, isBoundary, hbehind]
      rfl
    rw [replaceFrom_append hold.ne_nil
        (fun r s => hold.prefix_of_late hended hblank) hcut,
      replaceFrom_self hold.ne_nil hbefore,
      replaceFrom_of_blank hold.ne_nil hold.head hblank _ none, hended]
    rfl
  · have hocc : occursAt old before (old ++ post) = true := by
      obtain ⟨hhead, hlast⟩ := Bool.and_eq_true_iff.mp hended
      rw [occursAt_append_of_not_word hold.ne_nil hbefore, hhead,
        hlast, hbehind]
      rfl
    rw [replaceFrom_of_occursAt hold.ne_nil hocc,
      replaceFrom_of_blank hold.ne_nil hold.head hblank _ none]
    rfl

/-- **A text that stands alone** is replaced if it begins and ends with a word
character, and left as it is otherwise. What is on its two sides is substituted
by itself. -/
theorem replaceWords_of_standsAlone (hold : Steady old)
    (halone : StandsAlone pre post) :
    replaceWords old new (pre ++ (old ++ post)) =
      replaceWords old new pre ++
        ((if isWordEnded old then new else old) ++
          replaceWords old new post) := by
  have hbefore : (pre.getLast?.or none).any isWordChar = false := by
    rw [Option.or_none]
    exact any_isWordChar_of_all_isBlank halone.1
  -- every part of the text in front that ends where it ends, ends with a blank
  have hblank : ∀ r s, r ++ s = pre → s ≠ [] →
      s.getLast?.any isBlank = true := by
    rintro r s rfl hs
    have hlast := halone.1
    rw [List.getLast?_append_of_ne_nil r hs,
      List.getLast?_eq_some_getLast hs] at hlast
    rw [List.getLast?_eq_some_getLast hs]
    exact hlast
  have hcut : old <:+ pre →
      isBoundary old.getLast? (old ++ post).head? =
        isBoundary old.getLast? none := by
    rintro ⟨r, hr⟩
    have hlast := hblank r old hr hold.ne_nil
    rw [hold.last] at hlast
    cases hlast
  rw [replaceWords, replaceFrom_append hold.ne_nil
      (fun r s hrs hs => hold.prefix_of_early hs (hblank r s hrs hs)) hcut,
    hold.replaceFrom_append_post hbefore halone.2]
  rfl

/-! ### Steady texts -/

theorem not_isBlank_of_isWordChar {c : Option Char}
    (h : c.any isWordChar = true) : c.any isBlank = false := by
  cases c with
  | none => rfl
  | some c =>
    refine Bool.eq_false_iff.mpr fun hblank => ?_
    have hword : isWordChar c = true := h
    rw [isWordChar_of_isBlank hblank] at hword
    cases hword

theorem any_isBlank_eq_false {c : Option Char}
    (h : ∀ a ∈ c, isBlank a = false) : c.any isBlank = false := by
  cases c with
  | none => rfl
  | some a => exact h a rfl

/-- A text without blanks is steady. -/
theorem Steady.of_blankless (hne : old ≠ [])
    (h : ∀ c ∈ old, isBlank c = false) : Steady old := by
  refine ⟨hne, ?_, ?_, ?_, ?_⟩
  · exact any_isBlank_eq_false fun a ha => h a (List.mem_of_head? ha)
  · exact any_isBlank_eq_false fun a ha => h a (List.mem_of_getLast? ha)
  · intro first shared rest hrecurs hblank
    have hnone : first.getLast?.any isBlank = false :=
      any_isBlank_eq_false fun a ha =>
        h a (hrecurs.ends ▸ List.mem_append_left _ (List.mem_of_getLast? ha))
    rw [hnone] at hblank
    cases hblank
  · intro _ first shared rest hrecurs hblank
    have hnone : rest.head?.any isBlank = false :=
      any_isBlank_eq_false fun a ha =>
        h a (hrecurs.begins ▸ List.mem_append_right _ (List.mem_of_head? ha))
    rw [hnone] at hblank
    cases hblank

/-- A text that begins and ends with word characters is steady if none of the
ends of its runs is also one of the beginnings. -/
theorem Steady.of_runs (hended : isWordEnded old = true)
    (h : ¬ Meets (runs old).tail (runs old)) : Steady old := by
  obtain ⟨hhead, hlast⟩ := Bool.and_eq_true_iff.mp hended
  refine ⟨ne_nil_of_isWordEnded hended, not_isBlank_of_isWordChar hhead,
    not_isBlank_of_isWordChar hlast, ?_, ?_⟩
  · intro first shared rest hrecurs hblank
    refine Bool.eq_false_iff.mpr fun hboundary => h ?_
    -- the shared part would be cut off at both sides, and so be made of runs of
    -- the text
    have hfirst : runs old = runs first ++ runs shared := by
      rw [← hrecurs.ends]
      refine runs_append fun hword => ?_
      rw [not_isBlank_of_isWordChar hword] at hblank
      cases hblank
    have hrest : runs old = runs shared ++ runs rest := by
      have hends : endsWord rest = true := by
        rw [isBoundary, hlast] at hboundary
        rw [endsWord]
        simpa using hboundary
      rw [← hrecurs.begins]
      exact runs_append fun _ => hends
    have hsuffix : runs shared <:+ (runs old).tail := by
      obtain ⟨r, rs, hr⟩ :=
        List.exists_cons_of_ne_nil (runs_ne_nil hrecurs.first_ne_nil)
      rw [hfirst, hr]
      exact List.suffix_append rs (runs shared)
    have hprefix : runs shared <+: runs old := hrest ▸ List.prefix_append _ _
    exact (meets_of_comparable (runs_ne_nil hrecurs.shared_ne_nil)
      (.inl hprefix)).of_suffix hsuffix
  · intro hnot
    rw [hended] at hnot
    cases hnot

/-- A name in quotes. -/
def inQuotes (name : List Char) : List Char := '"' :: (name ++ ['"'])

/-- A name in quotes ends as it begins with the quotes alone. -/
theorem Recurs.of_inQuotes {name first shared rest : List Char}
    (hquote : '"' ∉ name) (h : Recurs (inQuotes name) first shared rest) :
    first = '"' :: name ∧ rest = name ++ ['"'] := by
  obtain ⟨hends, hbegins, hfirst, hshared⟩ := h
  obtain ⟨a, front, rfl⟩ := List.exists_cons_of_ne_nil hfirst
  obtain ⟨middle, b, rfl⟩ :=
    (List.eq_nil_or_concat' shared).resolve_left hshared
  obtain ⟨rfl, hname⟩ := List.cons.inj hends
  have hname : front ++ middle ++ [b] = name ++ ['"'] :=
    (List.append_assoc _ _ _).trans hname
  obtain ⟨rfl, hb⟩ := List.append_inj' hname rfl
  obtain rfl := List.singleton_inj.mp hb
  cases middle with
  | nil =>
    rw [List.append_nil] at hbegins ⊢
    exact ⟨rfl, (List.cons.inj hbegins).2⟩
  | cons d middle =>
    -- the part would begin with a quote inside the name
    obtain ⟨rfl, -⟩ := List.cons.inj hbegins
    exact absurd (List.mem_append_right front List.mem_cons_self) hquote

/-- A name in quotes is steady if there are no quotes in it and no blanks at its
ends. -/
theorem Steady.of_inQuotes {name : List Char} (hquote : '"' ∉ name)
    (hhead : name.head?.any isBlank = false)
    (hlast : name.getLast?.any isBlank = false) : Steady (inQuotes name) := by
  have hplain : isBlank '"' = false := by decide +kernel
  refine ⟨List.cons_ne_nil _ _, hplain, ?_, ?_, ?_⟩
  · rw [inQuotes, ← List.cons_append, List.getLast?_concat]
    exact hplain
  · intro first shared rest hrecurs hblank
    obtain ⟨rfl, -⟩ := hrecurs.of_inQuotes hquote
    rw [List.getLast?_cons] at hblank
    rcases hname : name.getLast? with _ | a
    · rw [hname, Option.getD_none, Option.any_some, hplain] at hblank
      cases hblank
    · rw [hname] at hblank hlast
      exact absurd (hlast.symm.trans hblank) Bool.false_ne_true
  · intro _ first shared rest hrecurs hblank
    obtain ⟨-, rfl⟩ := hrecurs.of_inQuotes hquote
    cases name with
    | nil => exact absurd (hplain.symm.trans hblank) Bool.false_ne_true
    | cons a name => exact absurd (hhead.symm.trans hblank) Bool.false_ne_true

/-- A text between two others. -/
def between (pre middle post : List Char) : String :=
  String.ofList (pre ++ (middle ++ post))

end Text

/-! ### Reported corrections -/

/-- A correction applied where its written text stands alone. -/
theorem Correction.apply_between {c : Correction} {new pre post : List Char}
    (hnew : c.inserted = .ok new) (hwritten : Text.Steady c.written.toList)
    (halone : Text.StandsAlone pre post) :
    c.apply (Text.between pre c.written.toList post) =
      .ok (Text.between (Text.replaceWords c.written.toList new pre)
        (if Text.isWordEnded c.written.toList then new else c.written.toList)
        (Text.replaceWords c.written.toList new post)) := by
  rw [apply_of_inserted hnew, Text.between, String.toList_ofList,
    Text.replaceWords_of_standsAlone hwritten halone]
  rfl

namespace Operator

theorem mem_standardSpelling {q : Query} {c : Correction}
    (h : c ∈ corrections q) :
    (c.written, c.proposed) ∈ standardSpelling := by
  obtain ⟨t, -, ht⟩ := List.mem_filterMap.mp h
  unfold correction? at ht
  split at ht
  · obtain ⟨proposed, hlookup, rfl⟩ := Option.map_eq_some_iff.mp ht
    obtain ⟨before, after, hspelling, -⟩ := List.lookup_eq_some_iff.mp hlookup
    rw [hspelling]
    exact List.mem_append_right before List.mem_cons_self
  · cases ht

/-- All borrowed operators are without blanks and none begins and ends with a
word character; no standard spelling has a backslash. -/
theorem standardSpelling_plain : ∀ spelling ∈ standardSpelling,
    spelling.1.toList ≠ [] ∧
    (∀ c ∈ spelling.1.toList, Text.isBlank c = false) ∧
    Text.isWordEnded spelling.1.toList = false ∧
    '\\' ∉ spelling.2.toList := by
  have hblankless : ∀ spelling ∈ standardSpelling,
      spelling.1.toList.any Text.isBlank = false := by
    decide +kernel
  have hrest : ∀ spelling ∈ standardSpelling, spelling.1.toList ≠ [] ∧
      Text.isWordEnded spelling.1.toList = false ∧
        '\\' ∉ spelling.2.toList := by
    decide +kernel
  intro spelling hspelling
  obtain ⟨hne, hended, hplain⟩ := hrest spelling hspelling
  refine ⟨hne, fun c hc => ?_, hended, hplain⟩
  exact Bool.eq_false_iff.mpr
    (List.any_eq_false.mp (hblankless spelling hspelling) c hc)

end Operator

/-- **Whether corrections take effect.** Take any correction that a step reports
for a query, and a text in which what is written stands alone.

* If the correction is that of an operator, then what is written is kept.
* In any case, if what is written is steady, it is replaced when it begins and
  ends with a word character, and kept otherwise. What is inserted is what is
  proposed, unless there is a backslash in it.
* When the syntactic detector of a session applies the correction, then the text
  that this gives is the one that all detectors look at afterwards. -/
theorem correction_effect {q : Query} {step : CorrectionStep}
    {cs : List Correction} (hcs : step.corrections q = .ok cs) {c : Correction}
    (hc : c ∈ cs) {pre post : List Char} (halone : Text.StandsAlone pre post) :
    (step = .operators →
      c.apply (Text.between pre c.written.toList post) =
        .ok (Text.between
          (Text.replaceWords c.written.toList c.proposed.toList pre)
          c.written.toList
          (Text.replaceWords c.written.toList c.proposed.toList post))) ∧
    (∀ new, c.inserted = .ok new → Text.Steady c.written.toList →
      c.apply (Text.between pre c.written.toList post) =
        .ok (Text.between (Text.replaceWords c.written.toList new pre)
          (if Text.isWordEnded c.written.toList then new else c.written.toList)
          (Text.replaceWords c.written.toList new post))) ∧
    ('\\' ∉ c.proposed.toList → c.inserted = .ok c.proposed.toList) ∧
    ∀ g solutions place s text s', Session.Synchronised g solutions s →
      s.Holds place .syntactic →
      (Action.applyCorrection place step.label
        (Text.between pre c.written.toList post) c).perform s = (.ok text, s') →
      c.apply (Text.between pre c.written.toList post) = .ok text ∧
        ∀ d ∈ s'.detectors, d.query.sql = text := by
  refine ⟨?_, ?_, ?_, ?_⟩
  · rintro rfl
    cases hcs
    obtain ⟨hne, hblankless, hended, hplain⟩ :=
      Operator.standardSpelling_plain _ (Operator.mem_standardSpelling hc)
    rw [Correction.apply_between (Correction.inserted_of_plain hplain)
        (.of_blankless hne hblankless) halone, hended]
    rfl
  · intro new hnew hsteady
    exact Correction.apply_between hnew hsteady halone
  · intro hplain
    exact Correction.inserted_of_plain hplain
  · intro g solutions place s text s' hs hholds happly
    obtain ⟨htext, hsql, hupdates⟩ :=
      Action.applyCorrection_ok_inv hholds happly
    refine ⟨htext, fun d hd => ?_⟩
    rw [((hupdates.synchronised hs).detectors d hd).1, hsql]

/-- A query for a column with a blank in its name, which is misspelt and in
quotes. -/
def Spelling.quotedColumn : Query :=
  let word : Arg :=
    .node (.build .identifier .none [("this", .value (.text "order detials")),
      ("quoted", .value (.bool true))])
  .referring ⟨[]⟩
    [(.build .column { NodeFacts.none with name := some "order detials" }
      [("this", word)], ["order details"])]

/-- A misspelt table with another name behind it is replaced where it stands
alone. A misspelt column in quotes is kept. -/
theorem correction_effect_spelling :
    (Spelling.tableCorrections Spelling.twoTables =
        .ok Spelling.twoTableCorrections ∧
      Text.StandsAlone "SELECT * FROM ".toList " WHERE i.price > 1".toList ∧
      (Correction.mk "itms AS i" "\"items\" AS i").apply
        "SELECT * FROM itms AS i WHERE i.price > 1" =
        .ok "SELECT * FROM \"items\" AS i WHERE i.price > 1") ∧
    Spelling.columnCorrections Spelling.quotedColumn =
        .ok [⟨"\"order detials\"", "\"order details\""⟩] ∧
      Text.StandsAlone "SELECT ".toList " FROM orders".toList ∧
      (Correction.mk "\"order detials\"" "\"order details\"").apply
        "SELECT \"order detials\" FROM orders" =
        .ok "SELECT \"order detials\" FROM orders" := by
  refine ⟨?_, ?_⟩
  · have hcs : CorrectionStep.tables.corrections Spelling.twoTables =
        .ok Spelling.twoTableCorrections :=
      Answer.eq_ok_of_toOption (by decide +kernel)
    have halone : Text.StandsAlone "SELECT * FROM ".toList
        " WHERE i.price > 1".toList :=
      ⟨by decide +kernel, by decide +kernel⟩
    have heffect := correction_effect hcs List.mem_cons_self halone
    have hinserted := heffect.2.2.1 (by decide +kernel)
    have happly :=
      heffect.2.1 _ hinserted (.of_runs (by decide +kernel) (by decide +kernel))
    refine ⟨hcs, halone, ?_⟩
    refine Eq.trans ?_ (happly.trans ?_)
    · rfl
    · decide +kernel
  · have hcs : CorrectionStep.columns.corrections Spelling.quotedColumn =
        .ok [⟨"\"order detials\"", "\"order details\""⟩] :=
      Answer.eq_ok_of_toOption (by decide +kernel)
    have halone : Text.StandsAlone "SELECT ".toList " FROM orders".toList :=
      ⟨by decide +kernel, by decide +kernel⟩
    have heffect := correction_effect hcs List.mem_cons_self halone
    have hinserted := heffect.2.2.1 (by decide +kernel)
    have hsteady : Text.Steady (Text.inQuotes "order detials".toList) :=
      .of_inQuotes (by decide +kernel) (by decide +kernel) (by decide +kernel)
    have happly := heffect.2.1 _ hinserted hsteady
    refine ⟨hcs, halone, ?_⟩
    refine Eq.trans ?_ (happly.trans ?_)
    · rfl
    · decide +kernel

/-- An equation with a borrowed operator and blanks around it. -/
def Query.spacedEquation : Query :=
  .ofTokens [⟨some .name, "a"⟩, ⟨none, " "⟩, ⟨some .operator, "=="⟩,
    ⟨none, " "⟩, ⟨none, "1"⟩]

/-- A borrowed operator that stands alone is reported, but its correction
changes nothing. -/
theorem operator_without_effect :
    ⟨"==", "="⟩ ∈ Operator.corrections .spacedEquation ∧
      Text.StandsAlone "a ".toList " 1".toList ∧
      Query.spacedEquation.sql = "a == 1" ∧
      (Correction.mk "==" "=").apply "a == 1" = .ok "a == 1" := by
  refine ⟨?_, ⟨?_, ?_⟩, ?_, Answer.eq_ok_of_toOption ?_⟩
  · decide +kernel
  · decide +kernel
  · decide +kernel
  · decide +kernel
  · decide +kernel

end SqlDiagnosis
