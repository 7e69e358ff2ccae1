import Mathlib.Data.List.Chain
import SqlDiagnosis.Text.Template

/-!
# Templates that stand for themselves

A backslash in a template is kept only before a character that is neither an
ASCII letter nor an ASCII digit nor a backslash. A template in which every
backslash is kept is *inert*: it is parsed, and its text is the template.

The converse holds too, if the match has no backslashes. It cannot be read off
the lengths alone, since the whole match may be longer than its reference, nor
off the number of backslashes, since `\134` is one. So both are weighed at once,

    weight k cs = the length of cs + k times its number of backslashes,

with `k` greater than the length of the match. Whatever the parser takes in at
one step weighs no less than what it stands for, and weighs the same only if it
is a plain character or a backslash that is kept (`Reads.weight_le`).
-/

namespace SqlDiagnosis.Text

variable {template : List Char} {dangling : Bool} {start : Nat}
  {rest units : List TemplateUnit} {pieces : List Piece} {c : Char}

/-! ### Inert texts -/

/-- Whether a backslash before a character is kept. -/
def keepsBackslash (c : Char) : Bool :=
  !(isAsciiLetter c || (asciiDigit? c).isSome || c == '\\')

/-- No backslash is followed by a character before which it is not kept. -/
def KeepsBackslashes (cs : List Char) : Prop :=
  cs.IsChain fun c d => c = '\\' → keepsBackslash d = true

/-- Every backslash is followed by a character before which it is kept. -/
structure IsInert (cs : List Char) : Prop where
  keeps : KeepsBackslashes cs
  last : cs.getLast? ≠ some '\\'

instance (cs : List Char) : Decidable (KeepsBackslashes cs) :=
  inferInstanceAs (Decidable (List.IsChain _ cs))

instance (cs : List Char) : Decidable (IsInert cs) :=
  decidable_of_iff (KeepsBackslashes cs ∧ cs.getLast? ≠ some '\\')
    ⟨fun h => ⟨h.1, h.2⟩, fun h => ⟨h.keeps, h.last⟩⟩

theorem ne_backslash_of_keepsBackslash (hc : keepsBackslash c = true) :
    c ≠ '\\' := by
  rintro rfl
  exact absurd hc (by decide)

/-- A character that is no backslash may come first. -/
theorem keepsBackslashes_cons (hc : c ≠ '\\') (cs : List Char) :
    KeepsBackslashes (c :: cs) ↔ KeepsBackslashes cs := by
  unfold KeepsBackslashes
  rw [List.isChain_cons]
  exact and_iff_right fun d _ hbackslash => absurd hbackslash hc

/-- A text can be divided before a character that keeps backslashes. -/
theorem isInert_append_cons (hc : keepsBackslash c = true)
    (before after : List Char) :
    IsInert (before ++ c :: after) ↔
      KeepsBackslashes before ∧ IsInert after := by
  have hne := ne_backslash_of_keepsBackslash hc
  have hkeeps : KeepsBackslashes (before ++ c :: after) ↔
      KeepsBackslashes before ∧ KeepsBackslashes after := by
    rw [← keepsBackslashes_cons hne after]
    unfold KeepsBackslashes
    rw [List.isChain_append]
    refine and_congr_right fun _ => and_iff_left fun x _ y hy _ => ?_
    obtain rfl := Option.some.inj hy
    exact hc
  have hlast : (before ++ c :: after).getLast? = some '\\' ↔
      after.getLast? = some '\\' := by
    rcases h : after.getLast? with _ | d <;>
      simp [List.getLast?_append, List.getLast?_cons, h, hne]
  constructor
  · intro h
    obtain ⟨hbefore, hafter⟩ := hkeeps.mp h.keeps
    exact ⟨hbefore, hafter, fun hend => h.last (hlast.mpr hend)⟩
  · rintro ⟨hbefore, hafter⟩
    exact ⟨hkeeps.mpr ⟨hbefore, hafter.keeps⟩,
      fun hend => hafter.last (hlast.mp hend)⟩

theorem isInert_nil : IsInert [] := ⟨.nil, nofun⟩

theorem isInert_cons (hc : c ≠ '\\') {cs : List Char} :
    IsInert (c :: cs) ↔ IsInert cs := by
  have hlast : (c :: cs).getLast? = some '\\' ↔ cs.getLast? = some '\\' := by
    rcases h : cs.getLast? with _ | d <;> simp [List.getLast?_cons, h, hc]
  constructor
  · intro h
    exact ⟨(keepsBackslashes_cons hc cs).mp h.keeps,
      fun hend => h.last (hlast.mpr hend)⟩
  · intro h
    exact ⟨(keepsBackslashes_cons hc cs).mpr h.keeps,
      fun hend => h.last (hlast.mp hend)⟩

/-- A backslash takes the character after it along. -/
theorem isInert_backslash_cons {cs : List Char} :
    IsInert ('\\' :: c :: cs) ↔ keepsBackslash c = true ∧ IsInert cs := by
  have hkeeps : IsInert ('\\' :: c :: cs) → keepsBackslash c = true := fun h =>
    (List.isChain_cons_cons.mp h.keeps).1 rfl
  constructor
  · intro h
    exact ⟨hkeeps h, ((isInert_append_cons (hkeeps h) ['\\'] cs).mp h).2⟩
  · rintro ⟨hc, hcs⟩
    exact (isInert_append_cons hc ['\\'] cs).mpr ⟨.singleton _, hcs⟩

/-- A text without backslashes is inert. -/
theorem isInert_of_plain {cs : List Char} (h : '\\' ∉ cs) : IsInert cs := by
  induction cs with
  | nil => exact isInert_nil
  | cons c cs ih =>
    rw [List.mem_cons, not_or] at h
    exact (isInert_cons (Ne.symm h.1)).mpr (ih h.2)

/-! ### Units of inert texts -/

/-- Whether a unit is a plain character or a backslash that is kept. -/
def TemplateUnit.isKept : TemplateUnit → Bool
  | .plain _ => true
  | .escaped c => keepsBackslash c

/-- The units make up the template, but for a lone backslash at its end. -/
theorem chars_templateUnits (template : List Char) :
    template =
      (templateUnits template).1.flatMap TemplateUnit.chars ++
        if (templateUnits template).2 then ['\\'] else [] := by
  fun_induction templateUnits template with
  | case1 => rfl
  | case2 => rfl
  | case3 c rest units dangling h ih =>
    rw [h] at ih
    exact congrArg ('\\' :: c :: ·) ih
  | case4 c rest _ _ units dangling h ih =>
    rw [h] at ih
    exact congrArg (c :: ·) ih

/-- A template is inert if its units are kept and no backslash is left over. -/
theorem isInert_iff (template : List Char) :
    IsInert template ↔
      (templateUnits template).2 = false ∧
        ∀ u ∈ (templateUnits template).1, u.isKept = true := by
  fun_induction templateUnits template with
  | case1 => exact iff_of_true isInert_nil ⟨rfl, nofun⟩
  | case2 => exact iff_of_false (fun h => h.last rfl) nofun
  | case3 c rest units dangling h ih =>
    rw [h] at ih
    rw [isInert_backslash_cons, ih]
    simp [TemplateUnit.isKept, and_left_comm]
  | case4 c rest hsingle hpair units dangling h ih =>
    have hc : c ≠ '\\' := by
      intro hbackslash
      cases rest with
      | nil => exact hsingle hbackslash rfl
      | cons d rest => exact hpair d rest hbackslash rfl
    rw [h] at ih
    rw [isInert_cons hc, ih]
    simp [TemplateUnit.isKept]

theorem controlEscape?_eq_none (hc : keepsBackslash c = true) :
    controlEscape? c = none := by
  unfold controlEscape?
  split
  case h_9 => rfl
  all_goals exact absurd hc (by decide)

/-- A backslash that is kept stands for itself and the character after it. -/
theorem letterEscape_of_keepsBackslash (hc : keepsBackslash c = true) :
    letterEscape c = .ok [.char '\\', .char c] := by
  have hletter : isAsciiLetter c = false := by simp_all [keepsBackslash]
  rw [letterEscape, controlEscape?_eq_none hc, hletter]
  rfl

/-- Units that are kept are parsed, and stand for their characters. -/
theorem parseUnits_of_isKept (template : List Char) (start : Nat)
    (h : ∀ u ∈ units, u.isKept = true) :
    parseUnits template false start units =
      .ok ((units.flatMap TemplateUnit.chars).map .char) := by
  induction units generalizing start with
  | nil => rw [parseUnits]; rfl
  | cons u units ih =>
    replace ih :=
      fun start => ih start fun v hv => h v (List.mem_cons_of_mem u hv)
    have hu := h u List.mem_cons_self
    cases u with
    | plain c =>
      rw [parseUnits]
      simp only [Bool.false_and, Bool.false_eq_true, if_false, ih]
      rfl
    | escaped c =>
      replace hu : keepsBackslash c = true := hu
      -- neither a digit nor a reference to a group, so the last equation of the
      -- parser
      have hdigit : (asciiDigit? c).isSome = false := by
        simp_all [keepsBackslash]
      rw [parseUnits]
      · simp only [Bool.false_and, Bool.false_eq_true, if_false, hdigit,
          letterEscape_of_keepsBackslash hu, ih]
        rfl
      · rintro rfl
        exact absurd hu (by decide)
      · rintro rfl
        exact absurd hu (by decide)

/-- An inert template is parsed into its own characters. -/
theorem parseTemplate_of_isInert (h : IsInert template) :
    parseTemplate template = .ok (template.map .char) := by
  obtain ⟨hdangling, hkept⟩ := (isInert_iff template).mp h
  have hchars := chars_templateUnits template
  rw [hdangling, if_neg Bool.false_ne_true, List.append_nil] at hchars
  show parseUnits template (templateUnits template).2 0
    (templateUnits template).1 = _
  rw [hdangling, parseUnits_of_isKept template 0 hkept, ← hchars]

/-! ### What the parser reads -/

/-- What some units stand for when they are read at one step. -/
inductive Reads : List TemplateUnit → List Piece → Prop where
  | plain (c : Char) : Reads [.plain c] [.char c]
  | kept {c : Char} (hc : keepsBackslash c = true) :
      Reads [.escaped c] [.char '\\', .char c]
  | code {c : Char} (hc : keepsBackslash c = false) (more : List TemplateUnit)
      (x : Char) :
      Reads (.escaped c :: more) [.char x]
  | group (more : List TemplateUnit) : Reads (.escaped 'g' :: more) [.whole]

/-- The units are read step by step to their end. -/
inductive ReadsAll : List TemplateUnit → List Piece → Prop where
  | nil : ReadsAll [] []
  | step {used after : List TemplateUnit} {first others : List Piece}
      (hfirst : Reads used first)
      (hothers : ReadsAll after others) :
      ReadsAll (used ++ after) (first ++ others)

/-- The parser makes a step and goes on with the units after it. -/
inductive Proceeds (template : List Char) (dangling : Bool) :
    List TemplateUnit → List Piece → Prop where
  | step {used after : List TemplateUnit} {first others : List Piece}
      (start : Nat) (hfirst : Reads used first)
      (hothers : parseUnits template dangling start after = .ok others) :
      Proceeds template dangling (used ++ after) (first ++ others)

theorem of_ite_error {ε α : Type} {b : Prop} [Decidable b] {e : ε}
    {k : Except ε α} {x : α} (h : (if b then .error e else k) = .ok x) :
    k = .ok x := by
  split at h
  · cases h
  · exact h

theorem exists_of_bind_return {ε α β : Type} {x : Except ε α} {f : α → β}
    {b : β} (h : (do return f (← x)) = (.ok b : Except ε β)) :
    ∃ a, x = .ok a ∧ b = f a := by
  rcases x with e | a
  · cases h
  · exact ⟨a, rfl, (Except.ok.inj h).symm⟩

/-- The name of a group is taken off the front of the units. -/
theorem exists_append_of_takeName {after : List TemplateUnit} {name : List Char}
    (h : takeName units = (name, some after)) :
    ∃ more, units = more ++ after := by
  fun_induction takeName units generalizing name with
  | case1 => simp at h
  | case2 rest =>
    cases h
    exact ⟨[.plain '>'], rfl⟩
  | case3 u rest _ name' after' hrest ih =>
    obtain ⟨-, rfl⟩ := Prod.mk.inj h
    obtain ⟨more, hmore⟩ := ih hrest
    exact ⟨u :: more, congrArg (u :: ·) hmore⟩

/-- The only group that can be named is the whole match. -/
theorem namedGroup_ok_inv {name : List Char}
    (h : namedGroup name = .ok pieces) : pieces = [.whole] := by
  unfold namedGroup at h
  split at h
  · cases h
  · split at h
    · exact (Except.ok.inj h).symm
    · cases h
    · cases h

/-- A digit that is no reference to a group is the code of a character. -/
theorem digitEscape_ok_inv {n : Nat}
    (h : digitEscape c rest = (.ok pieces, n)) : ∃ x, pieces = [.char x] := by
  unfold digitEscape at h
  dsimp only at h
  split at h
  · cases h
  · split at h
    · split at h
      · cases h
        exact ⟨_, rfl⟩
      · cases h
    · cases h

/-- A letter that can be escaped at all is read in one step. -/
theorem letterEscape_ok_inv (hdigit : (asciiDigit? c).isSome = false)
    (h : letterEscape c = .ok pieces) :
    Reads [.escaped c] pieces := by
  by_cases hc : keepsBackslash c = true
  · rw [letterEscape_of_keepsBackslash hc] at h
    cases h
    exact .kept hc
  · unfold letterEscape at h
    split at h
    · cases h
      exact .code (Bool.eq_false_iff.mpr hc) [] _
    · next hcontrol =>
      split at h
      · cases h
      · next hletter =>
        -- what is left is a backslash, and its escape is a control escape
        refine absurd ?_ hc
        have hne : c ≠ '\\' := by
          rintro rfl
          cases hcontrol
        simp [keepsBackslash, hdigit, hletter, hne]

theorem proceeds_of_plain
    (h : parseUnits template dangling start (.plain c :: rest) = .ok pieces) :
    Proceeds template dangling (.plain c :: rest) pieces := by
  rw [parseUnits] at h
  obtain ⟨others, hothers, rfl⟩ := exists_of_bind_return (of_ite_error h)
  exact .step _ (.plain c) hothers

theorem proceeds_of_group
    (h : parseUnits template dangling start (.escaped 'g' :: rest) =
      .ok pieces) :
    Proceeds template dangling (.escaped 'g' :: rest) pieces := by
  -- only an opening bracket makes a reference to a group
  by_cases hopen : ∃ units, rest = .plain '<' :: units
  · obtain ⟨units, rfl⟩ := hopen
    rw [parseUnits] at h
    replace h := of_ite_error (of_ite_error h)
    split at h
    · replace h := of_ite_error h
      split at h <;> cases h
    · next name after hname =>
      replace h := of_ite_error (of_ite_error h)
      split at h
      · cases h
      · next group hgroup =>
        obtain ⟨others, hothers, rfl⟩ := exists_of_bind_return h
        obtain rfl := namedGroup_ok_inv hgroup
        obtain ⟨more, rfl⟩ := exists_append_of_takeName hname
        exact .step _ (.group (.plain '<' :: more)) hothers
  · rw [parseUnits.eq_4] at h
    · cases of_ite_error h
    · intro units hunits
      exact hopen ⟨units, hunits⟩

theorem proceeds_of_zero
    (h : parseUnits template dangling start (.escaped '0' :: rest) =
      .ok pieces) :
    Proceeds template dangling (.escaped '0' :: rest) pieces := by
  rw [parseUnits] at h
  obtain ⟨others, hothers, rfl⟩ :=
    exists_of_bind_return (of_ite_error (of_ite_error h))
  rw [← List.take_append_drop (zeroEscape rest).2 rest, ← List.cons_append]
  exact .step _ (.code (by decide) _ _) hothers

theorem proceeds_of_escaped (hg : c ≠ 'g') (hzero : c ≠ '0')
    (h : parseUnits template dangling start (.escaped c :: rest) = .ok pieces) :
    Proceeds template dangling (.escaped c :: rest) pieces := by
  rw [parseUnits] at h
  case x_1 => exact hg
  case x_2 => exact hzero
  replace h := of_ite_error h
  split at h
  · next hdigit =>
    split at h
    · cases of_ite_error h
    · next n hescape =>
      obtain ⟨others, hothers, rfl⟩ := exists_of_bind_return (of_ite_error h)
      obtain ⟨x, rfl⟩ := digitEscape_ok_inv hescape
      rw [← List.take_append_drop n rest, ← List.cons_append]
      exact .step _ (.code (by simp [keepsBackslash, hdigit]) _ _) hothers
  · next hdigit =>
    split at h
    · cases h
    · next hescape =>
      obtain ⟨others, hothers, rfl⟩ := exists_of_bind_return h
      have hreads := letterEscape_ok_inv (Bool.eq_false_iff.mpr hdigit) hescape
      exact .step _ hreads hothers

/-- What a parser that succeeds does with the next units. -/
theorem proceeds_of_parseUnits {u : TemplateUnit}
    (h : parseUnits template dangling start (u :: rest) = .ok pieces) :
    Proceeds template dangling (u :: rest) pieces := by
  cases u with
  | plain c => exact proceeds_of_plain h
  | escaped c =>
    by_cases hg : c = 'g'
    · subst hg
      exact proceeds_of_group h
    · by_cases hzero : c = '0'
      · subst hzero
        exact proceeds_of_zero h
      · exact proceeds_of_escaped hg hzero h

theorem Reads.length_pos (h : Reads units pieces) : 0 < units.length := by
  cases h <;> simp

/-- A parser that succeeds has read everything. -/
theorem readsAll_of_parseUnits
    (h : parseUnits template dangling start units = .ok pieces) :
    dangling = false ∧ ReadsAll units pieces := by
  -- a step may read many units, so the induction is on their number
  induction hn : units.length using Nat.strong_induction_on generalizing start
    units pieces with
  | _ n ih =>
    subst hn
    cases units with
    | nil =>
      rw [parseUnits] at h
      split at h
      · cases h
      · next hdangling =>
        cases h
        exact ⟨Bool.eq_false_iff.mpr hdangling, .nil⟩
    | cons u rest =>
      have hstep := proceeds_of_parseUnits h
      -- a step can be taken apart only if the units are a variable
      generalize hunits : u :: rest = read at hstep ih ⊢
      cases hstep with
      | step start' hfirst hothers =>
        have hshorter := hfirst.length_pos
        obtain ⟨hdangling, hall⟩ :=
          ih _ (by rw [List.length_append]; omega) hothers rfl
        exact ⟨hdangling, .step hfirst hall⟩

/-! ### Weights -/

/-- The length of a text, with each backslash weighing `k` more. -/
def weight (k : Nat) (cs : List Char) : Nat := cs.length + k * cs.count '\\'

theorem weight_append (k : Nat) (cs ds : List Char) :
    weight k (cs ++ ds) = weight k cs + weight k ds := by
  simp only [weight, List.length_append, List.count_append, Nat.mul_add]
  omega

theorem expand_append (found : List Char) (first others : List Piece) :
    expand found (first ++ others) =
      expand found first ++ expand found others := List.flatMap_append

theorem expand_map_char (found cs : List Char) :
    expand found (cs.map .char) = cs := by
  rw [expand, List.flatMap_map]
  exact List.flatMap_singleton' cs

variable {found : List Char} {k : Nat}

theorem weight_singleton_le (k : Nat) (c : Char) : weight k [c] ≤ 1 + k := by
  have hcount : [c].count '\\' ≤ 1 := List.count_le_length
  have hmul := Nat.mul_le_mul_left k hcount
  simp only [weight, List.length_singleton]
  omega

/-- An escape weighs more than any single character. -/
theorem lt_weight_escaped (k : Nat) (c : Char) (more : List TemplateUnit) :
    1 + k <
      weight k ((TemplateUnit.escaped c :: more).flatMap TemplateUnit.chars) := by
  rw [List.flatMap_cons, weight_append]
  have hcount : 1 ≤ (TemplateUnit.escaped c).chars.count '\\' :=
    List.count_pos_iff.mpr List.mem_cons_self
  have hmul := Nat.mul_le_mul_left k hcount
  have hlength : (TemplateUnit.escaped c).chars.length = 2 := rfl
  simp only [weight, hlength]
  omega

/-- What is read at a step weighs no less than what it stands for, and weighs
the same only if it is kept. -/
theorem Reads.weight_le (h : Reads units pieces) (hfound : '\\' ∉ found)
    (hk : found.length < k) :
    weight k (expand found pieces) ≤
        weight k (units.flatMap TemplateUnit.chars) ∧
      (weight k (expand found pieces) =
          weight k (units.flatMap TemplateUnit.chars) →
        ∀ u ∈ units, u.isKept = true) := by
  cases h with
  | plain c => exact ⟨le_rfl, fun _ => by simp [TemplateUnit.isKept]⟩
  | kept hc => exact ⟨le_rfl, fun _ => by simp [TemplateUnit.isKept, hc]⟩
  | @code c _ more x =>
    -- an escape has a backslash of its own, which outweighs what it stands for
    have hless :=
      Nat.lt_of_le_of_lt (weight_singleton_le k x) (lt_weight_escaped k c more)
    exact ⟨hless.le, fun heq => absurd heq hless.ne⟩
  | group more =>
    have hwhole : weight k (expand found [.whole]) = found.length := by
      simp [expand, weight, List.count_eq_zero_of_not_mem hfound]
    have hless := lt_weight_escaped k 'g' more
    rw [hwhole]
    exact ⟨by omega, fun heq => by omega⟩

/-- The weights of the steps add up, and so all steps are kept if the sum is the
same. -/
theorem ReadsAll.weight_le (h : ReadsAll units pieces) (hfound : '\\' ∉ found)
    (hk : found.length < k) :
    weight k (expand found pieces) ≤
        weight k (units.flatMap TemplateUnit.chars) ∧
      (weight k (expand found pieces) =
          weight k (units.flatMap TemplateUnit.chars) →
        ∀ u ∈ units, u.isKept = true) := by
  induction h with
  | nil => exact ⟨le_rfl, fun _ => nofun⟩
  | step hfirst _ ih =>
    obtain ⟨hle, hkept⟩ := hfirst.weight_le hfound hk
    obtain ⟨hle', hkept'⟩ := ih
    rw [expand_append, List.flatMap_append, weight_append, weight_append]
    refine ⟨Nat.add_le_add hle hle', fun heq u hu => ?_⟩
    rcases List.mem_append.mp hu with hu | hu
    · exact hkept (by omega) u hu
    · exact hkept' (by omega) u hu

/-- **A template stands for itself exactly when it is inert,** if the match has
no backslashes. -/
theorem parseTemplate_map_expand_iff (hfound : '\\' ∉ found) :
    (parseTemplate template).map (expand found) = .ok template ↔
      IsInert template := by
  constructor
  · intro h
    rcases hparse : parseTemplate template with e | pieces
    · rw [hparse] at h
      cases h
    · rw [hparse] at h
      have hexpand : expand found pieces = template := Except.ok.inj h
      obtain ⟨hdangling, hall⟩ := readsAll_of_parseUnits hparse
      have hchars := chars_templateUnits template
      rw [hdangling, if_neg Bool.false_ne_true, List.append_nil] at hchars
      refine (isInert_iff template).mpr ⟨hdangling, ?_⟩
      exact (hall.weight_le hfound (Nat.lt_succ_self _)).2
        (by rw [hexpand, ← hchars])
  · intro h
    rw [parseTemplate_of_isInert h]
    exact congrArg Except.ok (expand_map_char found template)

end SqlDiagnosis.Text
