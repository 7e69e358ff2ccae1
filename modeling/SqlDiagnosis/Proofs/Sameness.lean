import Mathlib.Algebra.Field.Rat
import Mathlib.Algebra.Order.Field.Basic
import Mathlib.Data.Int.Cast.Lemmas
import Mathlib.Data.List.Forall2
import SqlDiagnosis.Finding

/-!
# Sameness and sets of entries

A set of entries keeps one of those that are the same. This makes sense only if
sameness is an equivalence, and if entries that are the same can be put into a
set alike.

Neither is plain from the definitions. The fields of a record are sought in the
other record and not the other way round, with an eye on the lengths only, and
so are the members of a set. Symmetry is thus a matter of counting: what is
found leaves nothing over, provided that no key and no member comes twice
(`IsProper`). Truth values and numbers are compared by what they amount to
(`Value.amount?`).

The inductions are on what it means to be proper, which follows the nesting of
values and data.
-/

namespace SqlDiagnosis

/-! ### Lists of which the members are related -/

section Related

variable {α β : Type} {R : α → α → Prop} {xs ys zs : List α}

/-- A relation that is symmetric at the members is symmetric at the lists. -/
theorem forall₂_symm_of_mem (hsymm : ∀ x ∈ xs, ∀ y, R x y → R y x)
    (h : List.Forall₂ R xs ys) :
    List.Forall₂ R ys xs :=
  ((List.forall₂_and_left xs ys).mpr ⟨hsymm, h⟩ |>.imp fun _ y hxy =>
    hxy.1 y hxy.2).flip

/-- Likewise for transitivity. -/
theorem forall₂_trans_of_mem (htrans : ∀ x ∈ xs, ∀ y z, R x y → R y z → R x z)
    (h : List.Forall₂ R xs ys) (h' : List.Forall₂ R ys zs) :
    List.Forall₂ R xs zs := by
  induction h generalizing zs with
  | nil => exact h'
  | cons hxy _ ih =>
    cases h' with
    | cons hyz hrest =>
      exact .cons (htrans _ List.mem_cons_self _ _ hxy hyz)
        (ih (fun x hx => htrans x (List.mem_cons_of_mem _ hx)) hrest)

/-- If no two of `xs` have a partner in common and there are not more `ys` than
`xs`, then all `ys` are partners. -/
theorem exists_partner {S : α → β → Prop} {ys : List β}
    (hsole : xs.Pairwise fun x x' => ∀ y, S x y → ¬ S x' y)
    (hlen : ys.length ≤ xs.length)
    (h : ∀ x ∈ xs, ∃ y ∈ ys, S x y) : ∀ y ∈ ys, ∃ x ∈ xs, S x y := by
  -- on the list that has partners; each step takes away one member and its
  -- partner
  induction xs generalizing ys with
  | nil =>
    intro y hy
    rw [List.length_eq_zero_iff.mp (Nat.le_zero.mp hlen)] at hy
    exact absurd hy List.not_mem_nil
  | cons x xs ih =>
    obtain ⟨hx, hsole⟩ := List.pairwise_cons.mp hsole
    obtain ⟨y₀, hy₀, hxy₀⟩ := h x List.mem_cons_self
    obtain ⟨before, after, rfl⟩ := List.append_of_mem hy₀
    -- the partner of `x` is no longer needed
    have hrest : ∀ x' ∈ xs, ∃ y ∈ before ++ after, S x' y := by
      intro x' hx'
      obtain ⟨y, hy, hxy⟩ := h x' (List.mem_cons_of_mem _ hx')
      have hne : y ≠ y₀ := by
        rintro rfl
        exact hx x' hx' y hxy₀ hxy
      exact ⟨y, by simpa [hne] using hy, hxy⟩
    intro y hy
    by_cases hyy₀ : y = y₀
    · exact ⟨x, List.mem_cons_self, hyy₀ ▸ hxy₀⟩
    · obtain ⟨x', hx', hxy⟩ :=
        ih hsole (by simp at hlen ⊢; omega) hrest y (by simpa [hyy₀] using hy)
      exact ⟨x', List.mem_cons_of_mem _ hx', hxy⟩

end Related

/-! ### Numbers -/

/-- Scaled numbers are compared as rational numbers. -/
theorem Number.sameScaled_iff (a p b q : Int) :
    sameScaled a p b q = true ↔ (a : ℚ) * 2 ^ p = b * 2 ^ q := by
  -- both sides are scaled down by the smaller power, which leaves whole numbers
  have hp : (2 : ℚ) ^ p = 2 ^ (p - q).toNat * 2 ^ (min p q) := by
    rw [← zpow_natCast, ← zpow_add₀ two_ne_zero]
    congr 1
    omega
  have hq : (2 : ℚ) ^ q = 2 ^ (q - p).toNat * 2 ^ (min p q) := by
    rw [← zpow_natCast, ← zpow_add₀ two_ne_zero]
    congr 1
    omega
  have hpower : ∀ e, ((power 2 e : Nat) : ℚ) = 2 ^ e.toNat :=
    fun e => Nat.cast_pow 2 e.toNat
  rw [sameScaled, beq_iff_eq, ← @Int.cast_inj ℚ, Int.cast_mul, Int.cast_mul,
    Int.cast_natCast, Int.cast_natCast, hpower, hpower, hp, hq, ← mul_assoc,
    ← mul_assoc, mul_left_inj' (zpow_ne_zero _ two_ne_zero)]

/-! ### Values -/

namespace Value

variable {u v w : Value} {xs : List Value} {fs gs : List (String × Value)}
  {n : ℚ ⊕ Number.Real}

/-- What a truth value or a number amounts to: a rational number, or itself if
it is not finite. -/
def amount? (v : Value) : Option (ℚ ⊕ Number.Real) :=
  match v.scaled?, v with
  | some (a, p), _ => some (.inl (a * 2 ^ p))
  | none, real x => some (.inr x)
  | none, _ => none

@[simp]
theorem amount?_null : null.amount? = none := rfl

@[simp]
theorem amount?_text (s : String) : (text s).amount? = none := rfl

@[simp]
theorem amount?_list (xs : List Value) : (list xs).amount? = none := rfl

@[simp]
theorem amount?_record (fs : List (String × Value)) :
    (record fs).amount? = none := rfl

/-- Numbers are the same when they amount to the same. -/
theorem sameNumber_iff :
    v.sameNumber w = true ↔ v.amount? ≠ none ∧ v.amount? = w.amount? := by
  rcases hv : v.scaled? with _ | ⟨a, p⟩ <;>
    rcases hw : w.scaled? with _ | ⟨b, q⟩
  · cases v <;> cases w <;> simp [sameNumber, amount?, hv, hw]
  · cases v <;> simp [sameNumber, amount?, hv, hw]
  · cases w <;> simp [sameNumber, amount?, hv, hw]
  · simp [sameNumber, amount?, hv, hw, Number.sameScaled_iff]

/-- A truth value or a number is the same as the values of its amount. -/
theorem same_iff_of_amount? (hv : v.amount? = some n) :
    v.same w = true ↔ w.amount? = some n := by
  have hnumber : v.same w = v.sameNumber w := by
    cases v with
    | null | text | list | record => simp at hv
    | bool | int | real => cases w <;> rfl
  rw [hnumber, sameNumber_iff, hv]
  exact ⟨fun h => h.2.symm, fun h => ⟨Option.some_ne_none n, h.symm⟩⟩

@[simp]
theorem same_null_iff : null.same w = true ↔ w = null := by
  cases w <;> simp [same, sameNumber_iff]

@[simp]
theorem same_text_iff {s : String} : (text s).same w = true ↔ w = text s := by
  cases w <;> simp [same, sameNumber_iff, eq_comm (a := s)]

/-- Lists are the same when their members are, one by one. -/
theorem sameItems_iff {ys : List Value} :
    sameItems xs ys = true ↔
      List.Forall₂ (fun x y => x.same y = true) xs ys := by
  induction xs generalizing ys with
  | nil => cases ys <;> simp [sameItems]
  | cons x xs ih => cases ys <;> simp [sameItems, ih]

/-- Every field of the first record is found in the second. -/
theorem sameFields_iff :
    sameFields fs gs = true ↔
      ∀ f ∈ fs, ∃ w, gs.lookup f.1 = some w ∧ f.2.same w = true := by
  induction fs with
  | nil => simp [sameFields]
  | cons f fs ih =>
    rcases hkey : gs.lookup f.1 with _ | w <;> simp [sameFields, hkey, ih]

@[simp]
theorem same_list_iff :
    (list xs).same w = true ↔
      ∃ ys, w = list ys ∧
        List.Forall₂ (fun x y => x.same y = true) xs ys := by
  cases w <;> simp [same, sameNumber_iff, sameItems_iff]

@[simp]
theorem same_record_iff :
    (record fs).same w = true ↔
      ∃ gs, w = record gs ∧ fs.length = gs.length ∧
        ∀ f ∈ fs, ∃ w, gs.lookup f.1 = some w ∧ f.2.same w = true := by
  cases w <;> simp [same, sameNumber_iff, sameFields_iff]

/-- No record in a value has a key twice. -/
inductive IsProper : Value → Prop where
  | null : IsProper null
  | bool (b : Bool) : IsProper (bool b)
  | int (n : Int) : IsProper (int n)
  | real (x : Number.Real) : IsProper (real x)
  | text (s : String) : IsProper (text s)
  | list {items : List Value} (items_proper : ∀ v ∈ items, IsProper v) :
      IsProper (list items)
  | record {fields : List (String × Value)}
      (keys_differ : fields.Pairwise fun f g => f.1 ≠ g.1)
      (fields_proper : ∀ f ∈ fields, IsProper f.2) : IsProper (record fields)

/-- Where no key comes twice, every field can be looked up. -/
theorem lookup_of_mem (hkeys : fs.Pairwise fun f g => f.1 ≠ g.1)
    {f : String × Value} (hf : f ∈ fs) :
    fs.lookup f.1 = some f.2 := by
  induction fs with
  | nil => exact absurd hf List.not_mem_nil
  | cons g fs ih =>
    obtain ⟨hg, hkeys⟩ := List.pairwise_cons.mp hkeys
    rcases List.mem_cons.mp hf with rfl | hf
    · exact List.lookup_cons_self
    · have hne : (f.1 == g.1) = false := beq_false_of_ne (hg f hf).symm
      rw [List.lookup_cons, hne]
      exact ih hkeys hf

theorem mem_of_lookup {key : String} (h : gs.lookup key = some w) :
    (key, w) ∈ gs := by
  induction gs with
  | nil => simp at h
  | cons g gs ih =>
    rw [List.lookup_cons] at h
    split at h
    · next heq =>
      cases h
      rw [beq_iff_eq.mp heq]
      exact List.mem_cons_self
    · exact List.mem_cons_of_mem _ (ih h)

namespace IsProper

/-- A proper value is the same as itself. -/
theorem same_self (hv : v.IsProper) : v.same v = true := by
  induction hv with
  | null => exact same_null_iff.mpr rfl
  | bool | int => exact (same_iff_of_amount? rfl).mpr rfl
  | real x => cases x <;> exact (same_iff_of_amount? rfl).mpr rfl
  | text => exact same_text_iff.mpr rfl
  | list _ ih => exact same_list_iff.mpr ⟨_, rfl, List.forall₂_same.mpr ih⟩
  | record hkeys _ ih =>
    exact same_record_iff.mpr ⟨_, rfl, rfl,
      fun f hf => ⟨f.2, lookup_of_mem hkeys hf, ih f hf⟩⟩

/-- Sameness is symmetric at a proper value. -/
theorem same_symm (hv : v.IsProper) (h : v.same w = true) :
    w.same v = true := by
  induction hv generalizing w with
  | null =>
    obtain rfl := same_null_iff.mp h
    exact h
  | bool | int =>
    exact (same_iff_of_amount? ((same_iff_of_amount? rfl).mp h)).mpr rfl
  | real x =>
    cases x <;>
      exact (same_iff_of_amount? ((same_iff_of_amount? rfl).mp h)).mpr rfl
  | text =>
    obtain rfl := same_text_iff.mp h
    exact h
  | list _ ih =>
    obtain ⟨ys, rfl, hitems⟩ := same_list_iff.mp h
    exact same_list_iff.mpr
      ⟨_, rfl, forall₂_symm_of_mem (fun x hx y => ih x hx) hitems⟩
  | @record fs hkeys _ ih =>
    obtain ⟨gs, rfl, hlen, hfields⟩ := same_record_iff.mp h
    refine same_record_iff.mpr ⟨_, rfl, hlen.symm, ?_⟩
    -- fields are partners if they have the same key and the same value
    have hsole := hkeys.imp (S := fun f f' => ∀ g : String × Value,
      f.1 = g.1 ∧ f.2.same g.2 = true → ¬ (f'.1 = g.1 ∧ f'.2.same g.2 = true))
      fun hne g hfg hfg' => hne (hfg.1.trans hfg'.1.symm)
    have hpartner : ∀ f ∈ fs, ∃ g ∈ gs,
        f.1 = g.1 ∧ f.2.same g.2 = true := by
      intro f hf
      obtain ⟨w, hw, hfw⟩ := hfields f hf
      exact ⟨(f.1, w), mem_of_lookup hw, rfl, hfw⟩
    intro g hg
    obtain ⟨f, hf, hkey, hfg⟩ := exists_partner hsole hlen.ge hpartner g hg
    exact ⟨f.2, hkey ▸ lookup_of_mem hkeys hf, ih f hf hfg⟩

/-- Sameness is transitive from a proper value on. -/
theorem same_trans (hu : u.IsProper) (h : u.same v = true)
    (h' : v.same w = true) : u.same w = true := by
  induction hu generalizing v w with
  | null =>
    obtain rfl := same_null_iff.mp h
    exact h'
  | bool | int =>
    exact (same_iff_of_amount? rfl).mpr
      ((same_iff_of_amount? ((same_iff_of_amount? rfl).mp h)).mp h')
  | real x =>
    cases x <;> exact (same_iff_of_amount? rfl).mpr
      ((same_iff_of_amount? ((same_iff_of_amount? rfl).mp h)).mp h')
  | text =>
    obtain rfl := same_text_iff.mp h
    exact h'
  | list _ ih =>
    obtain ⟨ys, rfl, hitems⟩ := same_list_iff.mp h
    obtain ⟨zs, rfl, hitems'⟩ := same_list_iff.mp h'
    exact same_list_iff.mpr ⟨_, rfl,
      forall₂_trans_of_mem (fun x hx y z => ih x hx) hitems hitems'⟩
  | record _ _ ih =>
    obtain ⟨gs, rfl, hlen, hfields⟩ := same_record_iff.mp h
    obtain ⟨hs, rfl, hlen', hfields'⟩ := same_record_iff.mp h'
    refine same_record_iff.mpr ⟨_, rfl, hlen.trans hlen', ?_⟩
    intro f hf
    obtain ⟨x, hx, hfx⟩ := hfields f hf
    obtain ⟨y, hy, hxy⟩ := hfields' (f.1, x) (mem_of_lookup hx)
    exact ⟨y, hy, ih f hf hfx hxy⟩

end IsProper

theorem hashable_of_amount? (hv : v.amount? = some n) :
    v.hashable = .ok () := by
  cases v with
  | null | bool | int | real | text => rfl
  | list | record => simp at hv

/-- Values that are the same have the same shape, or are both numbers. -/
theorem hashable_eq_of_same (h : v.same w = true) :
    v.hashable = w.hashable := by
  cases v with
  | null =>
    obtain rfl := same_null_iff.mp h
    rfl
  | bool | int =>
    exact (hashable_of_amount? ((same_iff_of_amount? rfl).mp h)).symm
  | real x =>
    cases x <;>
      exact (hashable_of_amount? ((same_iff_of_amount? rfl).mp h)).symm
  | text =>
    obtain rfl := same_text_iff.mp h
    rfl
  | list =>
    obtain ⟨_, rfl, _⟩ := same_list_iff.mp h
    rfl
  | record =>
    obtain ⟨_, rfl, _⟩ := same_record_iff.mp h
    rfl

end Value

/-! ### Constraints -/

/-- What is assumed of the rules for constraints: sameness is an equivalence,
and constraints that are the same can be put into a set alike. -/
structure ConstraintRules.IsSound (rules : ConstraintRules) : Prop where
  same_equivalence : Equivalence fun c d => rules.same c d = true
  hashable_eq_of_same : ∀ {c d}, rules.same c d = true →
      rules.hashable c = rules.hashable d

/-- The rules that go by the columns are among these. -/
theorem ConstraintRules.isSound_byColumns : byColumns.IsSound where
  same_equivalence := by
    have hsame : ∀ c d, byColumns.same c d = true ↔
        ∀ column, column ∈ c.columns ↔ column ∈ d.columns := by
      intro c d
      simp [byColumns, Constraint.isOn, Constraint.within, iff_def, forall_and]
    refine ⟨?_, ?_, ?_⟩
    · intro c
      exact (hsame c c).mpr fun _ => Iff.rfl
    · intro c d h
      exact (hsame d c).mpr fun column => ((hsame c d).mp h column).symm
    · intro b c d h h'
      exact (hsame b d).mpr fun column =>
        ((hsame b c).mp h column).trans ((hsame c d).mp h' column)
  hashable_eq_of_same := fun _ => rfl

/-! ### Data -/

namespace Datum

variable {rules : ConstraintRules} {c d e : Datum} {xs ys : List Datum}

theorem sameItems_iff :
    sameItems rules xs ys = true ↔
      List.Forall₂ (fun x y => x.same rules y = true) xs ys := by
  induction xs generalizing ys with
  | nil => cases ys <;> simp [sameItems]
  | cons x xs ih => cases ys <;> simp [sameItems, ih]

/-- Every member of the first set is found in the second. -/
theorem withinSet_iff :
    withinSet rules xs ys = true ↔
      ∀ x ∈ xs, ∃ y ∈ ys, x.same rules y = true := by
  induction xs with
  | nil => simp [withinSet]
  | cons x xs ih => simp [withinSet, ih]

@[simp]
theorem same_value_iff {v : Value} :
    (value v).same rules e = true ↔
      ∃ w, e = value w ∧ v.same w = true := by
  cases e <;> simp [same]

@[simp]
theorem same_tuple_iff :
    (tuple xs).same rules e = true ↔
      ∃ ys, e = tuple ys ∧
        List.Forall₂ (fun x y => x.same rules y = true) xs ys := by
  cases e <;> simp [same, sameItems_iff]

@[simp]
theorem same_set_iff :
    (set xs).same rules e = true ↔
      ∃ ys, e = set ys ∧ xs.length = ys.length ∧
        ∀ x ∈ xs, ∃ y ∈ ys, x.same rules y = true := by
  cases e <;> simp [same, withinSet_iff]

@[simp]
theorem same_constraint_iff {c : Constraint} :
    (constraint c).same rules e = true ↔
      ∃ c', e = constraint c' ∧ rules.same c c' = true := by
  cases e <;> simp [same]

/-- No record in a piece of data has a key twice, and no set a member. -/
inductive IsProper (rules : ConstraintRules) : Datum → Prop where
  | value {v : Value} (value_proper : v.IsProper) : IsProper rules (value v)
  | tuple {items : List Datum} (items_proper : ∀ d ∈ items, IsProper rules d) :
      IsProper rules (tuple items)
  | set {items : List Datum}
      (members_differ : items.Pairwise fun d e => d.same rules e = false)
      (members_proper : ∀ d ∈ items, IsProper rules d) :
      IsProper rules (set items)
  | constraint (c : Constraint) : IsProper rules (constraint c)

namespace IsProper

/-- Proper data are the same as themselves. -/
theorem same_self (hrules : rules.IsSound) (hd : d.IsProper rules) :
    d.same rules d = true := by
  induction hd with
  | value hv => exact same_value_iff.mpr ⟨_, rfl, hv.same_self⟩
  | tuple _ ih => exact same_tuple_iff.mpr ⟨_, rfl, List.forall₂_same.mpr ih⟩
  | set _ _ ih =>
    exact same_set_iff.mpr ⟨_, rfl, rfl, fun x hx => ⟨x, hx, ih x hx⟩⟩
  | constraint c =>
    exact same_constraint_iff.mpr ⟨_, rfl, hrules.same_equivalence.refl c⟩

/-- Sameness is transitive from proper data on. -/
theorem same_trans (hrules : rules.IsSound) (hc : c.IsProper rules)
    (h : c.same rules d = true) (h' : d.same rules e = true) :
    c.same rules e = true := by
  induction hc generalizing d e with
  | value hv =>
    obtain ⟨_, rfl, hvalue⟩ := same_value_iff.mp h
    obtain ⟨_, rfl, hvalue'⟩ := same_value_iff.mp h'
    exact same_value_iff.mpr ⟨_, rfl, hv.same_trans hvalue hvalue'⟩
  | tuple _ ih =>
    obtain ⟨_, rfl, hitems⟩ := same_tuple_iff.mp h
    obtain ⟨_, rfl, hitems'⟩ := same_tuple_iff.mp h'
    exact same_tuple_iff.mpr ⟨_, rfl,
      forall₂_trans_of_mem (fun x hx y z => ih x hx) hitems hitems'⟩
  | set _ _ ih =>
    obtain ⟨_, rfl, hlen, hmembers⟩ := same_set_iff.mp h
    obtain ⟨_, rfl, hlen', hmembers'⟩ := same_set_iff.mp h'
    refine same_set_iff.mpr ⟨_, rfl, hlen.trans hlen', ?_⟩
    intro x hx
    obtain ⟨y, hy, hxy⟩ := hmembers x hx
    obtain ⟨z, hz, hyz⟩ := hmembers' y hy
    exact ⟨z, hz, ih x hx hxy hyz⟩
  | constraint =>
    obtain ⟨_, rfl, hsame⟩ := same_constraint_iff.mp h
    obtain ⟨_, rfl, hsame'⟩ := same_constraint_iff.mp h'
    exact same_constraint_iff.mpr
      ⟨_, rfl, hrules.same_equivalence.trans hsame hsame'⟩

/-- Sameness is symmetric at proper data, of which no two members of a set are
the same. -/
theorem same_symm (hrules : rules.IsSound) (hd : d.IsProper rules)
    (h : d.same rules e = true) :
    e.same rules d = true := by
  induction hd generalizing e with
  | value hv =>
    obtain ⟨_, rfl, hvalue⟩ := same_value_iff.mp h
    exact same_value_iff.mpr ⟨_, rfl, hv.same_symm hvalue⟩
  | tuple _ ih =>
    obtain ⟨_, rfl, hitems⟩ := same_tuple_iff.mp h
    exact same_tuple_iff.mpr
      ⟨_, rfl, forall₂_symm_of_mem (fun x hx y => ih x hx) hitems⟩
  | set hdiffer hproper ih =>
    obtain ⟨ys, rfl, hlen, hmembers⟩ := same_set_iff.mp h
    refine same_set_iff.mpr ⟨_, rfl, hlen.symm, ?_⟩
    -- two members with a partner in common would be the same
    have hsole := hdiffer.imp_of_mem (S := fun x x' => ∀ y,
      x.same rules y = true → ¬ x'.same rules y = true) (by
      intro x x' hx hx' hne y hxy hxy'
      have hsame := (hproper x hx).same_trans hrules hxy (ih x' hx' hxy')
      exact Bool.false_ne_true (hne.symm.trans hsame))
    intro y hy
    obtain ⟨x, hx, hxy⟩ := exists_partner hsole hlen.ge hmembers y hy
    exact ⟨x, hx, ih x hx hxy⟩
  | constraint =>
    obtain ⟨_, rfl, hsame⟩ := same_constraint_iff.mp h
    exact same_constraint_iff.mpr ⟨_, rfl, hrules.same_equivalence.symm hsame⟩

end IsProper

theorem hashableItems_eq
    (h : List.Forall₂ (fun x y => x.hashable rules = y.hashable rules) xs ys) :
    hashableItems rules xs = hashableItems rules ys := by
  induction h with
  | nil => rfl
  | cons hxy _ ih => rw [hashableItems, hashableItems, hxy, ih]

/-- Data that are the same can be put into a set alike, or fail by the same
fault. -/
theorem IsProper.hashable_eq_of_same (hrules : rules.IsSound)
    (hd : d.IsProper rules) (h : d.same rules e = true) :
    d.hashable rules = e.hashable rules := by
  induction hd generalizing e with
  | value =>
    obtain ⟨_, rfl, hvalue⟩ := same_value_iff.mp h
    exact Value.hashable_eq_of_same hvalue
  | tuple _ ih =>
    obtain ⟨ys, rfl, hitems⟩ := same_tuple_iff.mp h
    have hboth :=
      (List.forall₂_and_left _ ys).mpr ⟨fun x hx y => ih x hx (e := y), hitems⟩
    exact hashableItems_eq (hboth.imp fun _ y hxy => hxy.1 y hxy.2)
  | set =>
    obtain ⟨_, rfl, _⟩ := same_set_iff.mp h
    rfl
  | constraint =>
    obtain ⟨_, rfl, hsame⟩ := same_constraint_iff.mp h
    exact hrules.hashable_eq_of_same hsame

end Datum

/-! ### Entries -/

section Entries

variable {rules : ConstraintRules}

/-- Entries are the same if their labels, numbers and data are. -/
theorem Entry.sameUnder_iff {e f : Entry} :
    e.sameUnder rules f = true ↔
      e.label = f.label ∧ e.number.same f.number = true ∧
        (Datum.tuple e.data).same rules (.tuple f.data) = true := by
  simp [Entry.sameUnder, Datum.same, and_assoc]

/-- An entry of which the number and the data are proper. -/
structure ProperEntry (rules : ConstraintRules) extends Entry where
  number_proper : number.IsProper
  data_proper : ∀ d ∈ data, d.IsProper rules

namespace ProperEntry

/-- The data of a proper entry are a proper tuple. -/
theorem tuple_proper (e : ProperEntry rules) :
    (Datum.tuple e.data).IsProper rules := .tuple e.data_proper

/-- If the rules for constraints are sound, sameness of entries is an
equivalence, and entries that are the same can be put into a set alike, or fail
to be by the same fault. -/
theorem same_equivalence_and_hashes_alike (hrules : rules.IsSound) :
    Equivalence (fun e f : ProperEntry rules =>
        e.toEntry.sameUnder rules f.toEntry = true) ∧
      ∀ e f : ProperEntry rules, e.toEntry.sameUnder rules f.toEntry = true →
        e.toEntry.hashableUnder rules = f.toEntry.hashableUnder rules := by
  refine ⟨⟨?_, ?_, ?_⟩, ?_⟩
  · intro e
    exact Entry.sameUnder_iff.mpr ⟨rfl, e.number_proper.same_self,
      e.tuple_proper.same_self hrules⟩
  · intro e f h
    obtain ⟨hlabel, hnumber, hdata⟩ := Entry.sameUnder_iff.mp h
    exact Entry.sameUnder_iff.mpr
      ⟨hlabel.symm, e.number_proper.same_symm hnumber,
        e.tuple_proper.same_symm hrules hdata⟩
  · intro e f g h h'
    obtain ⟨hlabel, hnumber, hdata⟩ := Entry.sameUnder_iff.mp h
    obtain ⟨hlabel', hnumber', hdata'⟩ := Entry.sameUnder_iff.mp h'
    exact Entry.sameUnder_iff.mpr ⟨hlabel.trans hlabel',
      e.number_proper.same_trans hnumber hnumber',
      e.tuple_proper.same_trans hrules hdata hdata'⟩
  · intro e f h
    obtain ⟨-, -, hdata⟩ := Entry.sameUnder_iff.mp h
    exact e.tuple_proper.hashable_eq_of_same hrules hdata

/-- An entry that tells of one record. -/
def ofRecord (fields : List (String × Value))
    (proper : (Value.record fields).IsProper) : ProperEntry rules where
  toEntry := Finding.entry ⟨.misspelling, [.value (.record fields)]⟩
  number_proper := .int _
  data_proper := by
    intro d hd
    obtain rfl := List.mem_singleton.mp hd
    exact .value proper

/-- An entry that tells of one constraint. -/
def ofConstraint (c : Constraint) : ProperEntry rules where
  toEntry := Finding.entry ⟨.singletonGroups, [.constraint c]⟩
  number_proper := .int _
  data_proper := by
    intro d hd
    obtain rfl := List.mem_singleton.mp hd
    exact .constraint c

theorem record_pair_proper {first second : String} {v w : Value}
    (hne : first ≠ second) (hv : v.IsProper) (hw : w.IsProper) :
    (Value.record [(first, v), (second, w)]).IsProper := by
  refine .record (by simpa using hne) ?_
  simpa using ⟨hv, hw⟩

/-- A record of a number and a list of truth values. -/
def numberAndTruth : ProperEntry .byColumns :=
  ofRecord [("n", .int 1), ("b", .list [.bool true])]
    (record_pair_proper (by decide) (.int 1)
      (.list (by simp [Value.IsProper.bool])))

/-- The same fields in the other order, with one in place of true and true in
place of one. -/
def truthAndNumber : ProperEntry .byColumns :=
  ofRecord [("b", .list [.int 1]), ("n", .bool true)]
    (record_pair_proper (by decide) (.list (by simp [Value.IsProper.int]))
      (.bool true))

/-- A grouping by two columns. -/
def groupedPair : ProperEntry .byColumns :=
  ofConstraint ⟨.groupBy, [⟨some "id", some 0⟩, ⟨some "tax", some 0⟩]⟩

/-- A key of the same columns in the other order. -/
def uniquePair : ProperEntry .byColumns :=
  ofConstraint ⟨.unique, [⟨some "tax", some 0⟩, ⟨some "id", some 0⟩]⟩

/-- One is the same as true, and the order of fields does not matter; both
entries fail to be put into a set. By the rules that go by columns, constraints
of different kinds are the same, and their entries can be put into a set. -/
theorem same_in_other_order :
    (numberAndTruth.toEntry.same truthAndNumber.toEntry = true ∧
      truthAndNumber.toEntry.same numberAndTruth.toEntry = true ∧
      numberAndTruth.toEntry.hashable = .error (.notHashable "dict") ∧
      truthAndNumber.toEntry.hashable = .error (.notHashable "dict")) ∧
    groupedPair.toEntry.same uniquePair.toEntry = true ∧
      uniquePair.toEntry.same groupedPair.toEntry = true ∧
      groupedPair.toEntry.hashable = .ok () ∧
      uniquePair.toEntry.hashable = .ok () := by
  obtain ⟨hequiv, hhash⟩ :=
    same_equivalence_and_hashes_alike ConstraintRules.isSound_byColumns
  have hrecords :
      numberAndTruth.toEntry.same truthAndNumber.toEntry = true := by decide
  have hrecord : numberAndTruth.toEntry.hashable =
      .error (.notHashable "dict") := rfl
  have hpairs : groupedPair.toEntry.same uniquePair.toEntry = true := by decide
  have hpair : groupedPair.toEntry.hashable = .ok () := rfl
  refine ⟨⟨hrecords, hequiv.symm hrecords, hrecord, ?_⟩, hpairs,
    hequiv.symm hpairs, hpair, ?_⟩
  · exact (hhash _ _ hrecords).symm.trans hrecord
  · exact (hhash _ _ hpairs).symm.trans hpair

end ProperEntry

end Entries

end SqlDiagnosis
