import Mathlib.Data.List.Forall2
import SqlDiagnosis.Fault

/-!
# Answers that may be faults

A computation that may fail is taken apart here once, so that no later proof
opens the monad: a sequence succeeds when both its parts do, and a list of
computations succeeds when each of its members does, member by member. When it
fails, it is with the fault of the first member that does.
-/

namespace SqlDiagnosis.Answer

variable {α β γ : Type}

@[simp] theorem ok_bind (a : α) (k : α → Except Fault β) :
    ((.ok a : Except Fault α) >>= k) = k a := rfl

@[simp] theorem error_bind (f : Fault) (k : α → Except Fault β) :
    ((.error f : Except Fault α) >>= k) = .error f := rfl

/-- A sequence succeeds when its first part does, and then its second part does
too. -/
theorem bind_eq_ok_iff {x : Except Fault α} {k : α → Except Fault β} {b : β} :
    (x >>= k) = .ok b ↔ ∃ a, x = .ok a ∧ k a = .ok b := by
  rcases x with f | a
  · constructor
    · intro h
      cases h
    · rintro ⟨a, ha, -⟩
      cases ha
  · constructor
    · intro h
      exact ⟨a, rfl, h⟩
    · rintro ⟨a', ha, h⟩
      cases ha
      exact h

theorem map_eq_ok_iff {x : Except Fault α} {f : α → β} {b : β} :
    x.map f = .ok b ↔ ∃ a, x = .ok a ∧ f a = b := by
  rcases x with e | a
  · constructor
    · intro h
      cases h
    · rintro ⟨a, ha, -⟩
      cases ha
  · constructor
    · intro h
      cases h
      exact ⟨a, rfl, rfl⟩
    · rintro ⟨a', ha, rfl⟩
      cases ha
      rfl

theorem exists_ok_iff {x : Except Fault α} :
    (∃ a, x = .ok a) ↔ ∀ e, x ≠ .error e := by
  rcases x with e | a
  · exact iff_of_false (by simp) fun h => h e rfl
  · exact iff_of_true ⟨a, rfl⟩ (by simp)

/-- What is made of a result has no part in the faults. -/
theorem bind_return_eq_error_iff {x : Except Fault α} {k : α → β} {e : Fault} :
    (do return k (← x)) = (.error e : Except Fault β) ↔ x = .error e := by
  rcases x with e' | a
  · show Except.error e' = Except.error e ↔ Except.error e' = Except.error e
    rw [Except.error.injEq, Except.error.injEq]
  · exact iff_of_false nofun nofun

theorem exists_bind_return_iff {x : Except Fault α} {k : α → β} :
    (∃ b, (do return k (← x)) = (.ok b : Except Fault β)) ↔ ∃ a, x = .ok a := by
  rw [exists_ok_iff, exists_ok_iff]
  exact forall_congr' fun e => not_congr bind_return_eq_error_iff

theorem eq_ok_of_toOption {x : Except Fault α} {a : α}
    (h : x.toOption = some a) : x = .ok a := by
  rcases x with f | a'
  · cases h
  · cases h
    rfl

/-- A list of computations succeeds when each does. -/
theorem mapM_eq_ok_iff {f : α → Except Fault β} {xs : List α} {ys : List β} :
    xs.mapM f = .ok ys ↔ List.Forall₂ (fun x y => f x = .ok y) xs ys := by
  induction xs generalizing ys with
  | nil =>
    rw [List.mapM_nil, List.forall₂_nil_left_iff]
    exact ⟨fun h => by cases h; rfl, fun h => by rw [h]; rfl⟩
  | cons x xs ih =>
    rw [List.mapM_cons, bind_eq_ok_iff, List.forall₂_cons_left_iff]
    constructor
    · rintro ⟨y, hy, h⟩
      obtain ⟨ys', hys, h⟩ := bind_eq_ok_iff.mp h
      cases h
      exact ⟨y, ys', hy, ih.mp hys, rfl⟩
    · rintro ⟨y, ys', hy, hys, rfl⟩
      exact ⟨y, hy, bind_eq_ok_iff.mpr ⟨ys', ih.mpr hys, rfl⟩⟩

theorem mapM_ok_of_forall {f : α → Except Fault β} {xs : List α}
    (h : ∀ x ∈ xs, ∃ y, f x = .ok y) :
    ∃ ys, xs.mapM f = .ok ys := by
  induction xs with
  | nil => exact ⟨[], rfl⟩
  | cons x xs ih =>
    rw [List.forall_mem_cons] at h
    obtain ⟨y, hy⟩ := h.1
    obtain ⟨ys, hys⟩ := ih h.2
    exact ⟨y :: ys, mapM_eq_ok_iff.mpr (.cons hy (mapM_eq_ok_iff.mp hys))⟩

/-- What comes out of a list of computations comes out of one of them. -/
theorem exists_of_mem_mapM {f : α → Except Fault β} {xs : List α} {ys : List β}
    (h : xs.mapM f = .ok ys) {y : β} (hy : y ∈ ys) :
    ∃ x ∈ xs, f x = .ok y := by
  have hall := mapM_eq_ok_iff.mp h
  clear h
  induction hall with
  | nil => cases hy
  | cons hxy _ ih =>
    rcases List.mem_cons.mp hy with rfl | hy
    · exact ⟨_, by simp, hxy⟩
    · obtain ⟨x, hx, hfx⟩ := ih hy
      exact ⟨x, List.mem_cons_of_mem _ hx, hfx⟩

/-- Each of a list of computations that succeed contributes what comes out of
it. -/
theorem exists_mem_of_mapM {f : α → Except Fault β} {xs : List α} {ys : List β}
    (h : xs.mapM f = .ok ys) {x : α} (hx : x ∈ xs) :
    ∃ y ∈ ys, f x = .ok y := by
  have hall := mapM_eq_ok_iff.mp h
  clear h
  induction hall with
  | nil => cases hx
  | cons hxy _ ih =>
    rcases List.mem_cons.mp hx with rfl | hx
    · exact ⟨_, List.mem_cons_self, hxy⟩
    · obtain ⟨y, hy, hfx⟩ := ih hx
      exact ⟨y, List.mem_cons_of_mem _ hy, hfx⟩

/-- A list of computations that succeeds gives the results of its members, and
these only. -/
theorem mem_mapM_iff {f : α → Except Fault β} {xs : List α} {ys : List β}
    (h : xs.mapM f = .ok ys) (y : β) :
    y ∈ ys ↔ ∃ x ∈ xs, f x = .ok y := by
  constructor
  · exact exists_of_mem_mapM h
  · rintro ⟨x, hx, hy⟩
    obtain ⟨y', hy', hx'⟩ := exists_mem_of_mapM h hx
    rwa [Except.ok.inj (hy.symm.trans hx')]

/-- What comes out of a list of computations of lists comes out of one of
these. -/
theorem mem_flatten_mapM_iff {f : α → Except Fault (List β)} {xs : List α}
    {news : List (List β)} (h : xs.mapM f = .ok news) (y : β) :
    y ∈ news.flatten ↔ ∃ x ∈ xs, ∃ new, f x = .ok new ∧ y ∈ new := by
  rw [List.mem_flatten]
  constructor
  · rintro ⟨new, hnew, hy⟩
    obtain ⟨x, hx, hfx⟩ := exists_of_mem_mapM h hnew
    exact ⟨x, hx, new, hfx, hy⟩
  · rintro ⟨x, hx, new, hfx, hy⟩
    exact ⟨new, (mem_mapM_iff h new).mpr ⟨x, hx, hfx⟩, hy⟩

theorem forM_eq_ok_iff {f : α → Except Fault Unit} {xs : List α} :
    xs.forM f = .ok () ↔ ∀ x ∈ xs, f x = .ok () := by
  induction xs with
  | nil => exact iff_of_true rfl nofun
  | cons x xs ih =>
    rw [List.forM_eq_forM, List.forM_cons, bind_eq_ok_iff,
      List.forall_mem_cons, ← ih]
    constructor
    · rintro ⟨_, hx, hxs⟩
      exact ⟨hx, hxs⟩
    · rintro ⟨hx, hxs⟩
      exact ⟨(), hx, hxs⟩

/-- The fault of a list of computations is that of the first one that fails. -/
theorem mapM_eq_error_iff {f : α → Except Fault β} {xs : List α} {e : Fault} :
    xs.mapM f = .error e ↔
      ∃ before x after, xs = before ++ x :: after ∧
        (∀ y ∈ before, ∃ b, f y = .ok b) ∧ f x = .error e := by
  constructor
  · intro h
    induction xs with
    | nil => cases h
    | cons x xs ih =>
      rw [List.mapM_cons] at h
      -- either the first computation fails, and nothing comes before it, or the
      -- fault is among the others
      rcases hx : f x with e' | y
      · rw [hx] at h
        cases h
        exact ⟨[], x, xs, rfl, by simp, hx⟩
      · rw [hx, ok_bind] at h
        rcases hxs : xs.mapM f with e' | ys
        · rw [hxs] at h
          cases h
          obtain ⟨before, x', after, rfl, hbefore, hfault⟩ := ih hxs
          exact ⟨x :: before, x', after, rfl,
            List.forall_mem_cons.mpr ⟨⟨y, hx⟩, hbefore⟩, hfault⟩
        · rw [hxs] at h
          cases h
  · rintro ⟨before, x, after, rfl, hbefore, hfault⟩
    obtain ⟨ys, hys⟩ := mapM_ok_of_forall hbefore
    rw [List.mapM_append, hys, ok_bind, List.mapM_cons, hfault]
    rfl

/-- A list of computations fails with the fault of one of them. -/
theorem exists_of_mapM_error {f : α → Except Fault β} {xs : List α} {e : Fault}
    (h : xs.mapM f = .error e) :
    ∃ x ∈ xs, f x = .error e := by
  obtain ⟨before, x, after, rfl, -, hfault⟩ := mapM_eq_error_iff.mp h
  exact ⟨x, List.mem_append_right before List.mem_cons_self, hfault⟩

theorem exists_mapM_iff {f : α → Except Fault β} {xs : List α} :
    (∃ ys, xs.mapM f = .ok ys) ↔ ∀ x ∈ xs, ∃ y, f x = .ok y := by
  refine ⟨?_, mapM_ok_of_forall⟩
  rintro ⟨ys, hys⟩ x hx
  obtain ⟨y, -, hy⟩ := exists_mem_of_mapM hys hx
  exact ⟨y, hy⟩

/-- Lists of computations that fail alike fail alike. -/
theorem mapM_eq_error_congr {f : α → Except Fault β} {g : α → Except Fault γ}
    {xs : List α} (h : ∀ x ∈ xs, ∀ e, f x = .error e ↔ g x = .error e)
    (e : Fault) : xs.mapM f = .error e ↔ xs.mapM g = .error e := by
  rw [mapM_eq_error_iff, mapM_eq_error_iff]
  refine exists_congr fun before => exists_congr fun x =>
    exists_congr fun after => and_congr_right fun hxs => ?_
  subst hxs
  refine and_congr (forall_congr' fun y => forall_congr' fun hy => ?_)
    (h x (by simp) e)
  rw [exists_ok_iff, exists_ok_iff]
  exact forall_congr' fun e => not_congr (h y (by simp [hy]) e)

/-- Computations on the members of joined lists may be done list by list. -/
theorem mapM_flatMap (g : β → Except Fault γ) (h : α → List β) (xs : List α) :
    (xs.flatMap h).mapM g =
      do return (← xs.mapM fun x => (h x).mapM g).flatten := by
  induction xs with
  | nil => rfl
  | cons x xs ih =>
    rw [List.flatMap_cons, List.mapM_append, ih]
    simp only [List.mapM_cons, bind_assoc, pure_bind, List.flatten_cons]

/-- Computations that are left out may as well contribute nothing. -/
theorem flatten_mapM_filter (p : α → Bool) (f : α → Except Fault (List β))
    (xs : List α) :
    (do return (← (xs.filter p).mapM f).flatten) =
      (do return (← xs.mapM fun x => if p x then f x else .ok []).flatten :
        Except Fault (List β)) := by
  induction xs with
  | nil => rfl
  | cons x xs ih =>
    rw [List.mapM_cons]
    by_cases hp : p x = true
    · rw [List.filter_cons_of_pos hp, List.mapM_cons, if_pos hp]
      simp only [bind_assoc, pure_bind, List.flatten_cons]
      refine congrArg (f x >>= ·) (funext fun found => ?_)
      -- what follows is the same by induction; it has to be put behind what `f
      -- x` found
      have hfound := congrArg (fun rest => do return found ++ (← rest)) ih
      simpa only [bind_assoc, pure_bind] using hfound
    · rw [List.filter_cons_of_neg hp, if_neg hp, ih]
      simp only [ok_bind, bind_assoc, pure_bind, List.flatten_cons,
        List.nil_append]

/-- Lists of lists may be flattened where they are computed or at the end. -/
theorem flatten_flatten_mapM (f : α → Except Fault (List (List β)))
    (xs : List α) :
    (do return (← xs.mapM f).flatten.flatten) =
      (do return (← xs.mapM fun x => do return (← f x).flatten).flatten :
        Except Fault (List β)) := by
  induction xs with
  | nil => rfl
  | cons x xs ih =>
    simp only [List.mapM_cons, bind_assoc, pure_bind, List.flatten_cons,
      List.flatten_append]
    refine congrArg (f x >>= ·) (funext fun found => ?_)
    have hfound := congrArg (fun rest => do return found.flatten ++ (← rest)) ih
    simpa only [bind_assoc, pure_bind] using hfound

end SqlDiagnosis.Answer
