import SqlDiagnosis.Diagnosis
import SqlDiagnosis.Proofs.Pipeline

/-!
# Detectors one after the other

A session runs its detectors in their order, and each looks at the query that
the one before has left. What a detector finds does not depend on its place nor
on the others (`Conduct.sameAt`), so a run is a sequence of blocks

    blocks (xs ++ ys) q = blocks xs q, and then blocks ys on what is left,

where the block of one detector is what it finds when it is alone with the
query. The diagnosis with two lists of detectors is therefore that with the
first, followed by the diagnosis of the text it has left with the second.

Only the syntactic detector replaces the query. The others look at the same one
whatever their order is.

In which order a set of corrections or columns is gone through does not matter
to any of this: a block is what the detector finds, whatever `members` makes of
its sets.
-/

namespace SqlDiagnosis

open SqlDiagnosis.Action

section Blocks

variable (g : Setting) (solutions : List Query)

/-! ### Blocks -/

/-- A session with one detector. -/
def Session.alone (kind : DetectorKind) (q : Query) : Session :=
  ⟨g, solutions, q, [⟨kind, q, solutions⟩], []⟩

/-- What a detector finds about a query, and the query that it leaves. -/
def block (kind : DetectorKind) (q : Query) :
    Except Fault (List Finding) × Query :=
  (((runAt 0).perform (.alone g solutions kind q)).1,
    ((runAt 0).perform (.alone g solutions kind q)).2.query)

/-- What some detectors find, each about the query that the one before has
left. -/
def blocks : List DetectorKind → Query → Except Fault (List Finding) × Query
  | [], q => (.ok [], q)
  | kind :: rest, q => match block g solutions kind q with
    | (.error f, q') => (.error f, q')
    | (.ok found, q') =>
      ((blocks rest q').1.map (found ++ ·), (blocks rest q').2)

variable {g solutions}

theorem blocks_cons_of_ok {kind : DetectorKind} {rest : List DetectorKind}
    {q q' : Query} {found : List Finding}
    (h : block g solutions kind q = (.ok found, q')) :
    blocks g solutions (kind :: rest) q =
      ((blocks g solutions rest q').1.map (found ++ ·),
        (blocks g solutions rest q').2) := by
  rw [blocks, h]

theorem blocks_cons_of_error {kind : DetectorKind} {rest : List DetectorKind}
    {q q' : Query} {f : Fault} (h : block g solutions kind q = (.error f, q')) :
    blocks g solutions (kind :: rest) q = (.error f, q') := by
  rw [blocks, h]

theorem map_append_append (answer : Except Fault (List Finding))
    (xs ys : List Finding) :
    (answer.map (ys ++ ·)).map (xs ++ ·) = answer.map (xs ++ ys ++ ·) := by
  rcases answer with f | zs
  · rfl
  · show Except.ok (xs ++ (ys ++ zs)) = Except.ok (xs ++ ys ++ zs)
    rw [List.append_assoc]

/-- More detectors start from the query that the first ones have left. -/
theorem blocks_append {xs ys : List DetectorKind} {q q' : Query}
    {found : List Finding} (h : blocks g solutions xs q = (.ok found, q')) :
    blocks g solutions (xs ++ ys) q =
      ((blocks g solutions ys q').1.map (found ++ ·),
        (blocks g solutions ys q').2) := by
  -- the induction is on the first detectors; the query that is left at the end
  -- stays the same, while the one to start from moves on
  induction xs generalizing q found with
  | nil =>
    cases h
    rcases hys : blocks g solutions ys q' with ⟨f | zs, q''⟩
    · rw [List.nil_append, hys]
      rfl
    · rw [List.nil_append, hys]
      rfl
  | cons kind xs ih =>
    rcases hkind : block g solutions kind q with ⟨f | first, u⟩
    · rw [blocks_cons_of_error hkind] at h
      cases h
    · rw [blocks_cons_of_ok hkind] at h
      rcases hxs : blocks g solutions xs u with ⟨f | more, u'⟩
      · rw [hxs] at h
        cases h
      · rw [hxs] at h
        cases h
        rw [List.cons_append, blocks_cons_of_ok hkind, ih hxs,
          map_append_append]

/-- After a fault no further detectors are asked. -/
theorem blocks_append_of_error {xs ys : List DetectorKind} {q q' : Query}
    {f : Fault} (h : blocks g solutions xs q = (.error f, q')) :
    blocks g solutions (xs ++ ys) q = (.error f, q') := by
  induction xs generalizing q with
  | nil => cases h
  | cons kind xs ih =>
    rcases hkind : block g solutions kind q with ⟨f' | first, u⟩
    · rw [blocks_cons_of_error hkind] at h
      cases h
      rw [List.cons_append, blocks_cons_of_error hkind]
    · rw [blocks_cons_of_ok hkind] at h
      rcases hxs : blocks g solutions xs u with ⟨f' | more, u'⟩
      · rw [hxs] at h
        cases h
        rw [List.cons_append, blocks_cons_of_ok hkind, ih hxs]
        rfl
      · rw [hxs] at h
        cases h

/-- If all detectors have an answer, so have the first ones, and the others
about what these have left. -/
theorem blocks_append_ok_inv {xs ys : List DetectorKind} {q : Query}
    {all : List Finding} (h : (blocks g solutions (xs ++ ys) q).1 = .ok all) :
    ∃ found q' rest, blocks g solutions xs q = (.ok found, q') ∧
      (blocks g solutions ys q').1 = .ok rest ∧
      all = found ++ rest := by
  rcases hxs : blocks g solutions xs q with ⟨f | found, q'⟩
  · rw [blocks_append_of_error hxs] at h
    cases h
  · rw [blocks_append hxs] at h
    obtain ⟨rest, hys, rfl⟩ := Answer.map_eq_ok_iff.mp h
    exact ⟨found, q', rest, rfl, hys, rfl⟩

/-! ### A run is a sequence of blocks -/

theorem itemAt_natCast {α : Type} {items : List α} {i : Nat} {x : α}
    (h : items[i]? = some x) :
    itemAt items (i : Int) = .ok x := by
  simp [itemAt, h]

/-- Whatever an action does, the kinds of the attached detectors stay. -/
theorem Action.Traced.kinds_eq {α : Type} {a : Action α} (ha : Traced a)
    (s : Session) :
    (a.perform s).2.detectors.map (·.kind) = s.detectors.map (·.kind) := by
  obtain ⟨attempts, h⟩ := ha s
  refine (h.invariant
    (P := fun u => u.detectors.map (·.kind) = s.detectors.map (·.kind))
    ?_ ?_ rfl).1
  · intro u entries hu
    exact hu
  · intro u text q _ hu
    rw [← hu, Session.detectors_withQuery, List.map_map]
    rfl

/-- A detector finds at its place what it finds alone. -/
theorem runAt_eq_block {s : Session} (hs : s.Synchronised g solutions) {i : Nat}
    {kind : DetectorKind} (hi : (s.detectors.map (·.kind))[i]? = some kind) :
    ((runAt i).perform s).1 = (block g solutions kind s.query).1 ∧
      ((runAt i).perform s).2.query = (block g solutions kind s.query).2 := by
  -- at its place the detector sees the query and the solutions that it would
  -- see alone, since the session is synchronised
  have hsame : SameAt i 0 s (.alone g solutions kind s.query) := by
    refine ⟨hs.setting, rfl, ?_⟩
    rw [List.getElem?_map, Option.map_eq_some_iff] at hi
    obtain ⟨d, hd, rfl⟩ := hi
    rw [itemAt_natCast hd, hs.itemAt_eq (itemAt_natCast hd)]
    rfl
  obtain ⟨hanswer, hleft⟩ := conduct_runAt.sameAt hsame
  exact ⟨hanswer, hleft.query⟩

/-- The log does not show in what a detector finds. -/
theorem runLogged_eq_block {s : Session} (hs : s.Synchronised g solutions)
    {i : Nat} {kind : DetectorKind}
    (hi : (s.detectors.map (·.kind))[i]? = some kind) :
    ((runLogged i).perform s).1 = (block g solutions kind s.query).1 ∧
      ((runLogged i).perform s).2.query =
        (block g solutions kind s.query).2 := by
  obtain ⟨hanswer, hleft⟩ := runAt_eq_block hs hi
  rw [← hanswer, ← hleft]
  rw [List.getElem?_map, Option.map_eq_some_iff] at hi
  obtain ⟨d, hd, rfl⟩ := hi
  have hlook : (detectorAt i).perform s = (.ok d, s) := by
    rw [perform_detectorAt, itemAt_natCast hd]
  unfold runLogged
  rw [perform_bind_of_ok hlook]
  rcases hrun : (runAt i).perform s with ⟨f | found, s'⟩
  · rw [perform_bind_of_error hrun]
    exact ⟨rfl, rfl⟩
  · rw [perform_bind_of_ok hrun, perform_bind_of_ok (perform_log _ _)]
    refine ⟨rfl, ?_⟩
    cases s'.setting.debug <;> rfl

/-- Detectors that are run one after the other find what their kinds find in
blocks. The kinds at the places are given by a list of their own, since they
stay while the session changes. -/
theorem mapM_runLogged_eq_blocks {attached : List DetectorKind}
    {places : List Nat} {kinds : List DetectorKind}
    (hkinds : List.Forall₂ (fun i kind => attached[i]? = some kind) places kinds)
    {s : Session} (hs : s.Synchronised g solutions)
    (hattached : s.detectors.map (·.kind) = attached) :
    ((places.mapM fun i : Nat => runLogged i).perform s).1.map List.flatten =
        (blocks g solutions kinds s.query).1 ∧
      ((places.mapM fun i : Nat => runLogged i).perform s).2.query =
        (blocks g solutions kinds s.query).2 := by
  induction hkinds generalizing s with
  | nil => exact ⟨rfl, rfl⟩
  | @cons i kind places kinds hi _ ih =>
    subst hattached
    -- The first detector leaves a synchronised session with the same kinds,
    -- from which the others go on.
    obtain ⟨hanswer, hleft⟩ := runLogged_eq_block hs hi
    rw [List.mapM_cons]
    rcases hrun : (runLogged i).perform s with ⟨f | found, u⟩
    · rw [hrun] at hanswer hleft
      rw [perform_bind_of_error hrun,
        blocks_cons_of_error (Prod.ext hanswer.symm rfl)]
      exact ⟨rfl, hleft⟩
    · have hsync := (conduct_runLogged.traced i).synchronised hs
      have hsame := (conduct_runLogged.traced i).kinds_eq s
      rw [hrun] at hanswer hleft hsync hsame
      obtain ⟨hrest, hend⟩ := ih hsync hsame
      have hblock : block g solutions kind s.query = (.ok found, u.query) :=
        Prod.ext hanswer.symm hleft.symm
      rw [perform_bind_of_ok hrun, blocks_cons_of_ok hblock, ← hrest, ← hend]
      rcases hmore : (places.mapM fun i : Nat => runLogged i).perform u with
        ⟨f | more, u'⟩
      · rw [perform_bind_of_error hmore]
        exact ⟨rfl, rfl⟩
      · rw [perform_bind_of_ok hmore]
        exact ⟨rfl, rfl⟩

theorem forall₂_range_getElem? {α : Type} (items : List α) :
    List.Forall₂ (fun i x => items[i]? = some x)
      (List.range items.length) items := by
  rw [List.forall₂_iff_get]
  refine ⟨List.length_range, fun i _ hi => ?_⟩
  simp [List.getElem?_eq_getElem hi]

/-- A run of all detectors finds what their kinds find in blocks. -/
theorem run_eq_blocks {s : Session} (hs : s.Synchronised g solutions) :
    (run.perform s).1 =
      (blocks g solutions (s.detectors.map (·.kind)) s.query).1 ∧
      (run.perform s).2.query =
        (blocks g solutions (s.detectors.map (·.kind)) s.query).2 := by
  have hkinds := forall₂_range_getElem? (s.detectors.map (·.kind))
  rw [List.length_map] at hkinds
  -- the header is logged first, which changes nothing that counts
  have hheader : ∃ s₁, (log (runHeader s)).perform s = (.ok (), s₁) ∧
      s₁.Synchronised g solutions ∧
      s₁.detectors = s.detectors ∧ s₁.query = s.query := by
    rw [perform_log]
    cases s.setting.debug
    · exact ⟨s, rfl, hs, rfl, rfl⟩
    · exact ⟨_, rfl, hs.logged _, rfl, rfl⟩
  obtain ⟨s₁, hlog, hs₁, hdetectors, hquery⟩ := hheader
  obtain ⟨hanswer, hleft⟩ :=
    mapM_runLogged_eq_blocks hkinds hs₁ (by rw [hdetectors])
  rw [hquery] at hanswer hleft
  rw [← hanswer, ← hleft]
  unfold run
  rw [perform_bind_of_ok (perform_get s), perform_bind_of_ok hlog]
  rcases hrun :
    ((List.range s.detectors.length).mapM fun i : Nat => runLogged i).perform s₁
    with ⟨f | found, s'⟩
  · rw [perform_bind_of_error hrun]
    exact ⟨rfl, rfl⟩
  · rw [perform_bind_of_ok hrun]
    exact ⟨rfl, rfl⟩

/-! ### Detectors that do not correct -/

/-- A detector that is not the syntactic one inspects the query and leaves
it. -/
theorem block_of_ne_syntactic {kind : DetectorKind} (h : kind ≠ .syntactic)
    (q : Query) :
    block g solutions kind q = (kind.inspect q solutions, q) := by
  have hd : itemAt (Session.alone g solutions kind q).detectors 0 =
      .ok ⟨kind, q, solutions⟩ := rfl
  have hrun : (runAt 0).perform (.alone g solutions kind q) =
      (kind.inspect q solutions, .alone g solutions kind q) :=
    perform_runAt_of_not_syntactic hd h
  unfold block
  rw [hrun]
  rfl

/-- Detectors that do not correct leave the query as it is, also when one
fails. -/
theorem blocks_left_of_not_syntactic {kinds : List DetectorKind}
    (h : .syntactic ∉ kinds) (q : Query) :
    (blocks g solutions kinds q).2 = q := by
  induction kinds with
  | nil => rfl
  | cons kind kinds ih =>
    rw [List.mem_cons, not_or] at h
    have hblock : block g solutions kind q = (kind.inspect q solutions, q) :=
      block_of_ne_syntactic (Ne.symm h.1) q
    rcases hkind : kind.inspect q solutions with f | found
    · rw [hkind] at hblock
      rw [blocks_cons_of_error hblock]
    · rw [hkind] at hblock
      rw [blocks_cons_of_ok hblock]
      exact ih h.2

/-- Detectors that do not correct all look at the same query. -/
theorem blocks_of_not_syntactic {kinds : List DetectorKind}
    (h : .syntactic ∉ kinds) {q : Query} {found : DetectorKind → List Finding}
    (hfound : ∀ kind ∈ kinds, kind.inspect q solutions = .ok (found kind)) :
    blocks g solutions kinds q = (.ok (kinds.flatMap found), q) := by
  induction kinds with
  | nil => rfl
  | cons kind kinds ih =>
    rw [List.mem_cons, not_or] at h
    have hblock : block g solutions kind q = (.ok (found kind), q) := by
      rw [block_of_ne_syntactic (Ne.symm h.1), hfound kind (by simp)]
    have hrest : ∀ k ∈ kinds, k.inspect q solutions = .ok (found k) :=
      fun k hk => hfound k (List.mem_cons_of_mem _ hk)
    rw [blocks_cons_of_ok hblock, ih h.2 hrest]
    rfl

theorem inspect_ok_of_blocks_ok {kinds : List DetectorKind}
    (h : .syntactic ∉ kinds) {q : Query} {all : List Finding}
    (hall : (blocks g solutions kinds q).1 = .ok all) :
    ∀ kind ∈ kinds, ∃ found, kind.inspect q solutions = .ok found := by
  induction kinds generalizing all with
  | nil =>
    intro kind hkind
    cases hkind
  | cons first kinds ih =>
    rw [List.mem_cons, not_or] at h
    have hblock : block g solutions first q = (first.inspect q solutions, q) :=
      block_of_ne_syntactic (Ne.symm h.1) q
    rcases hfirst : first.inspect q solutions with f | found
    · rw [hfirst] at hblock
      rw [blocks_cons_of_error hblock] at hall
      cases hall
    · rw [hfirst] at hblock
      rw [blocks_cons_of_ok hblock] at hall
      obtain ⟨more, hmore, -⟩ := Answer.map_eq_ok_iff.mp hall
      intro kind hkind
      rcases List.mem_cons.mp hkind with rfl | hkind
      · exact ⟨found, hfirst⟩
      · exact ih h.2 hmore kind hkind

end Blocks

/-! ### Diagnosis -/

@[simp] theorem Session.query_withDetectors (s : Session)
    (kinds : List DetectorKind) :
    (s.withDetectors kinds).query = s.query := by
  induction kinds generalizing s with
  | nil => rfl
  | cons kind kinds ih => exact ih _

@[simp] theorem Session.kinds_withDetectors (s : Session)
    (kinds : List DetectorKind) :
    (s.withDetectors kinds).detectors.map (·.kind) =
      s.detectors.map (·.kind) ++ kinds := by
  induction kinds generalizing s with
  | nil => exact (List.append_nil _).symm
  | cons kind kinds ih =>
    show ((s.withDetector kind).withDetectors kinds).detectors.map (·.kind) = _
    rw [ih, Session.withDetector, List.map_append, List.append_assoc]
    rfl

section

variable {g : Setting} {solutions : List String} {text : String}
  {sols : List Query} {q : Query} {kinds : List DetectorKind}

/-- A detector without checks of its own cannot be attached. -/
theorem diagnose_of_base (hsols : g.readSolutions solutions = .ok sols)
    (hq : g.readQuery text = .ok q) (hkinds : .base ∈ kinds) :
    (diagnose g solutions text kinds).1 = .error .abstractDetector := by
  have hstart := Session.start_of_base hsols hq hkinds
  unfold diagnose
  rcases e : Session.start g solutions text kinds with ⟨f | s, log⟩
  · rw [e] at hstart
    cases hstart
    rfl
  · rw [e] at hstart
    cases hstart

/-- If a diagnosis has findings, all its detectors could be attached. -/
theorem not_base_of_diagnose (hsols : g.readSolutions solutions = .ok sols)
    (hq : g.readQuery text = .ok q) {found : List Finding}
    (h : (diagnose g solutions text kinds).1 = .ok found) : .base ∉ kinds := by
  intro hkinds
  rw [diagnose_of_base hsols hq hkinds] at h
  cases h

/-- A diagnosis finds what its detectors find in blocks. -/
theorem diagnose_eq_blocks (hsols : g.readSolutions solutions = .ok sols)
    (hq : g.readQuery text = .ok q) (hkinds : .base ∉ kinds) :
    (diagnose g solutions text kinds).1 = (blocks g sols kinds q).1 := by
  have hstart := Session.start_of_ok hsols hq hkinds
  obtain ⟨sols', hsols', hs⟩ := Session.synchronised_of_start hstart
  obtain rfl : sols = sols' := Except.ok.inj (hsols.symm.trans hsols')
  have hrun := (run_eq_blocks hs).1
  rw [Session.kinds_withDetectors, Session.query_withDetectors] at hrun
  unfold diagnose
  rw [hstart]
  exact hrun

/-- A session that was started and run has gone through the blocks of its
detectors. -/
theorem blocks_of_start_run {s s' : Session} {log : List String}
    {answer : Except Fault (List Finding)}
    (hstart : Session.start g solutions text kinds = (.ok s, log))
    (hrun : run.perform s = (answer, s')) :
    ∃ sols q, g.readSolutions solutions = .ok sols ∧ g.readQuery text = .ok q ∧
      .base ∉ kinds ∧ blocks g sols kinds q = (answer, s'.query) ∧
      s'.Synchronised g sols := by
  obtain ⟨sols, q, hsols, hq, hkinds, rfl⟩ := Session.start_inv hstart
  obtain ⟨sols', hsols', hs⟩ := Session.synchronised_of_start hstart
  obtain rfl : sols = sols' := Except.ok.inj (hsols.symm.trans hsols')
  obtain ⟨hanswer, hleft⟩ := run_eq_blocks hs
  have hs' := traced_run.synchronised hs
  rw [Session.kinds_withDetectors, Session.query_withDetectors,
    hrun] at hanswer hleft
  rw [hrun] at hs'
  exact ⟨sols, q, hsols, hq, hkinds, Prod.ext hanswer.symm hleft.symm, hs'⟩

/-- More detectors find what they find in blocks about the query that the first
ones have left. -/
theorem diagnose_append_eq_blocks {first second : List DetectorKind}
    {q' : Query} {found : List Finding}
    (hsols : g.readSolutions solutions = .ok sols)
    (hq : g.readQuery text = .ok q)
    (hblocks : blocks g sols first q = (.ok found, q'))
    (hkinds : .base ∉ first ++ second) :
    (diagnose g solutions text (first ++ second)).1 =
      (blocks g sols second q').1.map (found ++ ·) := by
  rw [diagnose_eq_blocks hsols hq hkinds, blocks_append hblocks]

/-- A diagnosis with more detectors goes on with the text that the first ones
have left. -/
theorem diagnose_append_of_blocks {first : List DetectorKind} {q' : Query}
    {found : List Finding} (hsols : g.readSolutions solutions = .ok sols)
    (hq : g.readQuery text = .ok q) (hq' : g.readQuery q'.sql = .ok q')
    (hfirst : .base ∉ first) (hblocks : blocks g sols first q = (.ok found, q'))
    (second : List DetectorKind) :
    (diagnose g solutions text (first ++ second)).1 =
      (diagnose g solutions q'.sql second).1.map (found ++ ·) := by
  -- A detector without checks is refused before anything runs, on both sides.
  by_cases hsecond : .base ∈ second
  · rw [diagnose_of_base hsols hq (List.mem_append_right _ hsecond),
      diagnose_of_base hsols hq' hsecond]
    rfl
  · have hboth : .base ∉ first ++ second := by
      rw [List.mem_append, not_or]
      exact ⟨hfirst, hsecond⟩
    rw [diagnose_append_eq_blocks hsols hq hblocks hboth,
      diagnose_eq_blocks hsols hq' hsecond]

/-- The categories of a diagnosis are those of its findings. -/
theorem categories_of_diagnose {found : List Finding}
    (h : (diagnose g solutions text kinds).1 = .ok found) :
    categories g solutions text kinds =
      .ok (members (found.map (·.category))) := by
  unfold categories
  rw [h]
  rfl

end

/-- Detectors that do not correct find the same in another order, but for the
order of their blocks. -/
theorem blocks_perm {g : Setting} {sols : List Query}
    {middle middle' last : List DetectorKind} (hperm : middle.Perm middle')
    (hmiddle : .syntactic ∉ middle) {q : Query} {all : List Finding}
    (hall : (blocks g sols (middle ++ last) q).1 = .ok all) :
    ∃ (found : DetectorKind → List Finding) (rest : List Finding),
      (∀ kind ∈ middle, kind.inspect q sols = .ok (found kind)) ∧
      all = middle.flatMap found ++ rest ∧
      (blocks g sols (middle' ++ last) q).1 =
        .ok (middle'.flatMap found ++ rest) := by
  obtain ⟨_, q', rest, hblocks, hrest, rfl⟩ := blocks_append_ok_inv hall
  let found : DetectorKind → List Finding :=
    fun kind => (kind.inspect q sols).toOption.getD []
  have hfound : ∀ kind ∈ middle, kind.inspect q sols = .ok (found kind) := by
    intro kind hkind
    obtain ⟨fs, hfs⟩ :=
      inspect_ok_of_blocks_ok hmiddle (congrArg Prod.fst hblocks) kind hkind
    simp only [found, hfs]
    rfl
  have hfound' : ∀ kind ∈ middle', kind.inspect q sols = .ok (found kind) :=
    fun kind hkind => hfound kind (hperm.mem_iff.mpr hkind)
  have hmiddle' : .syntactic ∉ middle' := fun h => hmiddle (hperm.mem_iff.mpr h)
  rw [blocks_of_not_syntactic hmiddle hfound] at hblocks
  -- All of them look at `q`, so what comes after them starts from `q` in either
  -- order.
  cases hblocks
  refine ⟨found, rest, hfound, rfl, ?_⟩
  rw [blocks_append (blocks_of_not_syntactic hmiddle' hfound'), hrest]
  rfl

/-- **Detectors one after the other.** Let a diagnosis with the detectors
`first` return findings, and leave the session `s'`. Then

* the diagnosis with more detectors finds the same, followed by what these find
  about the text that was left, and fails when, and as, that diagnosis does;
* without a syntactic detector, a run leaves the text as it was, also when it
  fails;
* detectors other than the syntactic one can be put in another order: they then
  find the same about the query of `s'`, their blocks come in that order,
  nothing else changes, and the categories are the same.

It holds in whatever order sets are gone through. -/
theorem diagnose_append {g : Setting} {solutions : List String} {text : String}
    {first : List DetectorKind} {s s' : Session} {log : List String}
    {found : List Finding}
    (hstart : Session.start g solutions text first = (.ok s, log))
    (hrun : run.perform s = (.ok found, s')) :
    (diagnose g solutions text first).1 = .ok found ∧
    (∀ second, (diagnose g solutions text (first ++ second)).1 =
      (diagnose g solutions s'.query.sql second).1.map (found ++ ·)) ∧
    (∀ kinds t log answer t', .syntactic ∉ kinds →
      Session.start g solutions text kinds = (.ok t, log) →
      run.perform t = (answer, t') → t'.query.sql = text) ∧
    ∀ middle middle' last all, middle.Perm middle' → .syntactic ∉ middle →
      (diagnose g solutions text (first ++ (middle ++ last))).1 = .ok all →
      ∃ (block : DetectorKind → List Finding) (rest : List Finding),
        (∀ kind ∈ middle,
          kind.inspect s'.query s'.solutions = .ok (block kind)) ∧
        all = found ++ (middle.flatMap block ++ rest) ∧
        (diagnose g solutions text (first ++ (middle' ++ last))).1 =
          .ok (found ++ (middle'.flatMap block ++ rest)) ∧
        ∃ cs cs',
          categories g solutions text (first ++ (middle ++ last)) = .ok cs ∧
          categories g solutions text (first ++ (middle' ++ last)) = .ok cs' ∧
          ∀ c, c ∈ cs ↔ c ∈ cs' := by
  obtain ⟨sols, q, hsols, hq, hfirst, hblocks, hs'⟩ :=
    blocks_of_start_run hstart hrun
  have happend := diagnose_append_of_blocks hsols hq hs'.query hfirst hblocks
  refine ⟨?_, happend, ?_, ?_⟩
  · rw [diagnose_eq_blocks hsols hq hfirst, hblocks]
  · intro kinds t log answer t' hkinds hstart' hrun'
    obtain ⟨_, q₀, -, hq₀, -, hblocks', -⟩ := blocks_of_start_run hstart' hrun'
    have hleft := congrArg Prod.snd hblocks'
    rw [blocks_left_of_not_syntactic hkinds] at hleft
    rw [← show q₀ = t'.query from hleft, Reader.sql_of_read hq₀]
  · intro middle middle' last all hperm hmiddle hall
    have hbase := not_base_of_diagnose hsols hq hall
    have hbase' : .base ∉ first ++ (middle' ++ last) := fun h =>
      hbase (((hperm.append_right last).append_left first).mem_iff.mpr h)
    have heq := diagnose_append_eq_blocks hsols hq hblocks hbase
    obtain ⟨more, hmore, rfl⟩ := Answer.map_eq_ok_iff.mp (heq.symm.trans hall)
    obtain ⟨block, rest, hblock, rfl, hother⟩ := blocks_perm hperm hmiddle hmore
    have hall' : (diagnose g solutions text (first ++ (middle' ++ last))).1 =
        .ok (found ++ (middle'.flatMap block ++ rest)) := by
      rw [diagnose_append_eq_blocks hsols hq hblocks hbase', hother]
      rfl
    rw [hs'.solutions]
    refine ⟨block, rest, hblock, rfl, hall', _, _, categories_of_diagnose hall,
      categories_of_diagnose hall', ?_⟩
    intro c
    have hfindings :=
      ((hperm.flatMap_right block).append_right rest).append_left found
    rw [mem_members, mem_members]
    exact (hfindings.map (·.category)).mem_iff

/-- The detectors that come after a syntactic one look at the text that it has
corrected. -/
theorem diagnose_append_equation :
    ∃ s s' : Session, ∃ found,
      Session.start .equations [] "a==1;;" [.syntactic] = (.ok s, []) ∧
      run.perform s = (.ok found, s') ∧ s'.query.sql = "a=1;" ∧
      (diagnose .equations [] "a==1;;"
          ([.syntactic] ++ [.semantic, .syntactic])).1 =
        (diagnose .equations [] "a=1;" [.semantic, .syntactic]).1.map
          (found ++ ·) := by
  have hstart := @Session.start_equations [.syntactic] (by decide)
  generalize hs : Session.withDetectors _ _ = s at hstart
  have hok : (run.perform s).1.isOk = true := by
    rw [← hs]
    decide +kernel
  have hleft : (run.perform s).2.query.sql = "a=1;" := by
    rw [← hs]
    decide +kernel
  rcases hrun : run.perform s with ⟨f | found, s'⟩
  · rw [hrun] at hok
    cases hok
  · rw [hrun] at hleft
    have happend := (diagnose_append hstart hrun).2.1 [.semantic, .syntactic]
    rw [show s'.query.sql = _ from hleft] at happend
    exact ⟨s, s', found, hstart, hrun, hleft, happend⟩

end SqlDiagnosis
