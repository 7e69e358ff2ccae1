import Mathlib.Data.List.Perm.Subperm
import SqlDiagnosis.Check.Spelling
import SqlDiagnosis.Proofs.Collection
import SqlDiagnosis.Proofs.Insertion
import SqlDiagnosis.Proofs.WordRun

/-!
# The order of corrections

The corrections of misspelt names form a set, and a set has no order, but they
are applied one after the other, each to the text that the one before has left.
So their order matters when one of them finds something to replace in what
another has inserted. This happens: where `nme` is to be `name` in one select,
and `name` is to be `names` in another, the column of the first becomes `names`
in one order and `name` in the other.

When corrections keep clear of each other, their order does not matter. For
corrections of single words this is not only enough but also necessary.
-/

namespace SqlDiagnosis

open Rewriting

/-! ### Two substitutions -/

namespace Text

variable {old new old₁ old₂ new₁ new₂ : List Char}

/-- A text can be put together again from its runs. -/
theorem runs_injective : Function.Injective runs :=
  Function.LeftInverse.injective flatten_runs

/-- Substitutions that keep clear of each other can be exchanged. -/
theorem replaceWords_comm (h₁ : isWordEnded old₁ = true)
    (h₂ : isWordEnded old₂ = true) (hold : Apart (runs old₁) (runs old₂))
    (h₁₂ : Apart (runs old₁) (runs new₂)) (h₂₁ : Apart (runs old₂) (runs new₁))
    (text : List Char) :
    replaceWords old₁ new₁ (replaceWords old₂ new₂ text) =
      replaceWords old₂ new₂ (replaceWords old₁ new₁ text) := by
  -- on runs a substitution replaces whole words, wherever they stand
  apply runs_injective
  rw [runs_replaceWords h₁, runs_replaceWords h₂, runs_replaceWords h₂,
    runs_replaceWords h₁]
  exact replaceAll_comm (runs_ne_nil (ne_nil_of_isWordEnded h₁))
    (runs_ne_nil (ne_nil_of_isWordEnded h₂)) hold h₁₂ h₂₁ _

/-- Whether a text is a single word. -/
def isWord (text : List Char) : Bool := !text.isEmpty && text.all isWordChar

/-- A single word begins and ends with word characters. -/
theorem isWordEnded_of_isWord (h : isWord old = true) :
    isWordEnded old = true := by
  rw [isWord, Bool.and_eq_true, List.all_eq_true] at h
  have hne : old ≠ [] := by simpa using h.1
  rw [isWordEnded, List.head?_eq_some_head hne,
    List.getLast?_eq_some_getLast hne, Option.any_some, Option.any_some,
    h.2 _ (List.head_mem hne), h.2 _ (List.getLast_mem hne)]
  rfl

/-- A single word is its own and only run. -/
theorem runs_of_isWord (h : isWord old = true) : runs old = [old] := by
  rw [isWord, Bool.and_eq_true, List.all_eq_true] at h
  have hne : old ≠ [] := by simpa using h.1
  have hruns := @runs_word_append old [] hne h.2 rfl
  rwa [List.append_nil] at hruns

/-- A single word is replaced run by run. -/
theorem runs_replaceWords_of_isWord (h : isWord old = true) (text : List Char) :
    runs (replaceWords old new text) =
      (runs text).flatMap fun run =>
        if run = old then runs new else [run] := by
  rw [runs_replaceWords (isWordEnded_of_isWord h), runs_of_isWord h,
    replaceAll_singleton]

theorem replaceWords_self (h : isWord old = true) :
    replaceWords old new old = new := by
  apply runs_injective
  rw [runs_replaceWords_of_isWord h, runs_of_isWord h,
    List.flatMap_singleton, if_pos rfl]

theorem replaceWords_of_ne (h₁ : isWord old₁ = true) (h₂ : isWord old₂ = true)
    (hne : old₁ ≠ old₂) :
    replaceWords old₁ new old₂ = old₂ := by
  apply runs_injective
  rw [runs_replaceWords_of_isWord h₁, runs_of_isWord h₂, List.flatMap_singleton,
    if_neg hne.symm]

/-- Substitutions of different words can be exchanged when neither changes what
the other inserts. -/
theorem replaceWords_comm_of_isWord (h₁ : isWord old₁ = true)
    (h₂ : isWord old₂ = true) (hne : old₁ ≠ old₂)
    (h₁₂ : replaceWords old₁ new₁ new₂ = new₂)
    (h₂₁ : replaceWords old₂ new₂ new₁ = new₁) (text : List Char) :
    replaceWords old₁ new₁ (replaceWords old₂ new₂ text) =
      replaceWords old₂ new₂ (replaceWords old₁ new₁ text) := by
  have hruns₁₂ := congrArg runs h₁₂
  have hruns₂₁ := congrArg runs h₂₁
  rw [runs_replaceWords_of_isWord h₁] at hruns₁₂
  rw [runs_replaceWords_of_isWord h₂] at hruns₂₁
  apply runs_injective
  rw [runs_replaceWords_of_isWord h₁, runs_replaceWords_of_isWord h₂,
    runs_replaceWords_of_isWord h₂, runs_replaceWords_of_isWord h₁,
    List.flatMap_assoc, List.flatMap_assoc]
  congr 1
  funext run
  -- a run is one of the two words or neither
  by_cases hrun₁ : run = old₁
  · subst hrun₁
    rw [if_neg hne, if_pos rfl, List.flatMap_singleton, if_pos rfl, hruns₂₁]
  · rw [if_neg hrun₁, List.flatMap_singleton]
    by_cases hrun₂ : run = old₂
    · rw [if_pos hrun₂, hruns₁₂]
    · rw [if_neg hrun₂, List.flatMap_singleton, if_neg hrun₁]

end Text

/-! ### Corrections in some order -/

namespace Correction

variable {c d : Correction} {cs ds : List Correction} {text : String}

/-- Apply corrections one after the other. -/
def applyAll (cs : List Correction) (text : String) : Except Fault String :=
  cs.foldlM (fun text c => c.apply text) text

/-- One list holds the members of another in some order, each once. -/
def IsOrderOf (ds cs : List Correction) : Prop :=
  ds.Nodup ∧ ∀ c, c ∈ ds ↔ c ∈ cs

/-- The text after a correction, if there still is one. -/
def next (text : Option String) (c : Correction) : Option String :=
  text.bind fun text => (c.apply text).toOption

/-- The texts that corrections lead to, as a fold that may end. -/
theorem toOption_applyAll (cs : List Correction) (text : String) :
    (applyAll cs text).toOption = cs.foldl next (some text) := by
  induction cs generalizing text with
  | nil => rfl
  | cons c cs ih =>
    rw [applyAll, List.foldlM_cons, List.foldl_cons]
    rcases h : c.apply text with f | text'
    · -- once a correction has failed, there is no text for those that follow
      have hnone : ∀ ds : List Correction, ds.foldl next none = none := by
        intro ds
        induction ds with
        | nil => rfl
        | cons d ds ih => exact ih
      rw [next, Option.bind_some, h]
      exact (hnone cs).symm
    · rw [next, Option.bind_some, h]
      exact ih text'

theorem next_of_inserted {new : List Char} (h : c.inserted = .ok new)
    (text : String) :
    next (some text) c =
      some (String.ofList
        (Text.replaceWords c.written.toList new text.toList)) := by
  rw [next, Option.bind_some, apply_of_inserted h]
  rfl

theorem next_of_not_inserted {f : Fault} (h : c.inserted = .error f)
    (text : Option String) : next text c = none := by
  cases text with
  | none => rfl
  | some text =>
    rw [next, Option.bind_some, apply_eq, h]
    rfl

/-- Two corrections can be exchanged when their substitutions can, or when one
of them cannot be applied. -/
theorem next_comm
    (h : ∀ new₁ new₂, c.inserted = .ok new₁ → d.inserted = .ok new₂ → ∀ text,
      Text.replaceWords c.written.toList new₁
          (Text.replaceWords d.written.toList new₂ text) =
        Text.replaceWords d.written.toList new₂
          (Text.replaceWords c.written.toList new₁ text))
    (text : Option String) :
    next (next text c) d = next (next text d) c := by
  rcases hc : c.inserted with f | new₁
  · rw [next_of_not_inserted hc, next_of_not_inserted hc]
    rfl
  · rcases hd : d.inserted with f | new₂
    · rw [next_of_not_inserted hd, next_of_not_inserted hd]
      rfl
    · cases text with
      | none => rfl
      | some text =>
        rw [next_of_inserted hc, next_of_inserted hd, next_of_inserted hd,
          next_of_inserted hc, String.toList_ofList, String.toList_ofList,
          h new₁ new₂ hc hd]

/-- An order of a set is a permutation of any list that has its members once. -/
theorem IsOrderOf.perm (hcs : cs.Nodup) (h : IsOrderOf ds cs) : ds.Perm cs :=
  (List.perm_ext_iff_of_nodup h.1 hcs).mpr h.2

theorem IsOrderOf.of_perm {ds' : List Correction} (h : IsOrderOf ds cs)
    (hperm : ds.Perm ds') : IsOrderOf ds' cs :=
  ⟨hperm.nodup_iff.mp h.1, fun c => hperm.mem_iff.symm.trans (h.2 c)⟩

/-- Any two corrections may come last. -/
theorem isOrderOf_filter_append (hcs : cs.Nodup) (hc : c ∈ cs) (hd : d ∈ cs)
    (hcd : c ≠ d) :
    IsOrderOf ((cs.filter fun e => e ≠ c ∧ e ≠ d) ++ [c, d]) cs := by
  constructor
  · refine List.nodup_append'.mpr
      ⟨hcs.filter _, by simpa using hcd, fun e he hlast => ?_⟩
    rw [List.mem_filter, decide_eq_true_eq] at he
    simp [he.2.1, he.2.2] at hlast
  · intro e
    rw [List.mem_append, List.mem_filter, decide_eq_true_eq, List.mem_pair]
    constructor
    · rintro (⟨he, -⟩ | rfl | rfl)
      · exact he
      · exact hc
      · exact hd
    · intro he
      -- a correction is one of the two or remains in front of them
      by_cases hec : e = c
      · exact .inr (.inl hec)
      · by_cases hed : e = d
        · exact .inr (.inr hed)
        · exact .inl ⟨he, hec, hed⟩

/-- Corrections that can be exchanged two by two give the same text in every
order. -/
theorem toOption_applyAll_perm (hperm : ds.Perm cs)
    (h : ∀ c ∈ cs, ∀ d ∈ cs, c ≠ d → ∀ text,
      next (next text c) d = next (next text d) c)
    (text : String) :
    (applyAll ds text).toOption = (applyAll cs text).toOption := by
  rw [toOption_applyAll, toOption_applyAll]
  refine hperm.foldl_eq' ?_ (some text)
  intro c hc d hd text
  by_cases hcd : c = d
  · rw [hcd]
  · exact h c (hperm.mem_iff.mp hc) d (hperm.mem_iff.mp hd) hcd text

/-! ### Corrections that keep clear of each other -/

/-- What each of two corrections looks for overlaps neither what the other looks
for nor what the other inserts. -/
structure Independent (c d : Correction) : Prop where
  written : Apart (Text.runs c.written.toList) (Text.runs d.written.toList)
  left : ∀ new, d.inserted = .ok new →
      Apart (Text.runs c.written.toList) (Text.runs new)
  right : ∀ new, c.inserted = .ok new →
      Apart (Text.runs d.written.toList) (Text.runs new)

theorem Independent.symm (h : c.Independent d) : d.Independent c :=
  ⟨h.written.symm, h.right, h.left⟩

/-- Independent corrections can be exchanged. -/
theorem Independent.next_comm (h : c.Independent d)
    (hc : Text.isWordEnded c.written.toList = true)
    (hd : Text.isWordEnded d.written.toList = true) (text : Option String) :
    next (next text c) d = next (next text d) c := by
  refine Correction.next_comm (fun new₁ new₂ h₁ h₂ => ?_) text
  exact Text.replaceWords_comm hc hd h.written (h.left new₂ h₂)
    (h.right new₁ h₁)

/-- A correction changes nothing in what another inserts. -/
def Leaves (d c : Correction) : Prop :=
  ∀ new, c.inserted = .ok new →
    d.apply (String.ofList new) = .ok (String.ofList new)

theorem Leaves.replaceWords_eq (h : d.Leaves c) {new₁ new₂ : List Char}
    (hc : c.inserted = .ok new₁) (hd : d.inserted = .ok new₂) :
    Text.replaceWords d.written.toList new₂ new₁ = new₁ := by
  have happly := h new₁ hc
  rw [apply_of_inserted hd, String.toList_ofList] at happly
  exact String.ofList_injective (Except.ok.inj happly)

/-- Corrections of different words can be exchanged when each leaves what the
other inserts. -/
theorem Leaves.next_comm (hcd : d.Leaves c) (hdc : c.Leaves d)
    (hc : Text.isWord c.written.toList = true)
    (hd : Text.isWord d.written.toList = true) (hne : c.written ≠ d.written)
    (text : Option String) :
    next (next text c) d = next (next text d) c := by
  refine Correction.next_comm (fun new₁ new₂ h₁ h₂ => ?_) text
  exact Text.replaceWords_comm_of_isWord hc hd
    (fun h => hne (String.toList_injective h)) (hdc.replaceWords_eq h₂ h₁)
    (hcd.replaceWords_eq h₁ h₂)

/-- Corrections of other words leave a word as it is. -/
theorem foldl_next_of_ne {word : String}
    (hword : Text.isWord word.toList = true)
    (h : ∀ c ∈ cs, Text.isWord c.written.toList = true ∧
      (∃ new, c.inserted = .ok new) ∧ c.written ≠ word) :
    cs.foldl next (some word) = some word := by
  induction cs with
  | nil => rfl
  | cons c cs ih =>
    obtain ⟨hc, ⟨new, hnew⟩, hne⟩ := h c List.mem_cons_self
    rw [List.foldl_cons, next_of_inserted hnew,
      Text.replaceWords_of_ne hc hword
        (fun heq => hne (String.toList_injective heq)), String.ofList_toList]
    exact ih fun d hd => h d (List.mem_cons_of_mem c hd)

/-- Every order leads to the same text, so also two orders that differ only in
which of two corrections comes last. If the text is the word that one of them
replaces, the other must leave what is inserted for it. -/
theorem leaves_of_order (hwords : ∀ c ∈ cs, Text.isWord c.written.toList = true)
    (hone : ∀ c ∈ cs, ∀ d ∈ cs, c.written = d.written → c = d)
    (hinserted : ∀ c ∈ cs, ∃ new, c.inserted = .ok new)
    (hcs : cs.Nodup)
    (h : ∀ ds, IsOrderOf ds cs → ∀ text,
      (applyAll ds text).toOption = (applyAll cs text).toOption)
    (hc : c ∈ cs) (hd : d ∈ cs) (hcd : c ≠ d) : d.Leaves c := by
  intro new₁ h₁
  obtain ⟨new₂, h₂⟩ := hinserted d hd
  have horder := isOrderOf_filter_append hcs hc hd hcd
  have hswapped := horder.of_perm ((List.Perm.swap d c []).append_left _)
  have hboth := (h _ horder c.written).trans (h _ hswapped c.written).symm
  -- the other corrections do not touch the word
  have hrest : (cs.filter fun e => e ≠ c ∧ e ≠ d).foldl next (some c.written) =
      some c.written := by
    refine foldl_next_of_ne (hwords c hc) fun e he => ?_
    rw [List.mem_filter, decide_eq_true_eq] at he
    exact ⟨hwords e he.1, hinserted e he.1,
      fun heq => he.2.1 (hone e he.1 c hc heq)⟩
  have hne : d.written.toList ≠ c.written.toList :=
    fun heq => hcd (hone c hc d hd (String.toList_injective heq.symm))
  rw [toOption_applyAll, toOption_applyAll, List.foldl_append,
    List.foldl_append, hrest] at hboth
  simp only [List.foldl_cons, List.foldl_nil, next_of_inserted h₁,
    next_of_inserted h₂, Text.replaceWords_self (hwords c hc),
    Text.replaceWords_of_ne (hwords d hd) (hwords c hc) hne,
    String.toList_ofList] at hboth
  rw [apply_of_inserted h₂, String.toList_ofList]
  exact congrArg Except.ok (Option.some.inj hboth)

end Correction

/-! ### Misspelt names -/

open Correction

/-- Each correction is collected once. -/
theorem Spelling.nodup_corrections {q : Query} {cs : List Correction}
    (h : columnCorrections q = .ok cs ∨ tableCorrections q = .ok cs) :
    cs.Nodup := by
  have hcollect : ∀ nodes correct, collect q nodes correct = .ok cs →
      cs.Nodup := by
    intro nodes correct hcs
    obtain ⟨found, -, hfound⟩ := Answer.bind_eq_ok_iff.mp hcs
    cases hfound
    exact nodup_members _
  rcases h with h | h
  · exact hcollect _ _ h
  · exact hcollect _ _ h

/-- **The order of corrections.** The corrections of the misspelt columns of a
query, or of its misspelt tables, form a set, which may be gone through in any
order.

* If all of them begin and end with word characters and any two are independent,
  then every order leads to the same text, whatever the text is that they are
  applied to.
* If all of them are corrections of single words, one for each word, then every
  order leads to the same text *exactly* when none of them changes what another
  inserts. -/
theorem Spelling.corrections_order {q : Query} {cs : List Correction}
    (hcs : columnCorrections q = .ok cs ∨ tableCorrections q = .ok cs) :
    ((∀ c ∈ cs, Text.isWordEnded c.written.toList = true) →
      (∀ c ∈ cs, ∀ d ∈ cs, c ≠ d → c.Independent d) →
      ∀ ds, IsOrderOf ds cs → ∀ text,
        (applyAll ds text).toOption = (applyAll cs text).toOption) ∧
    ((∀ c ∈ cs, Text.isWord c.written.toList = true) →
      (∀ c ∈ cs, ∀ d ∈ cs, c.written = d.written → c = d) →
      (∀ c ∈ cs, ∃ new, c.inserted = .ok new) →
      ((∀ ds, IsOrderOf ds cs → ∀ text,
          (applyAll ds text).toOption = (applyAll cs text).toOption) ↔
        ∀ c ∈ cs, ∀ d ∈ cs, c ≠ d → d.Leaves c)) := by
  have hnodup := nodup_corrections hcs
  constructor
  · intro hended hindependent ds hds text
    refine toOption_applyAll_perm (hds.perm hnodup) ?_ text
    intro c hc d hd hcd text
    exact (hindependent c hc d hd hcd).next_comm (hended c hc)
      (hended d hd) text
  · intro hwords hone hinserted
    constructor
    · intro h c hc d hd hcd
      exact leaves_of_order hwords hone hinserted hnodup h hc hd hcd
    · intro hleaves ds hds text
      refine toOption_applyAll_perm (hds.perm hnodup) ?_ text
      intro c hc d hd hcd text
      exact (hleaves c hc d hd hcd).next_comm (hleaves d hd c hc hcd.symm)
        (hwords c hc) (hwords d hd)
        (fun heq => hcd (hone c hc d hd heq)) text

/-- A name as it stands in a tree. -/
def Arg.word (s : String) : Arg :=
  .node (.build .identifier .none [("this", .value (.text s))])

/-- A column in a tree. -/
def Node.columnRef (column : String) : Node :=
  .build .column { NodeFacts.none with name := some column }
    [("this", .word column)]

/-- A table in a tree, with another name for it. -/
def Node.tableRef (table other : String) : Node :=
  .build .table { NodeFacts.none with realName := some table }
    [("this", .word table), ("alias", .word other)]

/-- A query with one select for each of these trees, from one table with the
columns given beside it. -/
def Query.referring (catalog : Catalog)
    (references : List (Node × List String)) : Query :=
  let select := fun reference : Node × List String =>
    let block : QueryBlock :=
      ⟨"", some reference.1, none, [],
        [⟨some "t", some "t", none, none, reference.2.map some⟩], catalog,
        "public", [], false, false, false, false, ⟨none, [], []⟩, []⟩
    (⟨block, block, block, [], []⟩ : Select)
  ⟨⟨[], references.map select, [], [], ⟨⟨none, [], []⟩, []⟩, []⟩, ""⟩

namespace Spelling

/-- A query that misspells two tables. -/
def twoTables : Query :=
  .referring ⟨[⟨"public", ["items", "orders"]⟩]⟩
    [(.tableRef "itms" "i", []), (.tableRef "odrers" "o", [])]

/-- The corrections of a query that misspells two tables. -/
def twoTableCorrections : List Correction :=
  [⟨"itms AS i", "\"items\" AS i"⟩, ⟨"odrers AS o", "\"orders\" AS o"⟩]

/-- Two misspelt tables, each with another name behind it, are corrected in
either order. -/
theorem corrections_order_twoTables :
    tableCorrections twoTables = .ok twoTableCorrections ∧
    ∀ ds, IsOrderOf ds twoTableCorrections → ∀ text,
      (applyAll ds text).toOption =
        (applyAll twoTableCorrections text).toOption := by
  have hcs : tableCorrections twoTables = .ok twoTableCorrections :=
    Answer.eq_ok_of_toOption (by decide +kernel)
  have hindependent : Independent ⟨"itms AS i", "\"items\" AS i"⟩
      ⟨"odrers AS o", "\"orders\" AS o"⟩ := by
    refine ⟨by decide +kernel, ?_, ?_⟩
    · rw [inserted_of_plain (by decide +kernel)]
      rintro new ⟨⟩
      decide +kernel
    · rw [inserted_of_plain (by decide +kernel)]
      rintro new ⟨⟩
      decide +kernel
  refine ⟨hcs, (corrections_order (.inr hcs)).1 (by decide +kernel) ?_⟩
  intro c hc d hd hcd
  simp only [twoTableCorrections, List.mem_cons, List.not_mem_nil,
    or_false] at hc hd
  rcases hc with rfl | rfl <;> rcases hd with rfl | rfl
  · exact absurd rfl hcd
  · exact hindependent
  · exact hindependent.symm
  · exact absurd rfl hcd

/-- What is inserted for one misspelt column is itself a misspelt column of
another select, and two orders lead to different texts. -/
theorem corrections_order_chain :
    columnCorrections
        (.referring ⟨[]⟩
          [(.columnRef "nme", ["name"]), (.columnRef "name", ["names"])]) =
      .ok [⟨"nme", "\"name\""⟩, ⟨"name", "\"names\""⟩] ∧
    (applyAll [⟨"nme", "\"name\""⟩, ⟨"name", "\"names\""⟩]
        "SELECT nme FROM t").toOption =
      some "SELECT \"\"names\"\" FROM t" ∧
    (applyAll [⟨"name", "\"names\""⟩, ⟨"nme", "\"name\""⟩]
        "SELECT nme FROM t").toOption =
      some "SELECT \"name\" FROM t" := by
  refine ⟨Answer.eq_ok_of_toOption ?_, ?_, ?_⟩
  · decide +kernel
  · decide +kernel
  · decide +kernel

end Spelling

end SqlDiagnosis
