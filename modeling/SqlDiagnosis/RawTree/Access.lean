import SqlDiagnosis.Value

/-!
# Access to raw trees

A raw tree is a value that is expected to be a record with a `class` and a
record `args` of arguments, and so on below. Nothing guarantees this, so every
access can fail. There are two kinds of access besides walking through the
elements of a value: asking a record for a member that may be absent, and
picking a part that has to be there.
-/

namespace SqlDiagnosis.Value

/-- The member of a record under a key, if it has one. Only records can be
asked. -/
def member? (v : Value) (key : String) : Except Fault (Option Value) :=
  match v with
  | record fields => .ok (fields.lookup key)
  | v => .error (.noMember v.shape "get")

/-- The part of a record under a key, which has to be there. -/
def part (v : Value) (key : String) : Except Fault Value :=
  match v with
  | record fields =>
    match fields.lookup key with
    | some w => .ok w
    | none => .error (.noKey key)
  | text _ => .error .textByName
  | list _ => .error .listByName
  | v => .error (.noParts v.shape)

/-- The part at the end of a path of keys. -/
def partAt (v : Value) (keys : List String) : Except Fault Value :=
  keys.foldlM part v

/-! ### Nodes -/

/-- The member `class` of a node, or null. -/
def nodeClass (v : Value) : Except Fault Value :=
  return (← v.member? "class").getD null

/-- The record of arguments of a node, empty if there is none. -/
def nodeArgs (v : Value) : Except Fault Value :=
  return (← v.member? "args").getD (record [])

/-- An argument of a node, if it has one of that name. -/
def arg? (v : Value) (name : String) : Except Fault (Option Value) :=
  do (← v.nodeArgs).member? name

/-! ### Sizes

What is found in a tree is smaller than the tree, which is why walking down a
tree ends. -/

theorem sizeOf_lookup_lt {fields : List (String × Value)} {key : String}
    {w : Value} (h : fields.lookup key = some w) :
    sizeOf w < sizeOf fields := by
  induction fields with
  | nil => simp at h
  | cons field rest ih =>
    obtain ⟨k, v⟩ := field
    simp only [List.lookup_cons] at h
    simp only [List.cons.sizeOf_spec, Prod.mk.sizeOf_spec]
    split at h
    · cases h; omega
    · have := ih h; omega

theorem sizeOf_member?_lt {v w : Value} {key : String}
    (h : v.member? key = .ok (some w)) :
    sizeOf w < sizeOf v := by
  cases v with
  | record fields =>
    simp only [member?, Except.ok.injEq] at h
    have := sizeOf_lookup_lt h
    simp only [record.sizeOf_spec]
    omega
  | _ => simp [member?] at h

theorem sizeOf_arg?_lt {v w : Value} {name : String}
    (h : v.arg? name = .ok (some w)) :
    sizeOf w < sizeOf v := by
  simp only [arg?, nodeArgs, bind, Except.bind, pure, Except.pure] at h
  split at h
  · simp at h
  · rename_i args hargs
    split at hargs
    · simp at hargs
    · rename_i found hfound
      cases hargs
      cases found with
      | none => simp [member?] at h
      | some a =>
        have h₁ := sizeOf_member?_lt hfound
        have h₂ := sizeOf_member?_lt h
        simp only [Option.getD_some] at h₂
        omega

end SqlDiagnosis.Value
