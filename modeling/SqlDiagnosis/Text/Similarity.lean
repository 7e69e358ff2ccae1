/-!
# Similarity of texts

Two texts are compared by matching blocks: take the longest block that they
share, the one that starts first where several are longest, and go on with what
stands before it and after it. The similarity is twice the number of matched
characters over the number of all characters.

A long word has popular characters, which make up more than about one percent of
it. They start no block, but a block found without them grows over equal
neighbours.

The closest of several candidates is the one with the greatest similarity of at
least three fifths, and the greatest text among those.
-/

namespace SqlDiagnosis.Text

/-! ### Blocks -/

/-- A block of equal characters: where it starts in either text, and its
length. -/
structure Block where
  left : Nat
  right : Nat
  size : Nat
deriving DecidableEq, Repr

/-- The length from which on a word has popular characters. -/
def popularFrom : Nat := 200

/-- Whether a character is too frequent in a long word to start a block. -/
def isPopular (word : List Char) (c : Char) : Bool :=
  popularFrom ≤ word.length && word.length / 100 + 1 < word.count c

/-- The lengths of the shared blocks that end at the character `x` of the left
text and at each place of the right one, given those that end one character
earlier on the left. -/
def blockEnds (useful : Char → Bool) (x : Char) (right : List Char)
    (earlier : List Nat) : List Nat :=
  List.zipWith (fun c k => if c == x && useful c then k + 1 else 0)
    right (0 :: earlier)

/-- The better of the best block so far and the blocks that end at the `i`-th
character on the left and at the places from `j` on. -/
def bestOf (i : Nat) (best : Block) (j : Nat) : List Nat → Block
  | [] => best
  | k :: rest =>
    bestOf i (if best.size < k then ⟨i + 1 - k, j + 1 - k, k⟩ else best)
      (j + 1) rest

/-- The best block of the left text from its `i`-th character on. -/
def longestFrom (useful : Char → Bool) (right : List Char) (i : Nat)
    (ends : List Nat) (best : Block) : List Char → Block
  | [] => best
  | x :: rest =>
    let ends := blockEnds useful x right ends
    longestFrom useful right (i + 1) ends (bestOf i best 0 ends) rest

/-- The number of leading characters that two texts share. -/
def sharedStart : List Char → List Char → Nat
  | x :: xs, y :: ys => if x == y then sharedStart xs ys + 1 else 0
  | _, _ => 0

/-- A block grown over equal neighbours on both sides. -/
def Block.grow (b : Block) (left right : List Char) : Block :=
  let back :=
    sharedStart (left.take b.left).reverse (right.take b.right).reverse
  let ahead :=
    sharedStart (left.drop (b.left + b.size)) (right.drop (b.right + b.size))
  ⟨b.left - back, b.right - back, back + b.size + ahead⟩

/-- The longest shared block of two texts. -/
def longestBlock (useful : Char → Bool) (left right : List Char) : Block :=
  (longestFrom useful right 0 (List.replicate right.length 0)
    ⟨0, 0, 0⟩ left).grow left right

/-- The number of characters that lie in matching blocks. -/
def matchedChars (useful : Char → Bool) (left right : List Char) : Nat :=
  match longestBlock useful left right with
  | ⟨i, j, size⟩ =>
    if _ : 0 < size ∧ i + size ≤ left.length then
      matchedChars useful (left.take i) (right.take j) + size +
        matchedChars useful (left.drop (i + size)) (right.drop (j + size))
    else 0
termination_by left.length
decreasing_by
  all_goals simp only [List.length_take, List.length_drop]
  all_goals omega

/-! ### Similarity -/

/-- A similarity, as a fraction. -/
structure Ratio where
  num : Nat
  den : Nat
deriving DecidableEq, Repr

/-- One fraction is at most another. -/
def Ratio.le (p q : Ratio) : Bool := p.num * q.den ≤ q.num * p.den

/-- The similarity that a candidate needs. -/
def Ratio.threshold : Ratio := ⟨3, 5⟩

/-- The similarity of a candidate and a word; two empty texts are equal. -/
def similarity (candidate word : List Char) : Ratio :=
  let total := candidate.length + word.length
  if total = 0 then ⟨1, 1⟩
  else ⟨2 * matchedChars (!isPopular word ·) candidate word, total⟩

/-! ### The closest candidate -/

/-- Whether a scored candidate comes before another: by similarity, then by
text. -/
def scoredBefore (p q : Ratio × String) : Bool :=
  !q.1.le p.1 || (p.1.le q.1 && p.2 < q.2)

/-- The greatest of the scored candidates. -/
def greatestScored : List (Ratio × String) → Option (Ratio × String)
  | [] => none
  | p :: rest =>
    match greatestScored rest with
    | none => some p
    | some q => some (if scoredBefore p q then q else p)

/-- The candidates with their similarity to a word, as far as it is
sufficient. -/
def scoredCandidates (word : String) (candidates : List String) :
    List (Ratio × String) :=
  (candidates.map fun c => (similarity c.toList word.toList, c)).filter
    (Ratio.threshold.le ·.1)

/-- The candidate that is closest to a word, if any is close enough. -/
def closest? (word : String) (candidates : List String) : Option String :=
  (greatestScored (scoredCandidates word candidates)).map (·.2)

end SqlDiagnosis.Text
