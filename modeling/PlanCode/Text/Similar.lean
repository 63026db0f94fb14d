/-!
# Similar words

Two words are compared by the characters that they have in common in order: a
longest common run, and then what lies before and after it. Twice their number,
out of all characters, measures how similar the words are.

* `common_nil`: nothing has nothing in common with any word.
-/
namespace PlanCode.Text

/-- The length of the common beginning of two texts. -/
def commonStart : List Char → List Char → Nat
  | a :: as, b :: bs => if a = b then commonStart as bs + 1 else 0
  | _, _ => 0

/-- The first longest run of characters that two texts share: its place in each, and its length. -/
def longestRun (a b : List Char) : Nat × Nat × Nat :=
  (List.range a.length).foldl (fun best i =>
    (List.range b.length).foldl (fun best j =>
      let length := commonStart (a.drop i) (b.drop j)
      if best.2.2 < length then (i, j, length) else best) best) (0, 0, 0)

def commonFrom : Nat → List Char → List Char → Nat
  | 0, _, _ => 0
  | fuel + 1, a, b =>
    let (i, j, length) := longestRun a b
    if length = 0 then 0
    else length + commonFrom fuel (a.take i) (b.take j) +
      commonFrom fuel (a.drop (i + length)) (b.drop (j + length))

/-- How many characters two texts share in order. -/
def common (a b : List Char) : Nat := commonFrom (a.length + 1) a b

theorem common_nil (b : List Char) : common [] b = 0 := by
  simp [common, commonFrom, longestRun]

/-- Three in five characters have to be shared. -/
def isSimilar (word candidate : String) : Bool :=
  3 * (word.length + candidate.length) ≤ 10 * common candidate.toList word.toList

/-- Whether the first candidate comes before the second: more similar, or else later in order. -/
def isCloser (word a b : String) : Bool :=
  let score (c other : String) : Nat :=
    common c.toList word.toList * (other.length + word.length)
  if score a b = score b a then b ≤ a else score b a < score a b

/-- At most three candidates that are similar to a word, the closest first. -/
def similarTo (word : String) (candidates : List String) : List String :=
  ((candidates.filter (isSimilar word)).mergeSort (isCloser word)).take 3

end PlanCode.Text
