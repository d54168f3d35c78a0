/-
# Close matches

When a name is unknown, the error proposes names that look like it.  Likeness
is the share of characters that two texts have in common: take the longest
common run, earliest in the candidate and then earliest in the word, and count
on in the parts to its left and to its right.  With `m` characters in common,
texts of lengths `a` and `b` are alike to the degree `2 m / (a + b)`.

In a word of 200 characters or more a character that is very frequent cannot
start a run; a run that was found is still extended over it on both sides.

`closeMatches` keeps the candidates of degree at least `3 / 5` and returns the
three best, the greater text first where degrees are equal.  Degrees are
compared as exact fractions.
-/

namespace RecordBridge
namespace Text
namespace Similarity

/-- The length of the common run at the front. -/
def commonRun : List Char → List Char → Nat
  | x :: xs, y :: ys => if x = y then commonRun xs ys + 1 else 0
  | _, _ => 0

/-- A run of `size` characters, at `left` in the candidate and at `right` in
the word. -/
structure Run where
  left : Nat
  right : Nat
  size : Nat
  deriving DecidableEq, Repr

/-- The longer of two runs, the first one if they are of one length. -/
def Run.better (r s : Run) : Run := if r.size < s.size then s else r

/-- The lengths of the runs that start with `x`, one for each suffix of the
word.  `next` holds those of the candidate without `x`. -/
def runLengths (startable : Char → Bool) (word : List Char) (x : Char) (next : List Nat) :
    List Nat :=
  if startable x then
    List.zipWith (fun y n => if x = y then n + 1 else 0) word (next.drop 1 ++ [0])
  else word.map fun _ => 0

/-- The best run in a row of lengths. -/
def bestInRow (left : Nat) : List Nat → Nat → Run → Run
  | [], _, best => best
  | n :: ns, right, best => bestInRow left ns (right + 1) (best.better ⟨left, right, n⟩)

/-- The row of the given candidate suffix, and the best run from there on. -/
def bestFrom (startable : Char → Bool) (word : List Char) : List Char → Nat → List Nat × Run
  | [], left => (word.map fun _ => 0, ⟨left, 0, 0⟩)
  | x :: xs, left =>
    let (next, later) := bestFrom startable word xs (left + 1)
    let row := runLengths startable word x next
    (row, (bestInRow left row 0 ⟨left, 0, 0⟩).better later)

/-- A run extended over equal characters on both sides. -/
def Run.extend (xs ys : List Char) (r : Run) : Run :=
  let before := commonRun (xs.take r.left).reverse (ys.take r.right).reverse
  let after := commonRun (xs.drop (r.left + r.size)) (ys.drop (r.right + r.size))
  ⟨r.left - before, r.right - before, before + r.size + after⟩

/-- The characters in common, by the longest run and then its two sides.  The
fuel bounds the number of nested runs; the length of the candidate is enough. -/
def inCommon (startable : Char → Bool) : Nat → List Char → List Char → Nat
  | 0, _, _ => 0
  | fuel + 1, xs, ys =>
    let r := (bestFrom startable ys xs 0).2.extend xs ys
    if r.size = 0 then 0
    else
      inCommon startable fuel (xs.take r.left) (ys.take r.right) + r.size
        + inCommon startable fuel (xs.drop (r.left + r.size)) (ys.drop (r.right + r.size))

/-- The characters of the word that may not start a run. -/
def frequentIn (word : List Char) : List Char :=
  if word.length < 200 then []
  else word.eraseDups.filter fun c => word.length / 100 + 1 < word.count c

/-- How alike two texts are: `2 * common` of `total` characters. -/
structure Degree where
  common : Nat
  total : Nat
  deriving DecidableEq, Repr

/-- The degree to which a candidate is like the word.  Two empty texts are
fully alike. -/
def degree (word candidate : String) : Degree :=
  let ys := word.toList
  let xs := candidate.toList
  let frequent := frequentIn ys
  if xs.isEmpty && ys.isEmpty then ⟨1, 2⟩
  else
    ⟨inCommon (!frequent.contains ·) (xs.length + 1) xs ys, xs.length + ys.length⟩

/-- Whether the degree is at least three fifths. -/
def Degree.isClose (d : Degree) : Bool := 3 * d.total ≤ 10 * d.common

/-- Whether a scored candidate goes before another one. -/
def before (x y : Degree × String) : Bool :=
  let l := x.1.common * y.1.total
  let r := y.1.common * x.1.total
  r < l || (r = l && decide (y.2 ≤ x.2))

end Similarity

/-- The three candidates most like the word, of those that are close to it. -/
def closeMatches (word : String) (candidates : List String) : List String :=
  let scored := candidates.map fun c => (Similarity.degree word c, c)
  let close := scored.filter fun x => x.1.isClose
  ((close.mergeSort Similarity.before).take 3).map (·.2)

end Text
end RecordBridge
