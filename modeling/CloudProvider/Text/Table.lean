/-!
# Tables of code points

The rows of a table ascend by their code points, and no two rows share one.

* `findBy`: the row of a table that holds what is looked for, found by halving.
* `inRanges`, `valueAt?`: whether a table holds a code point, and what it says of one.
-/

namespace CloudProvider.Text

variable {α : Type}

/-- The row that holds what is looked for, among those from `lo` up to `hi`. -/
def findWithin (side : α → Ordering) (table : Array α) (lo hi : Nat) : Option α :=
  if _h : lo < hi then
    let mid := (lo + hi) / 2
    match table[mid]? with
    | none => none
    | some row =>
      match side row with
      | .lt => findWithin side table lo mid
      | .gt => findWithin side table (mid + 1) hi
      | .eq => some row
  else none
  termination_by hi - lo
  decreasing_by all_goals omega

/-- **The row that holds what is looked for.** The function `side` tells whether it is before a row,
in it or after it. -/
def findBy (side : α → Ordering) (table : Array α) : Option α :=
  findWithin side table 0 table.size

/-- Whether a code point is before an inclusive range, in it or after it. -/
def side (n first last : Nat) : Ordering :=
  if n < first then .lt else if last < n then .gt else .eq

/-- Whether one of the ranges holds a character. -/
def inRanges (ranges : Array (Nat × Nat)) (c : Char) : Bool :=
  (findBy (fun r => side c.toNat r.1 r.2) ranges).isSome

/-- What a table of inclusive ranges says of a code point. -/
def valueAt? (table : Array (Nat × Nat × α)) (n : Nat) : Option α :=
  (findBy (fun r => side n r.1 r.2.1) table).map fun r => r.2.2

end CloudProvider.Text
