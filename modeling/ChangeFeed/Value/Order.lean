import ChangeFeed.Value.Misuse

/-!
The order of values, and sorting by it.

Numbers of all kinds are compared by what they are worth, texts and lists by their first difference.
All other pairs of values have no order, and a sort finds that out with the first pair of them that
it looks at.
-/

namespace ChangeFeed.Value

mutual

/-- Whether two values are equal, numbers being what they are worth. -/
def equal : Value → Value → Bool
  | .list vs, .list ws => allEqual vs ws
  | v, w =>
    match v.quantity?, w.quantity? with
    | some a, some b => a.same b
    | _, _ => v == w

/-- Whether two lists have equal elements. -/
def allEqual : List Value → List Value → Bool
  | [], [] => true
  | v :: vs, w :: ws => equal v w && allEqual vs ws
  | _, _ => false

end

/-- The sign for one direction of a comparison. -/
def orderSign (above : Bool) : Text := if above then ">" else "<"

mutual

/-- Whether a value is above another one, or below it unless `above` is set. -/
def compare (above : Bool) : Value → Value → Except Misuse Bool
  | .text t, .text u => .ok !(if above then Text.le t u else Text.le u t)
  | .list vs, .list ws => compareLists above vs ws
  | v, w =>
    match v.quantity?, w.quantity? with
    | some a, some b => .ok (if above then b.isBelow a else a.isBelow b)
    | _, _ => .error (.notOrdered (orderSign above) v.kindName w.kindName)

/-- The comparison of two lists: that of their first elements that differ, or else of lengths. -/
def compareLists (above : Bool) : List Value → List Value → Except Misuse Bool
  | [], [] => .ok false
  | [], _ :: _ => .ok !above
  | _ :: _, [] => .ok above
  | v :: vs, w :: ws => if equal v w then compareLists above vs ws else compare above v w

end

/-- The value less one; it has to be a number. -/
def lessOne : Value → Except Misuse Value
  | .int n => .ok (.int (n - 1))
  | .bool b => .ok (.int ((if b then 1 else 0) - 1))
  | .real x => .ok (.real (x.add (.ofSigned (-1) 1)))
  | v => .error (.notReduced v.kindName)

section sorting

variable {α ε : Type}

/-- The elements at the start that go on falling, or else go on not falling, behind those of `run`,
which stands backwards; and the other elements. -/
def splitRun (less : α → α → Except ε Bool) (falling : Bool) (run : List α) :
    List α → Except ε (List α × List α)
  | [] => .ok (run.reverse, [])
  | x :: xs =>
    match run with
    | [] => splitRun less falling [x] xs
    | y :: _ => do
      if (← less x y) = falling then splitRun less falling (x :: run) xs
      else return (run.reverse, x :: xs)

/-- The place for a new element behind all elements that it is not less than, found by halving what
lies between two places; as often as `fuel` allows. -/
def placeFor (less : α → α → Except ε Bool) (x : α) (xs : List α) :
    Nat → Nat → Nat → Except ε Nat
  | 0, start, _ => .ok start
  | fuel + 1, start, stop =>
    let middle := start + (stop - start) / 2
    match if start < stop then xs[middle]? else none with
    | none => .ok start
    | some y => do
      if ← less x y then placeFor less x xs fuel start middle
      else placeFor less x xs fuel (middle + 1) stop

/-- Sorted elements with a new one in its place. -/
def insertSorted (less : α → α → Except ε Bool) (xs : List α) (x : α) : Except ε (List α) := do
  let place ← placeFor less x xs (xs.length + 1) 0 xs.length
  return xs.take place ++ x :: xs.drop place

/-- The elements in order; elements of which none is less keep their order. -/
def sortWith (less : α → α → Except ε Bool) : List α → Except ε (List α)
  | x :: y :: rest => do
    let falling ← less y x
    let (run, others) ← splitRun less falling [y, x] rest
    others.foldlM (insertSorted less) (if falling then run.reverse else run)
  | xs => .ok xs

end sorting

end ChangeFeed.Value
