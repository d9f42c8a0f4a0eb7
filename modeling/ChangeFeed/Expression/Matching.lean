import ChangeFeed.Expression.Pattern
import ChangeFeed.Expression.Scan

/-!
Matching of rules against tokens.

Of several alternatives the first that fits is taken, and nothing behind it can bring the others
back. What a rule yields at a token is kept for a second look. A matcher counts the tokens that it
looks at, because the place of the last one decides which fault is told.
-/

namespace ChangeFeed.Expression

/-- What stops a matcher. -/
inductive Stop where
  /-- The obstacle behind the last token. -/
  | obstacle
  | fault (f : Fault)
  | told (f : Fault)
  /-- Rules are nested too deeply. -/
  | tooDeep
  deriving DecidableEq, Repr

/-- A rule, the token at which it was tried, and what it yielded: nothing, or a node and the place
behind it. -/
abbrev Finding (R : Type) := R × Option (Node × Nat)

/-- Where a matcher stands. -/
structure Matcher (R : Type) where
  place : Nat
  /-- How many tokens were looked at. -/
  seen : Nat
  /-- Whether faults are looked for. -/
  complains : Bool
  /-- What was found at each token. -/
  findings : Array (List (Finding R))

/-- A matching of patterns. -/
abbrev Match (R : Type) := EStateM Stop (Matcher R)

namespace Match

variable {R : Type}

/-- How deeply rules can be nested. -/
def maxDepth : Nat := 6000

/-- The place of the next token. -/
def place : Match R Nat := return (← get).place

/-- Goes to a place. -/
def goTo (n : Nat) : Match R Unit := modify fun m => { m with place := n }

/-- Sets whether faults are looked for, and says whether they were. -/
def setComplains (b : Bool) : Match R Bool :=
  modifyGet fun m => (m.complains, { m with complains := b })

/-- The next token. -/
def peek (tokens : Tokens) : Match R Token := do
  let m ← get
  match tokens.tokens[m.place]? with
  | some t =>
    modify fun m => { m with seen := max m.seen (m.place + 1) }
    return t
  | none => throw .obstacle

/-- What was found for a rule at a place. -/
def found? [BEq R] (r : R) (place : Nat) : Match R (Option (Option (Node × Nat))) := do
  return ((← get).findings[place]?.getD []).lookup r

/-- Keeps what was found for a rule at a place. -/
def keep [BEq R] (r : R) (place : Nat) (result : Option (Node × Nat)) : Match R Unit :=
  modify fun m => { m with
    findings := m.findings.modify place fun l => (r, result) :: l.filter (·.1 != r) }

/-- Goes behind what was found, and hands on its node. -/
def take : Option (Node × Nat) → Match R (Option Node)
  | some (n, stop) => do goTo stop; return some n
  | none => return none

variable [BEq R] (rules : R → Body R) (tokens : Tokens)

mutual

/-- Matches a pattern. The second number says how deeply rules are nested. -/
def pattern : Nat → Nat → Pattern R → Match R (Option Node)
  | 0, _, _ => throw .tooDeep
  | fuel + 1, depth, p => do
    match p with
    | .terminal x =>
      let t ← peek tokens
      if x.accepts t then
        modify fun m => { m with place := m.place + 1 }
        return some (.token t)
      else return none
    | .rule r => rule fuel (depth + 1) r
    | .group choices => group fuel (depth + 1) (← place) choices
    | .optional q =>
      let start ← place
      match ← pattern fuel depth q with
      | some n => return some n
      | none =>
        goTo start
        return some .nothing
    | .many q => repeated fuel (depth + 1) q []
    | .some q =>
      match ← repeated fuel (depth + 1) q [] with
      | some (.group []) => return none
      | n => return n
    | .listed q =>
      match ← pattern fuel (depth + 1) q with
      | some n =>
        let more ← repeated fuel (depth + 1) (.row [.sign ",", q]) []
        return more.map fun ns => .group (n :: ns.nodes.map fun m => m.part 1)
      | none => return none
    | .ahead q =>
      let start ← place
      let n ← pattern fuel depth q
      goTo start
      return n.map fun _ => .nothing
    | .notAhead q =>
      let start ← place
      let n ← pattern fuel depth q
      goTo start
      return if n.isSome then none else some .nothing

/-- Matches the first of several sequences that fits. -/
def group : Nat → Nat → Nat → List (List (Pattern R)) → Match R (Option Node)
  | 0, _, _, _ => throw .tooDeep
  | _ + 1, _, _, [] => return none
  | fuel + 1, depth, start, ps :: choices => do
    if maxDepth ≤ depth then throw .tooDeep
    match ← sequence fuel depth ps [] with
    | some [n] => return some n
    | some ns => return some (.group ns)
    | none =>
      goTo start
      group fuel depth start choices

/-- Matches patterns in a row; `read` holds the nodes so far, backwards. -/
def sequence : Nat → Nat → List (Pattern R) → List Node → Match R (Option (List Node))
  | 0, _, _, _ => throw .tooDeep
  | _ + 1, _, [], read => return some read.reverse
  | fuel + 1, depth, p :: ps, read => do
    match ← pattern fuel depth p with
    | some n => sequence fuel depth ps (n :: read)
    | none => return none

/-- Matches a pattern as often as it fits. -/
def repeated : Nat → Nat → Pattern R → List Node → Match R (Option Node)
  | 0, _, _, _ => throw .tooDeep
  | fuel + 1, depth, p, read => do
    if maxDepth ≤ depth then throw .tooDeep
    let start ← place
    match ← pattern fuel depth p with
    | some n => repeated fuel depth p (n :: read)
    | none =>
      goTo start
      return some (.group read.reverse)

/-- Matches a rule, or recalls what was found for it. -/
def rule : Nat → Nat → R → Match R (Option Node)
  | 0, _, _ => throw .tooDeep
  | fuel + 1, depth, r => do
    if maxDepth ≤ depth then throw .tooDeep
    let body := rules r
    let start ← place
    if body.keeps || body.grows then
      let _ ← peek tokens
      match ← found? r start with
      | some result => take result
      | none =>
        if body.grows then
          keep r start none
          grown fuel (depth + 1) r body start none
        else
          let n ← alternatives fuel depth start body.alternatives
          let stop ← place
          keep r start (n.map fun n => (n, stop))
          return n
    else if body.quiet then
      let complained ← setComplains false
      let n ← alternatives fuel depth start body.alternatives
      let _ ← setComplains complained
      return n
    else alternatives fuel depth start body.alternatives

/-- Matches a rule that may start with itself again and again, as long as it gets longer. -/
def grown : Nat → Nat → R → Body R → Nat → Option (Node × Nat) → Match R (Option Node)
  | 0, _, _, _, _, _ => throw .tooDeep
  | fuel + 1, depth, r, body, start, best => do
    if maxDepth ≤ depth then throw .tooDeep
    goTo start
    match ← alternatives fuel depth start body.alternatives with
    | some n =>
      let stop ← place
      if (best.map Prod.snd).getD start < stop then
        keep r start (some (n, stop))
        grown fuel depth r body start (some (n, stop))
      else take best
    | none => take best

/-- Matches the first alternative that fits. -/
def alternatives : Nat → Nat → Nat → List (Alternative R) → Match R (Option Node)
  | 0, _, _, _ => throw .tooDeep
  | _ + 1, _, _, [] => return none
  | fuel + 1, depth, start, a :: as => do
    if a.complains && !(← get).complains then alternatives fuel depth start as
    else
      goTo start
      match ← sequence fuel depth a.parts [] with
      | none => alternatives fuel depth start as
      | some ns =>
        match ← sequence fuel depth a.committed [] with
        | none => return none
        | some ms =>
          let stop ← place
          let level := match tokens.tokens[stop - 1]? with
            | some t => t.level
            | none => 0
          match a.build (ns ++ ms) level with
          | .node n => return some n
          | .refused => return none
          | .fault f => throw (.fault f)
          | .told f => throw (.told f)

end

end Match

end ChangeFeed.Expression
