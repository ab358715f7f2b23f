import Newtype.Syntax.Expr

/-!
# Where an expression stands

Whether an expression needs parentheses depends on what stands around it: the
operators before and behind it, and whether it starts a statement or an arm of a match
or stands in a condition, where a brace would start the block.

* `Placement` — what stands around an expression.
* `Placement.leftOf`, `Placement.baseOf`, `Placement.rightOf` — the placement of an
  operand.
* `Placement.encloses` — where parentheses are needed whatever the operators are.
* `Scan`, `scanRight`, `scanLeft` — how far an expression would reach if it were read
  without parentheses.
* `Placement.leftLevel`, `Placement.rightLevel` — how tightly an operand holds together
  where it stands.
-/

namespace Newtype

/-- What stands around an expression. -/
structure Placement where
  /-- the level of the operator before it -/
  previous : Level := Level.jump
  /-- the level of the operator behind it; the lowest if there is none -/
  next : Level := Level.jump
  /-- it is a statement -/
  statement : Bool := false
  /-- it starts a statement that goes on with an operator -/
  leadsStatement : Bool := false
  /-- it is the body of a match arm -/
  arm : Bool := false
  /-- it starts the body of an arm that goes on with an operator -/
  leadsArm : Bool := false
  /-- it stands where a brace would start a block -/
  condition : Bool := false
  /-- it ends a condition -/
  endsCondition : Bool := false
  /-- it starts an operand that may be missing -/
  leadsOptional : Bool := false
  /-- the operator behind it could start an operand -/
  nextOpens : Bool := false
  /-- an operator stands behind it -/
  nextContinues : Bool := false

namespace Placement

/-- Nothing stands around the expression but brackets. -/
def alone : Placement := {}

/-- A statement. -/
def ofStatement : Placement := { statement := true }

/-- The body of a match arm. -/
def ofArm : Placement := { arm := true }

/-- A condition. -/
def ofCondition : Placement := { condition := true, endsCondition := true }

/-- The left operand of an operator of some level; `opens` tells that the operator could
start an operand. -/
def leftOf (p : Placement) (opens : Bool) (level : Level) : Placement :=
  { p with
    next := level
    statement := false
    leadsStatement := p.statement || p.leadsStatement
    arm := false
    leadsArm := p.arm || p.leadsArm
    endsCondition := false
    nextOpens := opens
    nextContinues := true }

/-- The operand in front of a point or `?`. -/
def baseOf (p : Placement) : Placement :=
  { p with
    next := Level.closed
    statement := p.statement || p.leadsStatement
    leadsStatement := false
    arm := p.arm || p.leadsArm
    leadsArm := false
    endsCondition := false
    nextOpens := false
    nextContinues := true }

/-- The right operand of an operator of some level. With `structs` a struct literal may
stand in it even in a condition; `optional` tells that it may be missing. -/
def rightOf (p : Placement) (structs optional : Bool) (level : Level) : Placement :=
  { p with
    previous := level
    statement := false
    leadsStatement := false
    arm := false
    leadsArm := false
    condition := p.condition && !structs
    leadsOptional := p.condition && optional }

/-- The expression needs parentheses where it stands, whatever the operators are. -/
def encloses (p : Placement) (e : Expr) : Bool :=
  (p.leadsStatement && !e.needsSemicolon) ||
    (p.leadsArm && !e.needsComma) ||
    (match e with
      | .bind _ _ _ => p.statement || p.leadsStatement
      | .atom _ .structLiteral _ => p.condition
      | .atom _ (.path _ _) _ => p.endsCondition && !p.condition
      | .atom attrs (.blockLike _ bare) _ => p.leadsOptional && bare && attrs.isEmpty
      | .jump _ .breaks _ => p.endsCondition && !p.condition
      | .jump _ _ _ => p.endsCondition
      | .rangeFull _ _ => p.endsCondition && !p.condition
      | .rangeFrom _ _ _ => p.endsCondition && !p.condition
      | _ => false)

/-- How tightly an expression holds together where it stands. A jump without a value
would take an operator that can start an operand for its value; at the end of
everything what reaches as far as it can does no harm. -/
def levelOf (p : Placement) (e : Expr) : Level :=
  match e with
  | .jump _ _ _ =>
    if p.nextOpens then Level.jump else if p.nextContinues then e.level else Level.unary
  | .jumpWith _ _ _ _ _ | .closure _ _ _ _ | .bind _ _ _ | .rangeFull _ _ | .rangeTo _ _ _ =>
    if p.nextContinues then e.level else Level.unary
  | _ => e.level

end Placement

/-! ### How far an expression reaches -/

/-- What becomes of the operator behind an expression that is read without parentheses:
the text cannot be read, the expression ends before the operator, or it takes the
operator in. -/
inductive Scan where
  | fails
  | ends
  | takes
  deriving DecidableEq

/-- The expression is safe against the operator before it. -/
def scanLeft (p : Placement) : Expr → Bool
  | .assign _ _ _ _ => p.previous ≤ Level.assign
  | .binary _ _ n _ _ _ => if n = Level.assign then p.previous ≤ n else p.previous < n
  | .cast _ _ _ => p.previous < Level.cast
  | .rangeFrom _ _ _ => p.previous < Level.assign
  | .rangeBetween _ _ _ _ => p.previous < Level.assign
  | _ => true

/-- How tightly a right operand holds together; `scan` is how far it reaches. -/
def Placement.rightLevelBy (p : Placement) (e : Expr) (scan : Unit → Scan) : Level :=
  let plain := p.levelOf e
  let loose :=
    if p.previous = Level.assign || p.previous = Level.binding || p.previous = Level.unary then
      plain < p.previous
    else plain ≤ p.previous
  let bounded := p.next = Level.range || p.next = Level.either || p.next = Level.both ||
    !p.nextOpens
  if loose && bounded && scan () ≠ .takes && scanLeft p e then Level.unary else plain

/-- The operator behind is taken by level alone. -/
def scanByLevel (next level : Level) : Scan :=
  if (if level = Level.assign || level = Level.compare then level ≤ next else level < next) ||
      next = Level.jump then .takes
  else .ends

/-- How far an expression reaches if it is read without parentheses behind an operator
of some level. `failing` and `ending` count the operators of the whole that are already
known to be safe if the rest fails or ends. -/
def scanRight : Expr → Placement → Level → Nat → Nat → Scan
  | .assign attrs l op r, p, level, failing, ending =>
    let byLevel := scanByLevel p.next level
    let tight := p.next = Level.closed
    if p.encloses (.assign attrs l op r) || !attrs.isEmpty then byLevel
    else if (if tight then 2 ≤ failing else 1 ≤ ending) then .takes
    else
      match scanRight r (p.rightOf false false Level.assign) Level.assign
          (if tight then failing else 1) 1 with
      | .fails => if tight then .fails else .ends
      | _ => .takes
  | .binary attrs l n o op r, p, level, failing, ending =>
    let byLevel := scanByLevel p.next level
    let tight := p.next = Level.closed
    if p.encloses (.binary attrs l n o op r) || !attrs.isEmpty then byLevel
    else if (if tight then 2 ≤ failing && (byLevel = .takes || 1 ≤ ending) else 1 ≤ ending) then
      .takes
    else if n = Level.compare && p.next = Level.compare then .takes
    else
      let q := p.rightOf false false n
      match scanRight r q n (if tight then failing else 1) (if byLevel = .takes then 1 else 0) with
      | .ends => byLevel
      | .takes => .takes
      | .fails =>
        if n ≠ Level.assign && q.rightLevelBy r (fun _ => scanRight r q q.previous 1 0) ≤ n then
          byLevel
        else if tight then .fails
        else .ends
  | .prefixed attrs op v, p, level, failing, ending =>
    let byLevel := scanByLevel p.next level
    let tight := p.next = Level.closed
    if p.encloses (.prefixed attrs op v) then byLevel
    else if (if tight then 2 ≤ failing && (byLevel = .takes || 1 ≤ ending) else 1 ≤ ending) then
      .takes
    else
      let q := p.rightOf false false Level.unary
      match scanRight v q level (if tight then failing else 1)
          (if byLevel = .takes then 1 else 0) with
      | .ends => byLevel
      | .takes => .takes
      | .fails =>
        if q.rightLevelBy v (fun _ => scanRight v q q.previous 1 0) < Level.unary then byLevel
        else if tight then .fails
        else .ends
  | .rangeTo attrs d b, p, level, failing, _ =>
    if p.encloses (.rangeTo attrs d b) || !attrs.isEmpty then scanByLevel p.next level
    else if 1 ≤ failing then .takes
    else
      let q := p.rightOf false true Level.range
      let low := p.next = Level.assign || p.next = Level.range
      match scanRight b q Level.range failing (if low then 0 else 1) with
      | .takes => .takes
      | .ends =>
        if low && Level.range < q.rightLevelBy b (fun _ => scanRight b q q.previous 1 0) then .fails
        else .takes
      | .fails =>
        if Level.range < q.rightLevelBy b (fun _ => scanRight b q q.previous 1 0) then .fails
        else .takes
  | .rangeBetween attrs a d b, p, level, failing, _ =>
    if p.encloses (.rangeBetween attrs a d b) || !attrs.isEmpty then scanByLevel p.next level
    else if 1 ≤ failing then .takes
    else
      let q := p.rightOf false true Level.range
      let low := p.next = Level.assign || p.next = Level.range
      match scanRight b q Level.range failing (if low then 0 else 1) with
      | .takes => .takes
      | .ends =>
        if low && Level.range < q.rightLevelBy b (fun _ => scanRight b q q.previous 1 0) then .fails
        else .takes
      | .fails =>
        if Level.range < q.rightLevelBy b (fun _ => scanRight b q q.previous 1 0) then .fails
        else .takes
  | .rangeFull attrs d, p, level, _, _ =>
    if p.encloses (.rangeFull attrs d) || !attrs.isEmpty then scanByLevel p.next level
    else if p.nextOpens then .takes
    else .fails
  | .rangeFrom attrs a d, p, level, _, _ =>
    if p.encloses (.rangeFrom attrs a d) || !attrs.isEmpty then scanByLevel p.next level
    else if p.nextOpens then .takes
    else .fails
  | .jump attrs k h, p, level, _, _ =>
    if p.encloses (.jump attrs k h) then scanByLevel p.next level
    else if p.next = Level.assign && Level.assign < level then .fails
    else .takes
  | .jumpWith attrs k h labelled v, p, level, _, ending =>
    if p.encloses (.jumpWith attrs k h labelled v) then scanByLevel p.next level
    else if 1 ≤ ending || (k = .breaks && !labelled && v.leadsWithLabel) then .takes
    else
      match scanRight v (p.rightOf true (k = .breaks) Level.jump) Level.jump 1 1 with
      | .fails => .ends
      | _ => .takes
  | .closure attrs h typed b, p, level, _, ending =>
    if p.encloses (.closure attrs h typed b) then scanByLevel p.next level
    else if 1 ≤ ending then .takes
    else
      match scanRight b (p.rightOf false false Level.jump) Level.jump 1 1 with
      | .fails => .ends
      | _ => .takes
  | .bind attrs h v, p, level, _, ending =>
    if p.encloses (.bind attrs h v) then scanByLevel p.next level
    else if 1 ≤ ending then .takes
    else
      let q := p.rightOf false false Level.binding
      let low : Bool := p.next < Level.binding
      match scanRight v q Level.binding 1 (if low then 0 else 1) with
      | .takes => .takes
      | .ends => if low then .ends else .takes
      | .fails =>
        if low then .ends
        else if q.rightLevelBy v (fun _ => scanRight v q q.previous 1 0) < Level.binding then .takes
        else .ends
  | _, p, level, _, _ => scanByLevel p.next level

/-- How tightly a right operand holds together where it stands. -/
def Placement.rightLevel (p : Placement) (e : Expr) : Level :=
  p.rightLevelBy e fun _ => scanRight e p p.previous 1 0

/-- How tightly a left operand holds together where it stands. -/
def Placement.leftLevel (p : Placement) (e : Expr) : Level :=
  if (!p.nextOpens || p.next = Level.range) && scanRight e p Level.jump 0 0 = .ends &&
      scanLeft p e then Level.closed
  else p.levelOf e

end Newtype
