import EnergyModel.Sql.Sorting
import EnergyModel.Sql.Syntax

/-!
# Window frames and ranking

A window function sees the rows of its partition in the order of its window. Rows whose
ordering keys are equal are peers and form a peer group; the groups follow one another in
window order, so a partition is described by the group of each row and the first and last row
of each group (`Peers`).

The ranking functions read only this description: `row_number` is the row's place,
`rank` the place of its group's first row, `dense_rank` the group's place, and
`percent_rank`, `cume_dist` and `ntile` are computed from these and the partition's size.

The other functions read a frame: the rows around the current one that its bounds take in.
A frame counts its bounds by rows, by peer groups, or by the value of its one ordering key
(`frameRows`). By value, a bound `N PRECEDING` of an ascending key takes the rows whose key
is at least the current key less `N`; the key of a row that is null or not a number is not
moved, so its frame is its peers. The rows a frame keeps are then thinned by its exclusion.
-/

namespace EnergyModel.Sql

/-- A bound of a frame with its offset evaluated. -/
inductive FrameEdge where
  | unboundedPreceding
  | preceding (amount : Value)
  | currentRow
  | following (amount : Value)
  | unboundedFollowing
  deriving Inhabited

/-- A frame with its offsets evaluated: its unit, its two bounds and what it leaves out. -/
structure FrameShape where
  unit : FrameUnit
  start : FrameEdge
  finish : FrameEdge
  exclusion : FrameExclusion
  deriving Inhabited

/-- The frame of a window that names none: from the start of the partition to the last peer
of the current row. -/
def FrameShape.standard : FrameShape := ⟨.range, .unboundedPreceding, .currentRow, .noOthers⟩

/-- The peer groups of a partition's rows in window order. -/
structure Peers where
  /-- The peer group of each row. -/
  group : Array Nat
  /-- The first and last row of each group. -/
  bounds : Array (Nat × Nat)
  deriving Inhabited

/-- The peer groups of rows in window order, given each row's ordering key: a row starts a new
group unless its key equals the key of the row before it. -/
def Peers.of (orders : List SortOrder) (keys : List (List Value)) : Peers :=
  let step (acc : Peers × Option (List Value)) (entry : List Value × Nat) :
      Peers × Option (List Value) :=
    let (p, previous) := acc
    let (key, i) := entry
    let same : Bool := match previous with
      | some k => compareKeys orders k key == .eq
      | none => false
    if same then
      let g := p.bounds.size - 1
      ({ group := p.group.push g, bounds := p.bounds.modify g fun (a, _) => (a, i) }, some key)
    else ({ group := p.group.push p.bounds.size, bounds := p.bounds.push (i, i) }, some key)
  (keys.zipIdx.foldl step ({ group := #[], bounds := #[] }, none)).1

/-- The number of rows of the partition. -/
def Peers.size (p : Peers) : Nat := p.group.size

/-- The peer group of a row. -/
def Peers.groupOf (p : Peers) (i : Nat) : Nat := p.group.getD i 0

/-- The first row of a row's peer group. -/
def Peers.groupStart (p : Peers) (i : Nat) : Nat := (p.bounds.getD (p.groupOf i) (0, 0)).1

/-- The last row of a row's peer group. -/
def Peers.groupEnd (p : Peers) (i : Nat) : Nat := (p.bounds.getD (p.groupOf i) (0, 0)).2

/-- The value of `rank` for a row: one more than the number of rows before its peer group. -/
def Peers.rank (p : Peers) (i : Nat) : Nat := p.groupStart i + 1

/-- The value of `dense_rank` for a row: the place of its peer group. -/
def Peers.denseRank (p : Peers) (i : Nat) : Nat := p.groupOf i + 1

/-- The value of `percent_rank` for a row: the rows before its peer group over the other rows
of the partition, or zero when the partition has one row. -/
def Peers.percentRank (p : Peers) (i : Nat) : Float :=
  if p.size ≤ 1 then 0.0 else (p.groupStart i).toFloat / (p.size - 1).toFloat

/-- The value of `cume_dist` for a row: the rows up to the end of its peer group over all the
rows of the partition. -/
def Peers.cumeDist (p : Peers) (i : Nat) : Float :=
  (p.groupEnd i + 1).toFloat / p.size.toFloat

/-- The bucket of `ntile` a row falls in when a partition of `size` rows is cut into `buckets`
buckets as even as can be, the larger ones first. -/
def ntileBucket (buckets size i : Nat) : Nat :=
  let small := size / buckets
  if small == 0 then i + 1
  else
    let large := size - buckets * small
    let inLarge := large * (small + 1)
    if i < inLarge then 1 + i / (small + 1) else 1 + large + (i - inLarge) / small

/-- A key moved by a frame offset, toward the start of the partition or away from it, in the
direction the window orders by: a key that is not a number stays where it is. -/
def shiftKey (descending towardStart : Bool) (key amount : Value) : Value :=
  let down := towardStart != descending
  match key, amount with
  | .integer k, .integer a => .integer (if down then k - a else k + a)
  | .integer k, .real a => .real (if down then Float.ofInt k - a else Float.ofInt k + a)
  | .real k, .integer a => .real (if down then k - Float.ofInt a else k + Float.ofInt a)
  | .real k, .real a => .real (if down then k - a else k + a)
  | _, _ => key

/-- The offset of a bound counted in rows or groups. -/
def FrameEdge.count : FrameEdge → Nat
  | .preceding (.integer n) | .following (.integer n) => n.toNat
  | _ => 0

/-- The first and last place a frame takes in a partition of `size` places, counted in rows or
in groups, for the current place `here`: a first place past the last, or a last place before the
first, leaves the frame empty. -/
def countedSpan (start finish : FrameEdge) (size here : Nat) : Int × Int :=
  let first : Int := match start with
    | .unboundedPreceding => 0
    | .preceding _ => max 0 ((here : Int) - start.count)
    | .currentRow => here
    | .following _ => (here : Int) + start.count
    | .unboundedFollowing => size
  let last : Int := match finish with
    | .unboundedPreceding => -1
    | .preceding _ => (here : Int) - finish.count
    | .currentRow => here
    | .following _ => min ((size : Int) - 1) ((here : Int) + finish.count)
    | .unboundedFollowing => (size : Int) - 1
  (first, last)

/-- The rows of a partition from one place to another, both included. -/
def rowsBetween (first last : Int) : List Nat :=
  if last < first then [] else (List.range (last - first + 1).toNat).map fun (k : Nat) => (first + Int.ofNat k).toNat

/-- The first row whose key is not before a target key in window order, or the partition's
size when there is none. -/
def firstAtLeast (order : SortOrder) (keys : Array Value) (target : Value) : Nat :=
  ((List.range keys.size).find? fun j =>
    compareKeys [order] [keys.getD j .null] [target] != .lt).getD keys.size

/-- The last row whose key is not after a target key in window order, or minus one when there
is none. -/
def lastAtMost (order : SortOrder) (keys : Array Value) (target : Value) : Int :=
  ((List.range keys.size).reverse.find? fun j =>
    compareKeys [order] [keys.getD j .null] [target] != .gt).map (fun j => (j : Int)) |>.getD (-1)

/-- The first and last row of a frame counted by the value of the window's one ordering key. -/
def rangeSpan (start finish : FrameEdge) (peers : Peers) (order : SortOrder) (keys : Array Value)
    (here : Nat) : Int × Int :=
  let key := keys.getD here .null
  let size := peers.size
  let first : Int := match start with
    | .unboundedPreceding => 0
    | .preceding a => firstAtLeast order keys (shiftKey order.descending true key a)
    | .currentRow => peers.groupStart here
    | .following a => firstAtLeast order keys (shiftKey order.descending false key a)
    | .unboundedFollowing => size
  let last : Int := match finish with
    | .unboundedPreceding => -1
    | .preceding a => lastAtMost order keys (shiftKey order.descending true key a)
    | .currentRow => peers.groupEnd here
    | .following a => lastAtMost order keys (shiftKey order.descending false key a)
    | .unboundedFollowing => (size : Int) - 1
  (first, last)

/-- The first and last row of the frame of the current row `here`, before the exclusion thins
it. Counted by groups, a frame runs from the first row of its first group to the last row of
its last group. -/
def frameSpan (shape : FrameShape) (peers : Peers) (order : SortOrder) (keys : Array Value)
    (here : Nat) : Int × Int :=
  let size := peers.size
  match shape.unit with
  | .rows => countedSpan shape.start shape.finish size here
  | .groups =>
    let groups := peers.bounds.size
    let (g0, g1) := countedSpan shape.start shape.finish groups (peers.groupOf here)
    let first : Int := if g0 ≥ groups then size else (peers.bounds.getD g0.toNat (0, 0)).1
    let last : Int := if g1 < 0 then -1 else (peers.bounds.getD g1.toNat (0, 0)).2
    (first, last)
  | .range => rangeSpan shape.start shape.finish peers order keys here

/-- The rows of the frame of the current row `here`, in window order. -/
def frameRows (shape : FrameShape) (peers : Peers) (order : SortOrder) (keys : Array Value)
    (here : Nat) : List Nat :=
  let (first, last) := frameSpan shape peers order keys here
  let rows := rowsBetween first last
  let g := peers.groupOf here
  match shape.exclusion with
  | .noOthers => rows
  | .currentRow => rows.filter (· != here)
  | .group => rows.filter fun j => peers.groupOf j != g
  | .ties => rows.filter fun j => j == here || peers.groupOf j != g

/-- A window call of a query: the function, its arguments and `FILTER`, and its window. -/
structure WindowCall where
  name : String
  args : List Expr
  star : Bool
  filter : Option Expr
  window : Window
  deriving Inhabited

/-- An expression with the window calls outside its subqueries replaced by slots, numbered on
from the calls found before it, with those calls and its own after them, in the order they are
written. -/
def Expr.takeWindows : Nat → Expr → Array WindowCall → Expr × Array WindowCall
  | 0, e, found => (e, found)
  | fuel + 1, e, found =>
    let go := Expr.takeWindows fuel
    let goList (xs : List Expr) (found : Array WindowCall) : List Expr × Array WindowCall :=
      xs.foldl (fun acc x => let (y, f) := go x acc.2; (acc.1 ++ [y], f)) ([], found)
    let goOption (x : Option Expr) (found : Array WindowCall) : Option Expr × Array WindowCall :=
      match x with
      | some y => let (z, f) := go y found; (some z, f)
      | none => (none, found)
    match e with
    | .call n _ args star f _ (some w) => (.slot found.size, found.push ⟨n, args, star, f, w⟩)
    | .call n d args star f order none =>
      let (args, found) := goList args found
      let (f, found) := goOption f found
      (.call n d args star f order none, found)
    | .unary op x => let (y, found) := go x found; (.unary op y, found)
    | .binary op a b =>
      let (a, found) := go a found
      let (b, found) := go b found
      (.binary op a b, found)
    | .collate x c => let (y, found) := go x found; (.collate y c, found)
    | .cast x t => let (y, found) := go x found; (.cast y t, found)
    | .isNull negated x => let (y, found) := go x found; (.isNull negated y, found)
    | .pattern op negated a b c =>
      let (a, found) := go a found
      let (b, found) := go b found
      let (c, found) := goOption c found
      (.pattern op negated a b c, found)
    | .between negated a b c =>
      let (a, found) := go a found
      let (b, found) := go b found
      let (c, found) := go c found
      (.between negated a b c, found)
    | .inList negated a items =>
      let (a, found) := go a found
      let (items, found) := goList items found
      (.inList negated a items, found)
    | .inQuery negated a q => let (b, found) := go a found; (.inQuery negated b q, found)
    | .inTable negated a t => let (b, found) := go a found; (.inTable negated b t, found)
    | .caseWhen o bs d =>
      let (o, found) := goOption o found
      let (bs, found) := bs.foldl (fun acc (c, r) =>
        let (c, f) := go c acc.2
        let (r, f) := go r f
        (acc.1 ++ [(c, r)], f)) ([], found)
      let (d, found) := goOption d found
      (.caseWhen o bs d, found)
    | .vector items => let (items, found) := goList items found; (.vector items, found)
    | .raise a m => let (m, found) := goOption m found; (.raise a m, found)
    | _ => (e, found)

mutual

/-- Whether two expressions are written alike, names compared without regard to case. An
expression with a subquery is alike to none. -/
def Expr.alike : Nat → Expr → Expr → Bool
  | 0, _, _ => false
  | fuel + 1, a, b =>
    let go := Expr.alike fuel
    let goList (xs ys : List Expr) := xs.length == ys.length && (xs.zip ys).all fun (x, y) => go x y
    let goOption (x y : Option Expr) : Bool := match x, y with
      | none, none => true
      | some x, some y => go x y
      | _, _ => false
    match a, b with
    | .literal v, .literal w => v.typeName == w.typeName && v.compare .binary w == .eq
    | .number s, .number t => s == t
    | .column q n _, .column r m _ => q.map String.toLower == r.map String.toLower && n.toLower == m.toLower
    | .parameter p, .parameter q => p == q
    | .unary o x, .unary p y => o == p && go x y
    | .binary o x y, .binary p z w => o == p && go x z && go y w
    | .collate x c, .collate y d => c.toLower == d.toLower && go x y
    | .cast x t, .cast y u => t.toLower == u.toLower && go x y
    | .isNull n x, .isNull m y => n == m && go x y
    | .pattern o n x y e, .pattern p m z w f => o == p && n == m && go x z && go y w && goOption e f
    | .between n x y z, .between m u v w => n == m && go x u && go y v && go z w
    | .inList n x xs, .inList m y ys => n == m && go x y && goList xs ys
    | .caseWhen o bs d, .caseWhen p cs e =>
      goOption o p && bs.length == cs.length &&
        (bs.zip cs).all (fun ((x1, y1), (x2, y2)) => go x1 x2 && go y1 y2) && goOption d e
    | .call n d xs s f o none, .call m e ys t g p none =>
      n.toLower == m.toLower && d == e && s == t && goList xs ys && goOption f g &&
        OrderingTerm.alikeAll fuel o p
    | .vector xs, .vector ys => goList xs ys
    | .slot i, .slot j => i == j
    | _, _ => false

/-- Whether two lists of ordering terms are alike term by term. -/
def OrderingTerm.alikeAll : Nat → List OrderingTerm → List OrderingTerm → Bool
  | 0, _, _ => false
  | _, [], [] => true
  | fuel + 1, ⟨x, d, n⟩ :: xs, ⟨y, e, m⟩ :: ys =>
    Expr.alike fuel x y && d == e && n == m && OrderingTerm.alikeAll fuel xs ys
  | _, _, _ => false

end

/-- A window with the named windows it builds on taken in: the expressions that split rows into
partitions, the order within a partition, and the frame it says, if it says one. -/
structure WindowSpec where
  partition : List Expr
  order : List OrderingTerm
  frame : Option Frame
  deriving Inhabited

/-- Whether two windows sort their rows alike: their partitions and orders are alike. -/
def WindowSpec.sortsAlike (a b : WindowSpec) : Bool :=
  a.partition.length == b.partition.length &&
    (a.partition.zip b.partition).all (fun (x, y) => Expr.alike 200 x y) &&
    OrderingTerm.alikeAll 200 a.order b.order

/-- The definition of a named window among those made before, the last made first. -/
def findWindow (defined : List (String × WindowSpec)) (name : String) : Except String WindowSpec :=
  match defined.find? fun (n, _) => n.toLower == name.toLower with
  | some (_, w) => pure w
  | none => throw ("no such window: " ++ name)

/-- A window read against the named windows made before it. A window named whole is that
window. A window that builds on a named one takes its partition and order, and may add an order
when that has none, and a frame when that says none. -/
def Window.spec (defined : List (String × WindowSpec)) : Window → Except String WindowSpec
  | .named n => findWindow defined n
  | .mk none partition order frame => pure ⟨partition, order, frame⟩
  | .mk (some b) partition order frame => do
    let base ← findWindow defined b
    if !partition.isEmpty then throw ("cannot override PARTITION clause of window: " ++ b)
    if !base.order.isEmpty && !order.isEmpty then throw ("cannot override ORDER BY clause of window: " ++ b)
    if base.frame.isSome then throw ("cannot override frame specification of window: " ++ b)
    pure ⟨base.partition, if order.isEmpty then base.order else order, frame⟩

/-- The named windows of a `WINDOW` clause read in order, each against those before it; the
last made comes first. -/
def defineWindows (defs : List (String × Window)) : Except String (List (String × WindowSpec)) :=
  defs.foldlM (fun defined (n, w) => do pure ((n, ← w.spec defined) :: defined)) []

/-- Whether a frame offset is constant as the parser sees it: no name other than `true` and
`false`, no function call and no subquery. An offset that is not is taken as null. -/
def Expr.offsetConstant : Nat → Expr → Bool
  | 0, _ => false
  | fuel + 1, e =>
    let go := Expr.offsetConstant fuel
    match e with
    | .column none n false => n.toLower == "true" || n.toLower == "false"
    | .literal _ | .number _ | .parameter _ => true
    | .unary _ a | .collate a _ | .cast a _ | .isNull _ a => go a
    | .binary _ a b => go a && go b
    | .pattern _ _ a b c => go a && go b && (c.map go).getD true
    | .between _ a b c => go a && go b && go c
    | .inList _ a items => go a && items.all go
    | .caseWhen o bs d =>
      (o.map go).getD true && bs.all (fun (x, y) => go x && go y) && (d.map go).getD true
    | .vector items => items.all go
    | _ => false

/-- A frame offset as a frame counted in rows or groups takes it: an integer, or a real or text
that is one exactly, and not negative. -/
def countOffset (v : Value) : Option Value :=
  match v.withAffinity .numeric with
  | .integer n => if n ≥ 0 then some (.integer n) else none
  | _ => none

/-- A frame offset as a frame counted by value takes it: a number, or a text that is one, and
not negative. -/
def valueOffset (v : Value) : Option Value :=
  match v.withAffinity .numeric with
  | .integer n => if n ≥ 0 then some (.integer n) else none
  | .real x => if x ≥ 0 then some (.real x) else none
  | _ => none

/-- The place `nth_value` reads: a positive integer, or a real or text that is one exactly. -/
def nthPlace (v : Value) : Option Nat :=
  match v.toNumericForComparison with
  | .integer n => if n > 0 then some n.toNat else none
  | .real x =>
    let i := truncateReal x
    if Float.ofInt i == x && i > 0 then some i.toNat else none
  | _ => none

/-- The place in a partition of `size` rows that `lag` or `lead` reads, given the place its
offset moves to, counted from one: a place that is an integer, or a real that is one exactly,
and lies in the partition. -/
def shiftedPlace (size : Nat) (target : Value) : Option Nat :=
  match target.withAffinity .numeric with
  | .integer k => if 1 ≤ k && k ≤ size then some (k.toNat - 1) else none
  | _ => none

/-- Splits a list into the runs of neighbours that belong together. -/
def splitRuns {α : Type} (together : α → α → Bool) (xs : List α) : List (List α) :=
  let step (acc : List (List α)) (x : α) : List (List α) :=
    match acc with
    | (y :: run) :: done => if together y x then (x :: y :: run) :: done else [x] :: acc
    | _ => [x] :: acc
  (xs.foldl step []).reverse.map List.reverse

end EnergyModel.Sql
