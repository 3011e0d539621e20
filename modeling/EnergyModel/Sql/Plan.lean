import EnergyModel.Sql.Schema
import EnergyModel.Sql.Sorting

/-!
# Choosing how to read a table

A query that reads one table may read it in row id order or through one of its indexes, and
the rows come out in the order it reads them unless something sorts them after. The database
chooses by estimated cost, and the choice shows in the order of the rows, so the choice is
made here the same way.

Estimates are kept as the database keeps them: a count `n` as about `10 * log2 n`
(`logEst`). With no statistics gathered, a table is taken to hold about a million rows
(estimate 200). Reading it whole costs 216. An index is read by seeking the rows its leading
columns are constrained to: each column fixed by an equality narrows the rows to an estimate
that falls with the column's place, a range on the next column narrows them fourfold per bound,
and each row then costs a seek in the table unless the index holds every column the query
reads. An index that holds every column the query reads and is narrower than the table may also
be read whole. A way of reading that does not give the order the query asks for pays for a
sort as well.
-/

namespace EnergyModel.Sql

/-! ## Estimates -/

/-- The estimate of a count: about ten times its base-two logarithm, from its top bits. -/
def logEst (x : Nat) : Int :=
  let top : List Int := [0, 2, 3, 5, 6, 7, 8, 9]
  if x < 2 then 0
  else if x < 4 then top.getD (x * 4 % 8) 0 + 10
  else if x < 8 then top.getD (x * 2 % 8) 0 + 20
  else
    let i := Nat.log2 x - 3
    top.getD ((x >>> i) % 8) 0 + 30 + 10 * (i : Int)

/-- The estimate of the sum of two counts given by their estimates. -/
def logEstAdd (a b : Int) : Int :=
  let bonus : List Int :=
    [10, 10, 9, 9, 8, 8, 7, 7, 7, 6, 6, 6, 5, 5, 5, 4, 4, 4, 4, 3, 3, 3, 3, 3, 3, 2, 2, 2, 2, 2, 2, 2]
  let (hi, lo) := if a ≥ b then (a, b) else (b, a)
  if hi > lo + 49 then hi
  else if hi > lo + 31 then hi + 1
  else hi + bonus.getD (hi - lo).toNat 0

/-- The estimate of the logarithm of a count given by its estimate. -/
def estLog (n : Int) : Int := if n ≤ 10 then 0 else logEst n.toNat - 33

/-- The rows a table is taken to hold, as an estimate. -/
def tableRows : Int := 200

/-- The first digits in a text, read as a number; zero when there are none. -/
def firstNumber (s : String) : Nat :=
  let digits := (s.toList.dropWhile (!·.isDigit)).takeWhile Char.isDigit
  digits.foldl (fun n c => n * 10 + (c.toNat - '0'.toNat)) 0

/-- The width the planner supposes for a column, in units of about four bytes: a column with
no type takes one; a text or blob type takes the length it states, or about twenty bytes when
it states none; any other type takes one. -/
def columnWidth (c : Column) : Nat :=
  if c.declared.trimAscii.isEmpty then 1
  else
    let lower := c.declared.toLower
    let textual := c.affinity == .text || c.affinity == .blob
    let stated : Nat :=
      if !textual then 0
      else
        match (lower.splitOn "char").getLast? with
        | some after =>
          if (lower.splitOn "char").length > 1 then firstNumber after
          else
            match (lower.splitOn "blob(").getLast? with
            | some rest => if (lower.splitOn "blob(").length > 1 then firstNumber rest else 16
            | none => 16
        | none => 16
    min 255 (stated / 4 + 1)

/-- The estimated width of a table's rows. -/
def Table.rowWidth (t : Table) : Int :=
  let w := (t.columns.map columnWidth).foldl (· + ·) 0 + (if t.rowidColumn.isNone then 1 else 0)
  logEst (w * 4)

/-- The estimated width of an index's entries: its terms and the row id. -/
def Index.entryWidth (i : Index) (t : Table) : Int :=
  let w := (i.terms.map fun term => match term.key with
    | .column k => columnWidth (t.columns.getD k default)
    | _ => 1).foldl (· + ·) 0 + 1
  logEst (w * 4)

/-! ## What a query asks of a table -/

/-- A column a condition or an ordering names: a column of the table by its place, or the row
id. -/
inductive ColumnRef where
  | column (k : Nat)
  | rowid
  deriving BEq, Inhabited

/-- The table a scan reads, with the name the query knows it by. -/
structure ScanTable where
  table : Table
  name : String
  deriving Inhabited

/-- The column of the table an expression is, seen through `COLLATE`: a bare column or one
qualified by the table's name. The names of the row id stand for it unless a column has the
name, and a column that is the row id is the row id. -/
def ScanTable.columnOf (s : ScanTable) : Expr → Option ColumnRef
  | .collate x _ => match x with
    | .column q n _ => s.columnOf (.column q n false)
    | _ => none
  | .column q n _ =>
    if q.isNone || (q.map (sameName · s.name)).getD false then
      match s.table.columnIndex? n with
      | some k => if s.table.rowidColumn == some k then some .rowid else some (.column k)
      | none => if !s.table.withoutRowId && isRowidName n then some .rowid else none
    else none
  | _ => none

/-- Whether an expression may be null as far as its form shows: a literal other than null, the
row id and a column declared `NOT NULL` may not, under any signs. -/
def ScanTable.canBeNull (s : ScanTable) : Nat → Expr → Bool
  | 0, _ => true
  | fuel + 1, e =>
    match e with
    | .unary .negate x | .unary .plus x => s.canBeNull fuel x
    | .literal .null => true
    | .literal _ | .number _ => false
    | .column _ _ _ =>
      match s.columnOf e with
      | some .rowid => false
      | some (.column k) => (s.table.columns.getD k default).notNull.isNone
      | none => true
    | _ => true

/-- Whether an expression may read a row of the table: it names a column of it, or holds a
subquery, which is not looked into. -/
def ScanTable.reads (s : ScanTable) : Nat → Expr → Bool
  | 0, _ => true
  | fuel + 1, e =>
    let go := s.reads fuel
    match e with
    | .column .. => (s.columnOf e).isSome
    | .subquery _ | .existsQuery _ | .inQuery .. | .inTable .. => true
    | .unary _ a | .collate a _ | .cast a _ | .isNull _ a => go a
    | .binary _ a b => go a || go b
    | .pattern _ _ a b c => go a || go b || (c.map go).getD false
    | .between _ a b c => go a || go b || go c
    | .inList _ a items => go a || items.any go
    | .caseWhen o bs d =>
      (o.map go).getD false || bs.any (fun (x, y) => go x || go y) || (d.map go).getD false
    | .call _ _ args _ f _ _ => args.any go || (f.map go).getD false
    | .vector items => items.any go
    | .raise _ m => (m.map go).getD false
    | _ => false

/-- The columns of the table an expression reads, or none when it holds a subquery, which is
not looked into. -/
def ScanTable.columnsRead (s : ScanTable) : Nat → Expr → Option (List ColumnRef)
  | 0, _ => none
  | fuel + 1, e =>
    let go := s.columnsRead fuel
    let all (xs : List Expr) : Option (List ColumnRef) := do
      let parts ← xs.mapM go
      pure parts.flatten
    match e with
    | .column .. => some (s.columnOf e).toList
    | .subquery _ | .existsQuery _ | .inQuery .. | .inTable .. => none
    | .unary _ a | .collate a _ | .cast a _ | .isNull _ a => go a
    | .binary _ a b => all [a, b]
    | .pattern _ _ a b c => all ([a, b] ++ c.toList)
    | .between _ a b c => all [a, b, c]
    | .inList _ a items => all (a :: items)
    | .caseWhen o bs d => all (o.toList ++ bs.flatMap (fun (x, y) => [x, y]) ++ d.toList)
    | .call _ _ args _ f order overWindow =>
      let inWindow : List Expr := match overWindow with
        | some (.mk _ partition terms _) => partition ++ terms.map fun ⟨x, _, _⟩ => x
        | _ => []
      all (args ++ f.toList ++ order.map (fun ⟨x, _, _⟩ => x) ++ inWindow)
    | .vector items => all items
    | .raise _ m => all m.toList
    | _ => some []

/-- The collation an operand brings to a comparison, and whether `COLLATE` says it: a column
of the table brings its own. -/
def ScanTable.collationOf (s : ScanTable) (e : Expr) : Option (Collation × Bool) :=
  match e with
  | .collate _ c => (Collation.ofName? c).map (·, true)
  | _ =>
    match s.columnOf e with
    | some (.column k) => some ((s.table.columns.getD k default).collation, false)
    | some .rowid => some (.binary, false)
    | none => none

/-- The collation of a comparison: the left operand's when it says one, else the right's when
it says one, else the left's own, else the right's, else binary. -/
def ScanTable.comparisonCollation (s : ScanTable) (a b : Expr) : Collation :=
  match s.collationOf a, s.collationOf b with
  | some (c, true), _ => c
  | _, some (c, true) => c
  | some (c, _), _ => c
  | _, some (c, _) => c
  | _, _ => .binary

/-- What a condition asks of a column. -/
inductive Ask where
  /-- `=` or `IS` with a value -/
  | equal
  /-- `IS NULL` -/
  | null
  /-- `IN` a list of so many values -/
  | among (count : Nat)
  /-- `>` or `>=` -/
  | above
  /-- `<` or `<=` -/
  | below
  deriving BEq, Inhabited

/-- A condition of the `WHERE` clause a scan can seek with: a column compared with a value the
row does not decide, under a collation; it comes from the term of its place. -/
structure Constraint where
  column : ColumnRef
  ask : Ask
  collation : Collation
  term : Nat
  deriving Inhabited

/-- What the planner knows of a term of the `WHERE` clause: whether it reads the table,
whether it is an equality of a column with a value, and whether that value is an integer from
minus one to one. -/
structure TermInfo where
  readsTable : Bool
  equality : Bool
  smallInteger : Bool
  deriving Inhabited

/-- Whether an expression is an integer literal from minus one to one. -/
def isSmallInteger : Expr → Bool
  | .number t => t == "0" || t == "1"
  | .unary .negate (.number t) => t == "0" || t == "1"
  | .unary .plus (.number t) => t == "0" || t == "1"
  | _ => false

/-- The conditions of a comparison of a column with a value, either way round. -/
def ScanTable.comparison (s : ScanTable) (op : BinaryOp) (a b : Expr) (term : Nat) :
    List Constraint :=
  let ask (flip : Bool) : Option Ask := match op with
    | .eq | .is => some .equal
    | .lt | .le => some (if flip then .above else .below)
    | .gt | .ge => some (if flip then .below else .above)
    | _ => none
  let coll := s.comparisonCollation a b
  match s.columnOf a, s.columnOf b with
  | some c, _ =>
    if s.reads 200 b then []
    else
      match op, b with
      | .is, .literal .null => [⟨c, .null, coll, term⟩]
      | _, _ => (ask false).toList.map fun k => ⟨c, k, coll, term⟩
  | none, some d => if s.reads 200 a then [] else (ask true).toList.map fun k => ⟨d, k, coll, term⟩
  | none, none => []

/-- The columns an `OR` of equalities fixes, when every one of its sides compares the same
column with a value under the same collation: that column and how many values it may take. -/
def ScanTable.equalities (s : ScanTable) : Nat → Expr → Option (ColumnRef × Collation × Nat)
  | 0, _ => none
  | fuel + 1, e =>
    match e with
    | .binary .or a b => do
      let (c, coll, n) ← s.equalities fuel a
      let (d, coll2, m) ← s.equalities fuel b
      if c == d && coll == coll2 then some (c, coll, n + m) else none
    | .binary .eq a b =>
      match s.comparison .eq a b 0 with
      | [⟨c, .equal, coll, _⟩] => some (c, coll, 1)
      | _ => none
    | .inList false a items =>
      match s.columnOf a with
      | some c => if items.all (!s.reads 200 ·) then
          some (c, ((s.collationOf a).map (·.1)).getD .binary, items.length) else none
      | none => none
    | _ => none

/-- The conditions a term of the `WHERE` clause gives. -/
def ScanTable.constraintsOf (s : ScanTable) (term : Nat) (e : Expr) : List Constraint :=
  match e with
  | .binary op a b =>
    match op with
    | .eq | .is | .lt | .le | .gt | .ge => s.comparison op a b term
    | .or =>
      match s.equalities 64 e with
      | some (c, coll, n) => [⟨c, .among n, coll, term⟩]
      | none => []
    | _ => []
  | .isNull false a =>
    match s.columnOf a with
    | some c => [⟨c, .null, .binary, term⟩]
    | none => []
  | .between false a low high =>
    match s.columnOf a with
    | some c =>
      if s.reads 200 low || s.reads 200 high then []
      else
        let coll := s.comparisonCollation a low
        [⟨c, .above, coll, term⟩, ⟨c, .below, coll, term⟩]
    | none => []
  | .inList false a items =>
    match s.columnOf a with
    | some c =>
      if items.any (s.reads 200 ·) then []
      else
        let coll := ((s.collationOf a).map (·.1)).getD .binary
        if items.length == 1 then [⟨c, .equal, coll, term⟩] else [⟨c, .among items.length, coll, term⟩]
    | none => []
  | _ => []

/-- What the planner knows of a term of the `WHERE` clause. -/
def ScanTable.termInfo (s : ScanTable) (e : Expr) : TermInfo :=
  let equality := match e with
    | .binary .eq a b | .binary .is a b =>
      (s.columnOf a).isSome || (s.columnOf b).isSome
    | _ => false
  let right := match e with
    | .binary _ _ b => isSmallInteger b
    | _ => false
  { readsTable := s.reads 200 e, equality, smallInteger := right }

/-- A term of the order a scan is asked for: the column it names, if any, with its collation,
its direction, whether it puts nulls after the other values against its direction, and whether
it reads the table at all. -/
structure OrderWish where
  column : Option ColumnRef
  collation : Collation
  descending : Bool
  bigNulls : Bool
  readsTable : Bool
  deriving Inhabited

/-- The order wish of an ordering term. -/
def ScanTable.wish (s : ScanTable) (e : Expr) (descending : Bool) (nullsFirst : Option Bool) :
    OrderWish :=
  let bigNulls := match nullsFirst with
    | some first => first == descending
    | none => false
  { column := s.columnOf e, collation := ((s.collationOf e).map (·.1)).getD .binary, descending,
    bigNulls, readsTable := s.reads 200 e }

/-! ## Ways of reading -/

/-- A way to read the table: through an index (none for the table itself in row id order),
with the constraints it seeks by and its estimated cost and rows. -/
structure Loop where
  index : Option Index
  /-- The constraints that fix the index's leading columns, one a column. -/
  fixed : List Constraint
  /-- The bounds of a range on the column after them. -/
  bounds : List Constraint
  cost : Int
  rows : Int
  /-- For a way that reads the rows of each side of an `OR` in turn: each side with the index
  it is read through (none for the row id). -/
  branches : List (Expr × Option Index) := []
  deriving Inhabited

/-- The columns of an index in order, the row id last for a table that has one; a column
that is the row id is the row id, and an expression is none. -/
def Index.columnRefs (i : Index) (t : Table) : List (Option ColumnRef × Collation × Bool) :=
  let keys := i.terms.map fun term =>
    let c : Option ColumnRef := match term.key with
      | .column k => if t.rowidColumn == some k then some .rowid else some (.column k)
      | .rowid => some .rowid
      | .expr _ => none
    (c, term.collation, term.descending)
  if t.withoutRowId then keys else keys ++ [(some .rowid, .binary, false)]

/-- The estimated rows of an index whose leading columns are fixed, after each: a million,
then ten, nine, eight, seven, six and five for each column more; one once every column of a
unique index is fixed. -/
def rowsAfterFixing (i : Index) (fixed : Nat) : Int :=
  if fixed == 0 then tableRows
  else if i.unique && fixed ≥ i.terms.length then 0
  else
    let steps : List Int := [33, 32, 30, 28, 26]
    steps.getD (fixed - 1) 23

/-- The estimated rows left after a range with some bounds narrows rows: fourfold per bound,
and fourfold more when it has both. -/
def afterRange (rows : Int) (lower upper : Bool) : Int :=
  let step (r : Int) : Int := max 10 (r - 20)
  let narrowed := if lower then step rows else rows
  let narrowed := if upper then step narrowed else narrowed
  let narrowed := if lower && upper then narrowed - 20 else narrowed
  let plain := rows - (if lower then 1 else 0) - (if upper then 1 else 0)
  let narrowed := max 10 narrowed
  if narrowed < plain then narrowed else plain

/-- The rows of a way of reading after the terms it does not seek by, each of which may remove
rows: one step each, and at most a million less the most an equality may remove. -/
def adjustRows (terms : List TermInfo) (used : List Nat) (rows : Int) : Int :=
  let unused := terms.zipIdx.filter fun (t, k) => t.readsTable && !used.contains k
  let rows := rows - unused.length
  let reduce := unused.foldl (fun r (t, _) =>
    if t.equality then max r (if t.smallInteger then 10 else 20) else r) 0
  min rows (tableRows - reduce)

/-- Whether an index holds every column a query reads of the table. -/
def Index.covers (i : Index) (t : Table) (read : Option (List ColumnRef)) : Bool :=
  match read with
  | none => false
  | some cols =>
    let held := (i.columnRefs t).filterMap (·.1)
    cols.all fun c => c == .rowid || held.contains c

/-- The constraints that fix an index's leading columns, and the bounds of a range on the
column after them: each column takes an equality if it has one, a list of values if not, or
a null test; the bounds must compare under the index's collation. -/
def seekOf (cols : List (Option ColumnRef × Collation × Bool)) (cs : List Constraint) :
    List Constraint × List Constraint :=
  let fixing (c : ColumnRef) (coll : Collation) : Option Constraint :=
    let on := cs.filter fun k => k.column == c
    let collated := on.filter fun k => k.ask == .null || k.collation == coll
    collated.find? (·.ask == .equal) <|>
      collated.find? (fun k => match k.ask with | .among _ => true | _ => false) <|>
      collated.find? (·.ask == .null)
  let rec go (rest : List (Option ColumnRef × Collation × Bool)) (acc : List Constraint) :
      List Constraint × List Constraint :=
    match rest with
    | [] => (acc.reverse, [])
    | (col, coll, _) :: more =>
      match col with
      | none => (acc.reverse, [])
      | some c =>
        match fixing c coll with
        | some k => go more (k :: acc)
        | none =>
          let on := cs.filter fun k => k.column == c && k.collation == coll
          let lower := (on.find? (·.ask == .above)).toList
          let upper := (on.find? (·.ask == .below)).toList
          (acc.reverse, lower ++ upper)
  go cols []

/-- The cost and rows of seeking an index, or the row id when it is none. -/
def seekCost (t : Table) (index : Option Index) (covering : Bool) (fixed bounds : List Constraint) :
    Int × Int :=
  let rows := match index with
    | some i =>
      (fixed.zipIdx.foldl (fun r (k, j) =>
        r + (rowsAfterFixing i (j + 1) - rowsAfterFixing i j) + (if k.ask == .null then 10 else 0))
        tableRows)
    | none => if fixed.isEmpty then tableRows else 0
  let rows := if bounds.isEmpty then rows
    else afterRange rows (bounds.any (·.ask == .above)) (bounds.any (·.ask == .below))
  let listed := (fixed.map fun k => match k.ask with
    | .among n => logEst n
    | _ => 0).foldl (· + ·) 0
  let entry := match index with
    | some i => rows + 1 + (15 * i.entryWidth t) / t.rowWidth
    | none => rows + 16
  let cost := logEstAdd (estLog tableRows) entry
  let cost := if index.isSome && !covering then logEstAdd cost (rows + 16) else cost
  (cost + listed, rows + listed)

/-- The ways the planner weighs to read a table without splitting an `OR`, in the order it
weighs them: the table whole, the row id sought, then for each index the index whole when it
is narrower than the table and holds what the query reads or may give the order asked for, and
the index sought. -/
def ScanTable.simpleLoops (s : ScanTable) (indexes : List Index) (where_ : List Expr)
    (read : Option (List ColumnRef)) (wishes : List OrderWish) : List Loop :=
  let t := s.table
  let cs := where_.zipIdx.flatMap fun (e, k) => s.constraintsOf k e
  let infos := where_.map s.termInfo
  let usedBy (fixed bounds : List Constraint) : List Nat := (fixed ++ bounds).map (·.term)
  let whole : Loop := ⟨none, [], [], tableRows + 16, adjustRows infos [] tableRows, []⟩
  let rowidSeek : List Loop :=
    if t.withoutRowId then []
    else
      let (fixed, bounds) := seekOf [(some .rowid, .binary, false)] cs
      if fixed.isEmpty && bounds.isEmpty then []
      else
        let (cost, rows) := seekCost t none true fixed bounds
        [⟨none, fixed, bounds, cost, adjustRows infos (usedBy fixed bounds) rows, []⟩]
  let plainIndex (i : Index) : Bool :=
    i.filter.isNone && i.terms.all fun term => match term.key with
      | .expr _ => false
      | _ => true
  let indexLoops := (indexes.filter plainIndex).flatMap fun i =>
    let cols := i.columnRefs t
    let covering := i.covers t read
    let helpsOrder := wishes.any fun w => match w.column with
      | some c => cols.any fun (d, _, _) => d == some c && c != .rowid
      | none => false
    let wholeIndex : List Loop :=
      if helpsOrder || (covering && i.entryWidth t < t.rowWidth) then
        let scan := tableRows + 1 + (15 * i.entryWidth t) / t.rowWidth
        let cost := if covering then scan
          else
            let held := cols.filterMap (·.1)
            let coveredTerms := where_.takeWhile fun e =>
              match s.columnsRead 200 e with
              | some read => read.all fun c => c == .rowid || held.contains c
              | none => false
            let lookups := coveredTerms.foldl (fun n e =>
              n - 1 - (if (s.termInfo e).equality then 19 else 0)) (tableRows + 16)
            logEstAdd scan lookups
        [⟨some i, [], [], cost, adjustRows infos [] tableRows, []⟩]
      else []
    let (fixed, bounds) := seekOf cols cs
    let sought : List Loop :=
      if fixed.isEmpty && bounds.isEmpty then []
      else
        let (cost, rows) := seekCost t (some i) covering fixed bounds
        [⟨some i, fixed, bounds, cost, adjustRows infos (usedBy fixed bounds) rows, []⟩]
    wholeIndex ++ sought
  [whole] ++ rowidSeek ++ indexLoops

/-- The terms of an expression joined by `AND`. -/
def Expr.conjuncts : Nat → Expr → List Expr
  | 0, e => [e]
  | fuel + 1, .binary .and a b => Expr.conjuncts fuel a ++ Expr.conjuncts fuel b
  | _, e => [e]

/-- The sides of an expression joined by `OR`. -/
def Expr.disjuncts : Nat → Expr → List Expr
  | 0, e => [e]
  | fuel + 1, .binary .or a b => Expr.disjuncts fuel a ++ Expr.disjuncts fuel b
  | _, e => [e]

/-- The cheapest way to read the rows of one side of an `OR` that seeks by a constraint. -/
def ScanTable.branchLoop (s : ScanTable) (indexes : List Index) (read : Option (List ColumnRef))
    (side : Expr) : Option Loop :=
  let seeking := (s.simpleLoops indexes (Expr.conjuncts 200 side) read []).filter fun l =>
    !(l.fixed.isEmpty && l.bounds.isEmpty)
  seeking.foldl (fun best l => match best with
    | some b => if l.cost < b.cost || (l.cost == b.cost && l.rows < b.rows) then some l else best
    | none => some l) none

/-- The ways the planner weighs to read a table: those that split no `OR`, then, for each term
of the `WHERE` clause that is an `OR` whose every side can be sought, the way that reads each
side in turn. That way costs about the sum of its sides. -/
def ScanTable.loops (s : ScanTable) (indexes : List Index) (where_ : List Expr)
    (read : Option (List ColumnRef)) (wishes : List OrderWish) : List Loop :=
  let orLoops := where_.filterMap fun e =>
    match e with
    | .binary .or _ _ => do
      let sides := Expr.disjuncts 200 e
      let found ← sides.mapM (s.branchLoop indexes read)
      let first ← found.head?
      let cost := (found.drop 1).foldl (fun c l => logEstAdd c l.cost) first.cost + 1
      let rows := (found.drop 1).foldl (fun c l => logEstAdd c l.rows) first.rows
      pure { index := none, fixed := [], bounds := [], cost, rows,
             branches := sides.zip (found.map (·.index)) }
    | _ => none
  s.simpleLoops indexes where_ read wishes ++ orLoops

/-! ## The order a way of reading gives -/

/-- How many leading terms of the order asked for a way of reading gives, whether it reads
backwards to give them, and whether it reads the rows with a null in its first free column at
the other end from where the index keeps them, to put nulls where a term asks. Columns the `WHERE` clause fixes to one value are in order whatever
comes; otherwise the index's next column must be the next term asked for, under the same
collation and in a direction that agrees with the terms before. Once the index has given a
distinct key, every later term that reads the table is in order too. A term that puts nulls
against its direction is given only by the first column the `WHERE` clause leaves free. A
`GROUP BY` (`anyDirection`) takes its terms in any order and either direction. -/
def ScanTable.ordering (s : ScanTable) (l : Loop) (cs : List Constraint) (wishes : List OrderWish)
    (anyDirection : Bool) : Nat × Bool × Bool :=
  let t := s.table
  let n := wishes.length
  -- terms on columns the WHERE clause fixes
  let fixedByWhere (w : OrderWish) : Bool :=
    match w.column with
    | some c => cs.any fun k => k.column == c &&
        (k.ask == .null || (k.ask == .equal && (c == .rowid || k.collation == w.collation)))
    | none => false
  let sat0 : List Bool := wishes.map fixedByWhere
  let (cols, keyCount, distinct0) : List (Option ColumnRef × Collation × Bool) × Nat × Bool :=
    match l.index with
    | none => ([(some .rowid, .binary, false)], 0, true)
    | some i => (i.columnRefs t, i.terms.length, i.unique)
  let nEq := l.fixed.length
  -- walk the columns: (satisfied, distinct, direction set, backwards, ended, rowid matched,
  -- nulls moved to the other end)
  let step (state : List Bool × Bool × Bool × Bool × Bool × Bool × Bool)
      (entry : (Option ColumnRef × Collation × Bool) × Nat) :
      List Bool × Bool × Bool × Bool × Bool × Bool × Bool :=
    let (sat, distinct, revSet, rev, ended, rowidMatched, nullsMoved) := state
    let ((col, coll, colDesc), j) := entry
    if ended then state
    else
      let fixedHere : Option Constraint := l.fixed[j]?
      let skip : Bool := match fixedHere with
        | some k => k.ask == Ask.equal || k.ask == Ask.null
        | none => false
      if skip then
        let distinct := if (fixedHere.map (fun (k : Constraint) => k.ask == Ask.null)).getD false then false
          else distinct
        (sat, distinct, revSet, rev, ended, rowidMatched, nullsMoved)
      else
        let distinct := match col with
          | some (.column k) =>
            if j ≥ nEq && (t.columns.getD k default).notNull.isNone then false else distinct
          | some .rowid => distinct
          | none => false
        -- the terms this column may give: the first one left, or any for a GROUP BY
        let candidates : List (OrderWish × Nat) := wishes.zipIdx.filter fun (_, i) => !sat.getD i true
        let candidates := if anyDirection then candidates else candidates.take 1
        let found := candidates.find? fun ((w : OrderWish), _) =>
          col.isSome && w.column == col && (col == some ColumnRef.rowid || w.collation == coll)
        let agreed : Option (Nat × Bool × Bool) := match found with
          | none => none
          | some (w, i) =>
            if w.bigNulls && j != nEq then none
            else if anyDirection then some (i, revSet, rev)
            else if revSet then
              if (rev != colDesc) == w.descending then some (i, revSet, rev) else none
            else some (i, true, colDesc != w.descending)
        match agreed with
        | some (i, revSet, rev) =>
          let bigNulls := match found with
            | some (w, _) => w.bigNulls
            | none => false
          (sat.set i true, distinct, revSet, rev, false, rowidMatched || col == some ColumnRef.rowid,
            nullsMoved || bigNulls)
        | none =>
          let distinct := if j == 0 || j < keyCount then false else distinct
          (sat, distinct, revSet, rev, true, rowidMatched, nullsMoved)
  let (sat, distinct, _, rev, _, rowidMatched, nullsMoved) :=
    cols.zipIdx.foldl step (sat0, distinct0, false, false, false, false, false)
  let distinct := distinct || rowidMatched
  let sat := if distinct then (sat.zip wishes).map fun (b, w) => b || w.readsTable else sat
  if n == 0 || !l.branches.isEmpty then (0, false, false)
  else if sat.all id then (n, rev, nullsMoved)
  else if distinct then (0, rev, nullsMoved)
  else (((List.range n).reverse.find? (fun i => i > 0 && (sat.take i).all id)).getD 0, rev, nullsMoved)

/-- The estimated cost of sorting rows of an estimate by an order of some terms, the first
`sorted` of which come in order already, for a result of some columns. -/
def sortingCost (rows : Int) (terms sorted resultColumns : Nat) : Int :=
  let cols := logEst ((resultColumns + 59) / 30)
  let cost := rows + cols
  let cost := if sorted > 0 then cost + logEst ((terms - sorted) * 100 / terms) - 66 else cost
  cost + estLog rows

/-- How a query reads its table: through an index or in row id order, backwards or not, and
whether that gives the whole order the query asks for. -/
structure ScanChoice where
  index : Option Index
  backwards : Bool
  ordered : Bool
  /-- The sides of an `OR` read in turn, each through its index. -/
  branches : List (Expr × Option Index) := []
  /-- The column of the index, the first the `WHERE` clause leaves free, whose nulls are read
  at the other end from where the index keeps them, if any. -/
  nullsMoved : Option Nat := none
  deriving Inhabited

/-- The way of reading a query takes. A row id fixed by an equality, or a unique index whose
columns are all fixed by equalities, is taken at once. Otherwise the cheapest way is taken,
first without regard to order, and then, when an order is asked for, counting a sort for each
way that does not give it, of as many rows as the cheapest way gives. When a `GROUP BY` is
given and its terms are those of the `ORDER BY` (`sameOrder`), the way chosen is read in the
direction that gives the `ORDER BY` too, if one does. -/
def ScanTable.choose (s : ScanTable) (indexes : List Index) (where_ : List Expr)
    (read : Option (List ColumnRef)) (wishes : List OrderWish) (anyDirection : Bool)
    (resultColumns : Nat) (sameOrder : List OrderWish) : ScanChoice :=
  let cs := where_.zipIdx.flatMap fun (e, k) => s.constraintsOf k e
  let loops := s.loops indexes where_ read wishes
  let shortcut := loops.find? fun l =>
    match l.index with
    | none => !l.fixed.isEmpty && l.fixed.all (·.ask == .equal)
    | some i => i.unique && l.fixed.length ≥ i.terms.length && l.fixed.all (·.ask == .equal)
  match shortcut with
  | some l => ⟨l.index, false, true, [], none⟩
  | none =>
    let better (a b : Int × Int × Int) : Bool :=
      a.1 < b.1 || (a.1 == b.1 && (a.2.1 < b.2.1 || (a.2.1 == b.2.1 && a.2.2 < b.2.2)))
    let first := loops.headD default
    let plain := loops.foldl (fun best l =>
      if better (l.cost, l.rows, l.cost) (best.cost, best.rows, best.cost) then l else best) first
    if wishes.isEmpty then ⟨plain.index, false, false, plain.branches, none⟩
    else
      let rowsToSort := if plain.rows < 0 then 1 else plain.rows + 1
      let n := wishes.length
      let weigh (l : Loop) : (Int × Int × Int) × Bool × Bool × Bool :=
        let (sat, rev, nullsMoved) := s.ordering l cs wishes anyDirection
        if sat == n then ((l.cost, l.rows, l.cost - 2), rev, true, nullsMoved)
        else ((logEstAdd l.cost (sortingCost rowsToSort n sat resultColumns) + 3, l.rows, l.cost), rev,
          false, nullsMoved)
      let (firstKey, firstRev, firstOrdered, firstNulls) := weigh first
      let (_, best, rev, ordered, nullsMoved) := loops.foldl (fun acc l =>
        let (key, _, _, _, _) := acc
        let (k, r, o, z) := weigh l
        if better k key then (k, l, r, o, z) else acc) (firstKey, first, firstRev, firstOrdered, firstNulls)
      -- a GROUP BY that is also the ORDER BY is read in the direction of the ORDER BY
      let (rev, nullsMoved) :=
        if ordered && anyDirection && !sameOrder.isEmpty then
          let (sat, rev2, nulls2) := s.ordering best cs sameOrder false
          if sat == sameOrder.length then (rev2, nulls2) else (rev, nullsMoved)
        else (rev, nullsMoved)
      ⟨best.index, rev, ordered, best.branches, if nullsMoved then some best.fixed.length else none⟩

end EnergyModel.Sql
