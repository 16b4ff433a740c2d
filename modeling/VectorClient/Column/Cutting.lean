import VectorClient.Column.Basic

/-!
# Cutting and joining columns

`slice` copies a range of rows, `emptyLike` keeps only the layout, and `append`
puts the rows of one column behind those of another of the same layout. Two
layouts are the same if the kinds agree and, for structs, the parts agree in
order, name and layout at every depth.

A struct is cut part by part, so a part with fewer rows than the first one can
make the cut fail although the range suits the struct.

A struct is also appended to part by part, in place. `extend` shows what has become
of the column by then if a part fails, `append` only what a success makes of it.
-/

namespace VectorClient.Column

mutual

/-- A column of the same name and layout without rows. -/
def emptyLike : Column → Column
  | flat name kind _ => flat name kind []
  | struct name parts => struct name (emptyParts parts)

def emptyParts : List Column → List Column
  | [] => []
  | part :: rest => emptyLike part :: emptyParts rest

end

mutual

/-- The rows from `start` up to `stop`, which may lie behind the end. -/
def slice (start stop : Nat) : Column → Except DataError Column
  | flat name kind rows =>
    if stop ≤ start ∨ rows.length ≤ start then
      .error (.invalidRange name start stop rows.length)
    else .ok (flat name kind ((rows.take stop).drop start))
  | struct name parts =>
    let rows := rowCount (struct name parts)
    if stop ≤ start ∨ rows ≤ start then .error (.invalidRange name start stop rows)
    else (sliceParts start (min stop rows) parts).map (struct name)

def sliceParts (start stop : Nat) : List Column → Except DataError (List Column)
  | [] => .ok []
  | part :: rest => do
    let part ← slice start stop part
    let rest ← sliceParts start stop rest
    return part :: rest

end

mutual

def sameLayout : Column → Column → Bool
  | flat _ k _, flat _ l _ => decide (k = l)
  | struct _ ps, struct _ qs => samePartLayouts ps qs
  | _, _ => false

def samePartLayouts : List Column → List Column → Bool
  | [], [] => true
  | p :: ps, q :: qs => p.name == q.name && sameLayout p q && samePartLayouts ps qs
  | _, _ => false

end

/-- The error of joining rows of different kinds: arrays are told apart by their elements. -/
def kindMismatch (field : String) : RowKind → RowKind → DataError
  | .array s, .array t => .typeMismatch field s.dataType t.dataType
  | k, l => .typeMismatch field k.dataType l.dataType

mutual

/-- The rows of the second column behind those of the first, whose name is kept. -/
def append : Column → Column → Except DataError Column
  | flat name k a, flat _ l b =>
    if h : l = k then .ok (flat name k (a ++ h ▸ b)) else .error (kindMismatch name k l)
  | struct name ps, struct _ qs =>
    if samePartLayouts ps qs then (appendParts ps qs).map (struct name)
    else .error (.invalidValue (.structLayout name))
  | c, d => .error (.typeMismatch c.name c.dataType d.dataType)

def appendParts : List Column → List Column → Except DataError (List Column)
  | p :: ps, q :: qs => do
    let p ← append p q
    let ps ← appendParts ps qs
    return p :: ps
  | ps, _ => .ok ps

end

mutual

/-- Appends the rows of the second column in place: what the first column has become, next to
the outcome. The parts of a struct are extended one after another, up to the first that fails. -/
def extend : Column → Column → Except DataError Unit × Column
  | flat name k a, flat _ l b =>
    if h : l = k then (.ok (), flat name k (a ++ h ▸ b))
    else (.error (kindMismatch name k l), flat name k a)
  | struct name ps, struct _ qs =>
    if samePartLayouts ps qs then
      let (outcome, parts) := extendParts ps qs
      (outcome, struct name parts)
    else (.error (.invalidValue (.structLayout name)), struct name ps)
  | c, d => (.error (.typeMismatch c.name c.dataType d.dataType), c)

def extendParts : List Column → List Column → Except DataError Unit × List Column
  | p :: ps, q :: qs =>
    match extend p q with
    | (.error e, p) => (.error e, p :: ps)
    | (.ok (), p) =>
      let (outcome, ps) := extendParts ps qs
      (outcome, p :: ps)
  | ps, _ => (.ok (), ps)

end

end VectorClient.Column
