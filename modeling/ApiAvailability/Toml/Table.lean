/-
How the tables of a TOML document are put together.

A document defines its tables piece by piece, by headers and by keys with
points in them, and it may define nothing twice. What a later piece may add to
depends on how a table came about, so this is kept until the end: a table that
has a header of its own is closed to dotted keys from elsewhere, one that a
header only passed through can still get its own header, and one that a dotted
key made can be added to by dotted keys alone. Tables that are written as a
value, in braces, are closed to everything.
-/
import ApiAvailability.Toml.Value
set_option autoImplicit false

namespace ApiAvailability.Toml

/-- How a table came about. -/
inductive Origin where
  /-- By a header of its own, or as the whole document. -/
  | header
  /-- A header passed through it on its way to a table inside. -/
  | passed
  /-- A dotted key went into it. -/
  | dotted
  deriving DecidableEq

/-- What is defined under a key so far. -/
inductive Node where
  | value (v : Value)
  | table (origin : Origin) (entries : List (String × Node))
  /-- The tables under the same double header, in their order. -/
  | tables (elements : List Node)

namespace Node

/-! ## Changing a table -/

/-- The entries in which what is defined under a key is changed, in its place,
or is defined at the end if nothing was. -/
def alter (key : String) (change : Option Node → Option Node) :
    List (String × Node) → Option (List (String × Node))
  | [] => do pure [(key, ← change none)]
  | (k, n) :: rest =>
    if k = key then do pure ((k, ← change (some n)) :: rest)
    else do pure ((k, n) :: (← alter key change rest))

/-- The list whose last element is changed. -/
def alterLast (change : Node → Option Node) : List Node → Option (List Node)
  | [] => none
  | [n] => do pure [← change n]
  | n :: rest => do pure (n :: (← alterLast change rest))

/-- Defines a key that does not exist yet. -/
def define (n : Node) : Option Node → Option Node
  | none => some n
  | some _ => none

/-! ## Keys with values -/

/-- Defines a value in a table, under the path and the last part of its key. A
dotted key makes the tables on its way, and goes through those that no header
defines; it must end in one that dotted keys made, and a key without points in
one that they did not make. -/
def insert (key : String) (v : Value) (isDotted : Bool) : List String → Node → Option Node
  | [], .table origin entries =>
    if decide (origin = .dotted) = isDotted then do
      pure (.table origin (← alter key (define (.value v)) entries))
    else none
  | k :: path, .table origin entries => do
    pure (.table origin (← alter k (fun
      | none => insert key v isDotted path (.table .dotted [])
      | some (.value _) => none
      | some (.table .header _) => none
      | some (.table o inner) => insert key v isDotted path (.table o inner)
      | some (.tables ts) => do pure (.tables (← alterLast (insert key v isDotted path) ts)))
      entries))
  | _, _ => none

/-- Defines a value in a table under a whole key. -/
def insertKey (key : List String) (v : Value) (table : Node) : Option Node :=
  match key.getLast? with
  | some last => table.insert last v (key.length > 1) key.dropLast
  | none => none

/-! ## Headers -/

/-- Changes the table at the end of a path of headers. Tables on the way that
do not exist are made, and where a double header defined several, the way goes
through the last. -/
def within (change : Node → Option Node) : List String → Node → Option Node
  | [], n => change n
  | k :: path, .table origin entries => do
    pure (.table origin (← alter k (fun
      | none => within change path (.table .passed [])
      | some (.value _) => none
      | some (.table o inner) => within change path (.table o inner)
      | some (.tables ts) => do pure (.tables (← alterLast (within change path) ts)))
      entries))
  | _, _ => none

/-- What a header makes of what is under its last part: a new table, or one
that was only passed through. -/
def openTable : Option Node → Option Node
  | none => some (.table .header [])
  | some (.table .passed entries) => some (.table .header entries)
  | some _ => none

/-- What a double header makes of what is under its last part: one more table
after those of the same header. -/
def openElement : Option Node → Option Node
  | none => some (.tables [.table .header []])
  | some (.tables ts) => some (.tables (ts ++ [.table .header []]))
  | some _ => none

/-- Opens the table that a header names, by `opening` what is under the last
part of its key. -/
def openHeader (opening : Option Node → Option Node) (key : List String) (root : Node) :
    Option Node :=
  match key.getLast? with
  | some last => root.within (fun
      | .table origin entries => do pure (.table origin (← alter last opening entries))
      | _ => none) key.dropLast
  | none => none

/-! ## The finished table -/

mutual

/-- The value that is defined. -/
def toValue : Node → Value
  | value v => v
  | table _ entries => .table (toEntries entries)
  | tables elements => .arr (toElements elements)

/-- The values of tables in an array. -/
def toElements : List Node → List Value
  | [] => []
  | n :: rest => n.toValue :: toElements rest

/-- The values under the keys of a table. -/
def toEntries : List (String × Node) → List (String × Value)
  | [] => []
  | (k, n) :: rest => (k, n.toValue) :: toEntries rest

end

/-- The table that keys with their values define, if none is defined twice. -/
def ofPairs? (pairs : List (List String × Value)) : Option Node :=
  pairs.foldlM (fun table pair => table.insertKey pair.1 pair.2) (.table .header [])

end Node

/-- A line of a document that defines something. -/
inductive Line where
  | header (key : List String)
  | doubleHeader (key : List String)
  | pair (key : List String) (v : Value)

/-- A document that is being read: all that is defined, and the path of the
header under which the next pairs stand. -/
structure Draft where
  root : Node
  path : List String

namespace Draft

/-- The document without a line. -/
def blank : Draft := ⟨.table .header [], []⟩

/-- The document after one more line, if the line may stand there. -/
def addLine (d : Draft) : Line → Option Draft
  | .header key => do pure ⟨← d.root.openHeader Node.openTable key, key⟩
  | .doubleHeader key => do pure ⟨← d.root.openHeader Node.openElement key, key⟩
  | .pair key v => do pure ⟨← d.root.within (Node.insertKey key v) d.path, d.path⟩

/-- The table that the lines of a document define. -/
def ofLines? (lines : List Line) : Option Value :=
  (lines.foldlM addLine blank).map fun d => d.root.toValue

end Draft

end ApiAvailability.Toml
