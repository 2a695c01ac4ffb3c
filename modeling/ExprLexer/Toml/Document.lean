import ExprLexer.Toml.Value

/-!
# Assembling a TOML document

A document is built one definition at a time into a tree of tables. Each table remembers how it
came to be: made on the way to a deeper table header, defined by its own header, or made by a
dotted key. The rules of TOML 1.0 follow from that: a key is defined once; a header defines a
table once, and not one that a dotted key made; a dotted key adds only to a table that dotted
keys made, and on its way passes through no table that a header defined; headers pass through
any table; headers and dotted keys pass through an array of tables into its last element; an
inline table is closed once written, and inside it an inline table written out takes no dotted
key of its own, though dotted keys may pass through it.
-/

namespace ExprLexer.Toml

/-- How a table of a document came to be. -/
inductive Origin where
  /-- Made on the way to a deeper header. -/
  | implicit
  /-- Defined by its own header. -/
  | header
  /-- Written out as an inline table, inside the inline table around it. -/
  | inline
  /-- Made by a dotted key. -/
  | dotted
  deriving DecidableEq, Repr

/-- A node of a document under construction. -/
inductive Node where
  /-- A value written in one piece: any value, or an array of values. At the level of a
  document an inline table is one too. -/
  | leaf (v : Value)
  /-- A table and its entries in order of definition. -/
  | table (origin : Origin) (entries : List (String × Node))
  /-- An array of tables, each given by a header `[[…]]`. -/
  | tables (items : List (List (String × Node)))
  deriving Repr, Inhabited

/-- The entries of a table under construction. -/
abbrev Entries := List (String × Node)

namespace Entries

/-- The node at key `k`. -/
def get? (es : Entries) (k : String) : Option Node := es.lookup k

/-- The entries with `k` bound to `n`, in place if `k` is bound already, else at the end. -/
def set (es : Entries) (k : String) (n : Node) : Entries :=
  if es.any (·.1 == k) then es.map fun e => if e.1 == k then (k, n) else e else es ++ [(k, n)]

/-- Defines `n` at key `k` of the table that the dotted path `ks` leads to from these entries.
The path passes through the tables made on the way to a header or by dotted keys, through inline
tables written out, and through an array of tables into its last element, making the tables it
misses; a table that a header defined stops it. The table it ends at must be one that dotted
keys made, so that a dotted key never adds to a table that a header or an inline table defined.
A path that meets a value fails, and so does a key already defined. -/
def insertDotted : Entries → List String → String → Node → Except ParseError Entries
  | es, [], k, n =>
    match es.get? k with
    | some _ => .error (.redefined k)
    | none => .ok (es.set k n)
  | es, p :: ps, k, n =>
    match es.get? p with
    | none => do
      let sub ← insertDotted [] ps k n
      pure (es.set p (.table .dotted sub))
    | some (.table o sub) =>
      if o == .header || (ps.isEmpty && o != .dotted) then .error (.redefined p)
      else do
        let sub ← insertDotted sub ps k n
        pure (es.set p (.table o sub))
    | some (.tables items) =>
      match items.getLast?, ps with
      | some last, _ :: _ => do
        let last ← insertDotted last ps k n
        pure (es.set p (.tables (items.dropLast ++ [last])))
      | _, _ => .error (.redefined p)
    | some (.leaf _) => .error (.redefined p)

/-- Opens the table of a header `ks`, an array-of-tables header when `isArray`: the entries
with that table defined, or a new element appended to that array. -/
def openHeader : Entries → List String → Bool → Except ParseError Entries
  | _, [], _ => .error (.unexpected "a key")
  | es, [k], isArray =>
    match es.get? k, isArray with
    | none, false => .ok (es.set k (.table .header []))
    | none, true => .ok (es.set k (.tables [[]]))
    | some (.table .implicit sub), false => .ok (es.set k (.table .header sub))
    | some (.tables items), true => .ok (es.set k (.tables (items ++ [[]])))
    | _, _ => .error (.redefined k)
  | es, k :: ks, isArray =>
    match es.get? k with
    | none => do
      let sub ← openHeader [] ks isArray
      pure (es.set k (.table .implicit sub))
    | some (.table o sub) => do
      let sub ← openHeader sub ks isArray
      pure (es.set k (.table o sub))
    | some (.tables items) =>
      match items.getLast? with
      | some last => do
        let last ← openHeader last ks isArray
        pure (es.set k (.tables (items.dropLast ++ [last])))
      | none => .error (.redefined k)
    | some (.leaf _) => .error (.redefined k)

/-- Applies `f` to the entries of the table at path `ks`, which the headers have opened; an
array of tables stands for its last element. -/
def modifyAt (f : Entries → Except ParseError Entries) : Entries → List String →
    Except ParseError Entries
  | es, [] => f es
  | es, k :: ks =>
    match es.get? k with
    | some (.table o sub) => do
      let sub ← modifyAt f sub ks
      pure (es.set k (.table o sub))
    | some (.tables items) =>
      match items.getLast? with
      | some last => do
        let last ← modifyAt f last ks
        pure (es.set k (.tables (items.dropLast ++ [last])))
      | none => .error (.redefined k)
    | _ => .error (.redefined k)

end Entries

mutual
/-- The value a node stands for. -/
def Node.toValue : Node → Value
  | .leaf v => v
  | .table _ es => .table (entriesToValue es)
  | .tables items => .array (itemsToValue items)

/-- The entries as a table's entries. -/
def entriesToValue : List (String × Node) → List (String × Value)
  | [] => []
  | (k, n) :: rest => (k, n.toValue) :: entriesToValue rest

/-- The elements of an array of tables. -/
def itemsToValue : List (List (String × Node)) → List Value
  | [] => []
  | es :: rest => .table (entriesToValue es) :: itemsToValue rest
end

end ExprLexer.Toml
