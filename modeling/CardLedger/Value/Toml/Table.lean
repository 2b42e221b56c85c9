import CardLedger.Value.Basic

/-!
# Tables under construction

A settings text builds a tree of tables line by line. A table may be opened once by its header and
may be extended by dotted keys only where dotted keys made it; a table that exists only because
something below it was named may still be opened. What breaks these rules is refused.
-/

namespace CardLedger.Value.Toml

/-- A node of the tree under construction. -/
inductive Node where
  /-- A finished value. -/
  | leaf (v : Value)
  /-- A table; `implicit` if no header has opened it, `dotted` if dotted keys have made it. -/
  | table (implicit dotted : Bool) (fields : List (String × Node))
  /-- A list of tables, each opened by a header of its own. -/
  | tables (elements : List (List (String × Node)))

/-- The fields of a table. -/
abbrev Fields := List (String × Node)

/-- Replace the node of a name or add it at the end. -/
def Fields.set (name : String) (node : Node) : Fields → Fields
  | [] => [(name, node)]
  | (key, old) :: rest =>
      if key = name then (name, node) :: rest else (key, old) :: Fields.set name node rest

/-- Change the last element of a list. -/
def changeLast? {α : Type} (change : α → Option α) : List α → Option (List α)
  | [] => none
  | [a] => (change a).map fun b => [b]
  | a :: rest => (changeLast? change rest).map (a :: ·)

/-- Change the table at the end of a path, given its `dotted` flag, and make the missing tables on
the way. A list of tables stands for its last element. -/
def descend? (byKey : Bool) (change : Bool → Fields → Option Fields) :
    List String → Bool → Fields → Option Fields
  | [], dotted, fields => change dotted fields
  | name :: path, _, fields =>
      match fields.lookup name with
      | none => do
          let made ← descend? byKey change path byKey []
          some (Fields.set name (.table true byKey made) fields)
      | some (.leaf _) => none
      | some (.table implicit dotted inner) =>
          if byKey && !implicit then none
          else do
            let changed ← descend? byKey change path dotted inner
            some (Fields.set name (.table implicit dotted changed) fields)
      | some (.tables elements) => do
          let changed ← changeLast? (descend? byKey change path false) elements
          some (Fields.set name (.tables changed) fields)

/-- Open the table of a header. -/
def openTable? (path : List String) (name : String) (root : Fields) : Option Fields :=
  descend? false (fun _ fields =>
    match fields.lookup name with
    | none => some (Fields.set name (.table false false []) fields)
    | some (.table true false inner) => some (Fields.set name (.table false false inner) fields)
    | some _ => none) path false root

/-- Open one more element of a list of tables. -/
def openElement? (path : List String) (name : String) (root : Fields) : Option Fields :=
  descend? false (fun _ fields =>
    match fields.lookup name with
    | none => some (Fields.set name (.tables [[]]) fields)
    | some (.tables elements) => some (Fields.set name (.tables (elements ++ [[]])) fields)
    | some _ => none) path false root

/-- Give a value to a dotted key in a table. -/
def assign? (path : List String) (name : String) (v : Value) (fields : Fields) : Option Fields :=
  descend? true (fun dotted inner =>
    if dotted == path.isEmpty then none
    else
      match inner.lookup name with
      | none => some (Fields.set name (.leaf v) inner)
      | some _ => none) path false fields

/-- Give a value to a dotted key in the table opened last. -/
def assignUnder? (opened path : List String) (name : String) (v : Value) (root : Fields) :
    Option Fields :=
  descend? false (fun _ fields => assign? path name v fields) opened false root

mutual

/-- The value that a node stands for. -/
def Node.toValue : Node → Value
  | .leaf v => v
  | .table _ _ fields => .record (fieldValues fields)
  | .tables elements => .list (elementValues elements)

/-- The values of the fields of a table. -/
def fieldValues : List (String × Node) → List (String × Value)
  | [] => []
  | (name, node) :: rest => (name, node.toValue) :: fieldValues rest

/-- The values of the elements of a list of tables. -/
def elementValues : List (List (String × Node)) → List Value
  | [] => []
  | fields :: rest => .record (fieldValues fields) :: elementValues rest

end

end CardLedger.Value.Toml
