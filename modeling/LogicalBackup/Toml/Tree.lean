import LogicalBackup.Datum

/-!
# Tables of a TOML document

A document is a tree of tables.  A table comes to be by a header of its own, by a header of a table
within it, or by a key with dots, and how it came to be decides what may still be added to it: a
header defines a table once, and keys add only to tables of their own kind.
-/

namespace LogicalBackup.Toml

/-- What stands under a key. -/
inductive Node where
  | leaf (d : Datum)
  /-- A table: `isImplied` until a header of its own defines it, and `isDotted` if keys with dots
  made it. -/
  | table (isImplied isDotted : Bool) (entries : List (String × Node))
  /-- An array of tables. -/
  | tables (items : List Node)

namespace Node

/-- A table that a header defines. -/
def defined : Node := table false false []

/-- Puts a node under a key, in place of what stands there. -/
def putEntry (entries : List (String × Node)) (key : String) (node : Node) :
    List (String × Node) :=
  entries.filter (·.1 != key) ++ [(key, node)]

/-- Changes the last item of an array of tables. -/
def changeLast (f : Node → Option Node) (items : List Node) : Option (List Node) :=
  match items.reverse with
  | [] => none
  | last :: before => (f last).map fun last => (last :: before).reverse

/-- Changes the table at the end of a path, whose missing tables are made.  By keys with dots,
`byKeys`, tables that a header defines are not reached. -/
def changeAt (byKeys : Bool) : List String → (Node → Option Node) → Node → Option Node
  | [], f, node => f node
  | key :: path, f, table isImplied isDotted entries =>
    let changed :=
      match entries.lookup key with
      | none => changeAt byKeys path f (table true byKeys [])
      | some (leaf _) => none
      | some (tables items) => (changeLast (changeAt byKeys path f) items).map tables
      | some (table childImplied childDotted children) =>
        if byKeys && !childImplied then none
        else changeAt byKeys path f (table childImplied childDotted children)
    changed.map fun node => table isImplied isDotted (putEntry entries key node)
  | _ :: _, _, _ => none

/-- Changes what stands under a key of a table. -/
def changeEntry (key : String) (f : Option Node → Option Node) : Node → Option Node
  | table isImplied isDotted entries =>
    (f (entries.lookup key)).map fun node =>
      table isImplied isDotted (putEntry entries key node)
  | _ => none

/-- Whether a key that follows `path` may be added to a table: tables that keys with dots made are
added to by such keys alone. -/
def admits (path : List String) : Node → Bool
  | table _ isDotted _ => isDotted != path.isEmpty
  | _ => false

/-- Adds a datum under a key that may have dots, whose last part is `key`. -/
def addKey (path : List String) (key : String) (d : Datum) (node : Node) : Option Node :=
  changeAt true path (fun node =>
    if admits path node then
      changeEntry key (fun found => if found.isSome then none else some (leaf d)) node
    else none) node

/-- Defines the table of a header, which nothing but headers below it may have made before. -/
def define (path : List String) (key : String) (node : Node) : Option Node :=
  changeAt false path (changeEntry key fun
    | none => some defined
    | some (table true false entries) => some (table false false entries)
    | some _ => none) node

/-- Adds a table to the array of a header. -/
def append (path : List String) (key : String) (node : Node) : Option Node :=
  changeAt false path (changeEntry key fun
    | none => some (tables [defined])
    | some (tables items) => some (tables (items ++ [defined]))
    | some _ => none) node

mutual

/-- What a node holds. -/
def datum : Node → Datum
  | leaf d => d
  | table _ _ entries => .object (entryData entries)
  | tables items => .array (itemData items)

/-- What the entries of a table hold. -/
def entryData : List (String × Node) → List (String × Datum)
  | [] => []
  | (key, node) :: rest => (key, datum node) :: entryData rest

/-- What the items of an array of tables hold. -/
def itemData : List Node → List Datum
  | [] => []
  | node :: rest => datum node :: itemData rest

end

end Node

end LogicalBackup.Toml
