import MacDispatch.Toml.Reader

/-! # TOML documents

The table that the statements of a document describe. A table is given once: by its own header,
or by keys with points; either may only fill in a table that is known from a longer header. -/

namespace MacDispatch.Toml

/-- How a table came about. -/
inductive TableOrigin
  /-- Named within the path of a header. -/
  | passed
  /-- Given by its own header. -/
  | header
  /-- Given by a key with points. -/
  | dotted
deriving DecidableEq, Repr

/-- A document while it is being put together. -/
inductive Node
  | value (value : Toml)
  | table (origin : TableOrigin) (members : List (String × Node))
  /-- The tables of a list so far, the last of them first. -/
  | tables (last : List (String × Node)) (before : List (List (String × Node)))

abbrev Members := List (String × Node)

/-- Changes the member with the given name, or adds what `change` makes of nothing. -/
private def Members.alter (members : Members) (name : String)
    (change : Option Node → Option Node) : Option Members := do
  let node ← change (members.lookup name)
  if (members.lookup name).isNone then return members ++ [(name, node)]
  return members.map fun (k, v) => if k == name then (k, node) else (k, v)

private def within (change : Members → Option Members) : List String → Members → Option Members
  | [], members => change members
  | name :: path, members =>
    members.alter name fun
      | none => (within change path []).map (.table .passed)
      | some (.table origin inner) => (within change path inner).map (.table origin)
      | some (.tables last before) => (within change path last).map (.tables · before)
      | some (.value _) => none

private def declare (name : String) (members : Members) : Option Members :=
  members.alter name fun
    | none => some (.table .header [])
    | some (.table .passed inner) => some (.table .header inner)
    | some _ => none

private def extend (name : String) (members : Members) : Option Members :=
  members.alter name fun
    | none => some (.tables [] [])
    | some (.tables last before) => some (.tables [] (last :: before))
    | some _ => none

/-- An entry under a path relative to its table. A table in which a key with points puts an entry
of its own counts as given by that key; the key may pass through the last table of a list, but
put no entry there. -/
private def insert (value : Toml) : List String → Members → Option Members
  | [], _ => none
  | [name], members => members.alter name fun
      | none => some (.value value)
      | some _ => none
  | name :: path, members =>
    let direct := path.length == 1
    members.alter name fun
      | none => (insert value path []).map (.table .dotted)
      | some (.table .header _) => none
      | some (.table origin inner) =>
        (insert value path inner).map (.table (if direct then .dotted else origin))
      | some (.tables last before) =>
        if direct then none else (insert value path last).map (.tables · before)
      | some (.value _) => none

/-- The document so far, and the path of the table that entries belong to. -/
private structure Progress where
  root : Members := []
  current : List String := []

private def split (path : List String) : Option (List String × String) :=
  path.getLast?.map fun name => (path.dropLast, name)

private def step (progress : Progress) : TomlStatement → Option Progress
  | .header path => do
    let (parents, name) ← split path
    return ⟨← within (declare name) parents progress.root, path⟩
  | .element path => do
    let (parents, name) ← split path
    return ⟨← within (extend name) parents progress.root, path⟩
  | .entry path value => do
    return { progress with root := ← within (insert value path) progress.current progress.root }

mutual

def Node.toToml : Node → Toml
  | .value value => value
  | .table _ members => .table (membersToToml members)
  | .tables last before => .array (tablesToToml before ++ [.table (membersToToml last)])

private def membersToToml : List (String × Node) → List (String × Toml)
  | [] => []
  | (name, node) :: rest => (name, node.toToml) :: membersToToml rest

private def tablesToToml : List (List (String × Node)) → List Toml
  | [] => []
  | members :: rest => tablesToToml rest ++ [.table (membersToToml members)]

end

def ofStatements? (statements : List TomlStatement) : Option (List (String × Toml)) := do
  let progress ← statements.foldlM step {}
  return membersToToml progress.root

def ofText? (text : String) : Option (List (String × Toml)) := do
  ofStatements? (← statements? text)

end MacDispatch.Toml
