import AnalystQuery.Toml.Scalar

/-! TOML documents: tables under headers, with keys that may have several parts. Where a table
came from decides whether more may be added to it: a table under its own header is closed for
keys of other tables, and a table made by a key with several parts is closed for headers. -/

namespace AnalystQuery.Toml

open Json (Raw)

/-- Where a table came from. -/
inductive Origin where
  | header
  | implied
  | dotted
  deriving DecidableEq, Repr

mutual
inductive Node where
  | value (raw : Raw)
  | table (table : Table)
  | tables (items : List Table)

inductive Table where
  | mk (origin : Origin) (entries : List (String × Node))
end

namespace Table

def origin : Table → Origin
  | mk origin _ => origin

def entries : Table → List (String × Node)
  | mk _ entries => entries

def empty (origin : Origin) : Table := mk origin []

def find? (table : Table) (key : String) : Option Node :=
  (table.entries.find? (·.1 == key)).map (·.2)

private def replace (key : String) (node : Node) : List (String × Node) → List (String × Node)
  | [] => [(key, node)]
  | (other, held) :: rest =>
    if other = key then (key, node) :: rest else (other, held) :: replace key node rest

def put (table : Table) (key : String) (node : Node) : Table :=
  mk table.origin (replace key node table.entries)

/-- Changes the table at the end of a path. Tables that are missing on the way are made; of
several tables under one key the last is meant. -/
def changeAt (dotted : Bool) (change : Table → Option Table) :
    List String → Table → Option Table
  | [], table => change table
  | key :: path, table =>
    match table.find? key with
    | none => do
      let made ← changeAt dotted change path (empty (if dotted then .dotted else .implied))
      pure (table.put key (.table made))
    | some (.value _) => none
    | some (.table held) =>
      if dotted && held.origin == .header then none
      else do pure (table.put key (.table (← changeAt dotted change path held)))
    | some (.tables items) => do
      let last ← items.getLast?
      let changed ← changeAt dotted change path last
      pure (table.put key (.tables (items.dropLast ++ [changed])))

/-- Adds a value under a key that is not taken, in a table of the right origin. -/
private def addValue (inner : Bool) (key : String) (value : Raw) (table : Table) : Option Table :=
  if (table.origin == .dotted) != inner then none
  else match table.find? key with
    | some _ => none
    | none => some (table.put key (.value value))

def add (parts : List String) (value : Raw) (table : Table) : Option Table := do
  let key ← parts.getLast?
  let path := parts.dropLast
  changeAt true (addValue (!path.isEmpty) key value) path table

def openTable (parts : List String) (root : Table) : Option Table := do
  let key ← parts.getLast?
  changeAt false (fun table =>
    match table.find? key with
    | none => some (table.put key (.table (empty .header)))
    | some (.table held) =>
      if held.origin == .implied then some (table.put key (.table (mk .header held.entries)))
      else none
    | some _ => none) parts.dropLast root

def openItem (parts : List String) (root : Table) : Option Table := do
  let key ← parts.getLast?
  changeAt false (fun table =>
    match table.find? key with
    | none => some (table.put key (.tables [empty .header]))
    | some (.tables items) => some (table.put key (.tables (items ++ [empty .header])))
    | some _ => none) parts.dropLast root

end Table

mutual
/-- What stands under a key, as a value. -/
def Node.raw : Node → Raw
  | .value raw => raw
  | .table table => table.raw
  | .tables items => .array (tablesRaw items)

def Table.raw : Table → Raw
  | .mk _ entries => .object (entriesRaw entries)

def tablesRaw : List Table → List Raw
  | [] => []
  | table :: rest => table.raw :: tablesRaw rest

def entriesRaw : List (String × Node) → List (Option String × Raw)
  | [] => []
  | (key, node) :: rest => (some key, node.raw) :: entriesRaw rest
end

mutual
def readValue? (fuel depth : Nat) (text : List Char) : Option (Raw × List Char) :=
  match fuel with
  | 0 => none
  | fuel + 1 =>
    match text with
    | '[' :: rest =>
      match depth with
      | 0 => none
      | depth + 1 => do
        let (items, rest) ← readItems? fuel depth rest
        pure (.array items, rest)
    | '\x7b' :: rest =>
      match depth with
      | 0 => none
      | depth + 1 =>
        match skipSpaces rest with
        | '\x7d' :: rest => some (.object [], rest)
        | rest => do
          let (table, rest) ← readInline? fuel depth (.empty .header) rest
          pure (table.raw, rest)
    | 't' :: 'r' :: 'u' :: 'e' :: rest => some (.bool true, rest)
    | 'f' :: 'a' :: 'l' :: 's' :: 'e' :: rest => some (.bool false, rest)
    | c :: _ =>
      if c = '"' || c = '\'' then do
        let (string, rest) ← readString? text
        pure (.string (some string), rest)
      else readNumber? text
    | [] => none

/-- Reads the items of an array up to its closing bracket; a comma may follow the last one. -/
def readItems? (fuel depth : Nat) (text : List Char) : Option (List Raw × List Char) :=
  match fuel with
  | 0 => none
  | fuel + 1 =>
    match skipLines fuel text with
    | ']' :: rest => some ([], rest)
    | text => do
      let (item, rest) ← readValue? fuel depth text
      match skipLines fuel rest with
      | ']' :: rest => pure ([item], rest)
      | ',' :: rest =>
        let (items, rest) ← readItems? fuel depth rest
        pure (item :: items, rest)
      | _ => none

def readInline? (fuel depth : Nat) (table : Table) (text : List Char) :
    Option (Table × List Char) :=
  match fuel with
  | 0 => none
  | fuel + 1 => do
    let (parts, rest) ← readKey? text
    let rest ← Calendar.Scan.exactly? '=' rest
    let (value, rest) ← readValue? fuel depth (skipSpaces rest)
    let table ← table.add parts value
    match skipSpaces rest with
    | '\x7d' :: rest => pure (table, rest)
    | ',' :: rest => readInline? fuel depth table rest
    | _ => none
end

private def endOfLine? (text : List Char) : Option (List Char) :=
  match skipComment (skipSpaces text) with
  | [] => some []
  | rest => lineEnd? rest

/-- Reads lines into the table at `path`, which later headers change. -/
def readLines (fuel : Nat) (root : Table) (path : List String) (text : List Char) :
    Option Table :=
  match fuel with
  | 0 => none
  | fuel + 1 =>
    match skipSpaces text with
    | [] => some root
    | '[' :: '[' :: rest => do
      let (parts, rest) ← readKey? rest
      match rest with
      | ']' :: ']' :: rest => do
        readLines fuel (← root.openItem parts) parts (← endOfLine? rest)
      | _ => none
    | '[' :: rest => do
      let (parts, rest) ← readKey? rest
      match rest with
      | ']' :: rest => do
        readLines fuel (← root.openTable parts) parts (← endOfLine? rest)
      | _ => none
    | text =>
      match endOfLine? text with
      | some rest => readLines fuel root path rest
      | none => do
        let (parts, rest) ← readKey? text
        let rest ← Calendar.Scan.exactly? '=' rest
        let (value, rest) ← readValue? (text.length + 1) (nestingLimit - 1) (skipSpaces rest)
        let root ← Table.changeAt false (Table.add parts value) path root
        readLines fuel root path (← endOfLine? rest)

def read? (text : String) : Option Raw := do
  let characters := match text.toList with
    | '\uFEFF' :: rest => rest
    | characters => characters
  let root ← readLines (characters.length + 1) (.empty .header) [] characters
  pure root.raw

end AnalystQuery.Toml
