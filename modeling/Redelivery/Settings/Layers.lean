import Redelivery.Number.Decimal
import Redelivery.Number.Shortest
import Redelivery.Settings.Document
import Redelivery.Text.Affix

/-!
# Settings — Layers

Settings from several places, each of which may change what the ones before it say: files, and
variables of the environment.  Tables are merged key by key, however deep; any other value replaces
what was there (`Layer.put`).  Values are taken leniently: where a number is wanted, a text that
writes one will do, and so on.
-/

namespace Redelivery

/-- Values of the layers. -/
inductive Layer where
  | datum (d : Datum)
  | list (items : List Layer)
  | table (entries : List (String × Layer))
  deriving Inhabited

namespace Layer

/-- A table without entries. -/
def empty : Layer := .table []

/-- The entries of a table; any other value has none. -/
def entries : Layer → List (String × Layer)
  | .table es => es
  | _ => []

/-- Entries with a value for a key in place of an earlier one. -/
def replace (es : List (String × Layer)) (key : String) (v : Layer) : List (String × Layer) :=
  es.filter (·.1 ≠ key) ++ [(key, v)]

mutual

/-- A table with a value for a key, where a table is merged into what is there.  What is no table
becomes one. -/
def put (target : Layer) (key : String) (v : Layer) : Layer :=
  match v with
  | .table incoming =>
      let old := ((entries target).lookup key).getD empty
      .table (replace (entries target) key (merge old incoming))
  | .datum d => .table (replace (entries target) key (.datum d))
  | .list items => .table (replace (entries target) key (.list items))

/-- A table with other entries merged into it, one after the other. -/
def merge (target : Layer) (incoming : List (String × Layer)) : Layer :=
  match incoming with
  | [] => target
  | (key, v) :: rest => merge (put target key v) rest

end

/-- A table with a value at the end of a path of keys. -/
def putAt (target : Layer) : (path : List String) → Layer → Layer
  | [], _ => target
  | [key], v => put target key v
  | key :: path, v =>
      let old := ((entries target).lookup key).getD empty
      .table (replace (entries target) key (putAt old path v))

/-- Whether a character may stand in a key of a path. -/
def isPathChar (c : Char) : Bool := c.isAlphanum || c == ' ' || c == '_' || c == '-'

/-- The keys of a path, which are written with points between them; what is no such path is one
key. -/
def pathOf (key : String) : List String :=
  let keys := key.toList.splitOn '.'
  if keys.all fun k => !k.isEmpty && k.all isPathChar then keys.map String.ofList else [key]

/-- The layers with one more on top, whose keys are paths. -/
def cover (layers : Layer) (es : List (String × Layer)) : Layer :=
  es.foldl (fun acc (key, v) => acc.putAt (pathOf key) v) layers

/-! ### Files -/

/-- The integer of 64 bits that a text writes. -/
def int64? (s : String) : Option Int :=
  (Decimal.int? s.toList).filter fun i =>
    Int64.minValue.toInt ≤ i && i ≤ Int64.maxValue.toInt

/-- What a plain text in a file means. -/
def fileDatum (s : String) : Datum :=
  let based? : Option Int := match s.toList with
    | '0' :: 'x' :: ds => ((Yaml.digitsIn? 16 ds).filter (· < Nat.pow 2 63)).map Int.ofNat
    | '0' :: 'o' :: ds => ((Yaml.digitsIn? 8 ds).filter (· < Nat.pow 2 63)).map Int.ofNat
    | _ => none
  match based?, s with
  | some i, _ => .int i
  | none, "" | none, "~" | none, "null" => .null
  | none, "true" => .bool true
  | none, "false" => .bool false
  | none, s =>
      match int64? s, Scientific.readOrWord? s with
      | some i, _ => .int i
      | none, some x => .float x
      | none, none => .text s

/-- Whether a plain text is a number that a file may not hold: a word after a point. -/
def isPointedWord (s : String) : Bool :=
  [".inf", ".Inf", ".INF", "+.inf", "+.Inf", "+.INF", "-.inf", "-.Inf", "-.INF", ".nan",
    ".NAN"].contains s

/-- What a plain text in a file means under a tag: a text, but for the tags of other kinds of
values, under which it means nothing if it does not write one. -/
def taggedDatum (tag s : String) : Datum :=
  match Yaml.coreName? tag, s with
  | some "bool", "true" => .bool true
  | some "bool", "false" => .bool false
  | some "bool", _ | some "null", _ => .null
  | some "int", s => ((int64? s).map .int).getD .null
  | some "float", s => ((Scientific.readOrWord? s).map .float).getD .null
  | _, s => .text s

/-- What a plain text in a file means, with a tag or without. -/
def plainDatum (tag : Option String) (s : String) : Except SettingsFlaw Datum :=
  if isPointedWord s && tag.all (Yaml.coreName? · == some "float") then
    .error (.mismatch "a number")
  else .ok (match tag with
    | some tag => taggedDatum tag s
    | none => fileDatum s)

/-- The key that a node of a file is. -/
def keyOf (n : Yaml.Node) : Except SettingsFlaw String :=
  match n with
  | .scalar false s => .ok s
  | .scalar true s =>
      match fileDatum s with
      | .text s => .ok s
      | .int i => .ok (toString i)
      | _ => .error (.mismatch "a key")
  | .tagged _ (.scalar _ s) => .ok s
  | _ => .error (.mismatch "a key")

mutual

/-- The value of a node. -/
def ofNode (n : Yaml.Node) : Except SettingsFlaw Layer :=
  match n with
  | .scalar true s => (plainDatum none s).map .datum
  | .scalar false s => .ok (.datum (.text s))
  | .list items => return .list (← ofItems items)
  | .map es => return .table (← ofEntries es)
  | .tagged tag (.scalar true s) => (plainDatum (some tag) s).map .datum
  | .tagged _ n => ofNode n

/-- The values of nodes. -/
def ofItems (ns : List Yaml.Node) : Except SettingsFlaw (List Layer) :=
  match ns with
  | [] => return []
  | n :: ns => return (← ofNode n) :: (← ofItems ns)

/-- The entries of a map, of which the last under a key counts. -/
def ofEntries (es : List (Yaml.Node × Yaml.Node)) :
    Except SettingsFlaw (List (String × Layer)) :=
  match es with
  | [] => return []
  | (k, v) :: es => do
      let key ← keyOf k
      let v ← ofNode v
      let rest ← ofEntries es
      return if rest.any (·.1 == key) then rest else (key, v) :: rest

end

/-- The entries of a file, which has to hold a table or nothing. -/
def ofFile (text : String) : Except SettingsFlaw (List (String × Layer)) := do
  match ← (Yaml.read text).mapError SettingsFlaw.document with
  | none => return []
  | some n =>
      match ← ofNode n with
      | .table es => return es
      | _ => throw (.mismatch "a map")

/-! ### The environment -/

/-- A text in small letters, of which only those of ASCII are changed. -/
def lower (s : String) : String := String.ofList (s.toList.map Char.toLower)

/-- A text with a point in place of every separator, found from the left. -/
def pointed : List Char → List Char
  | '_' :: '_' :: cs => '.' :: pointed cs
  | c :: cs => c :: pointed cs
  | [] => []

/-- What the value of a variable means. -/
def variableDatum (s : String) : Datum :=
  match lower s, int64? s, Scientific.readOrWord? s with
  | "true", _, _ => .bool true
  | "false", _, _ => .bool false
  | _, some i, _ => .int i
  | _, none, some x => .float x
  | _, none, none => .text s

/-- The entry that a variable stands for, if its name begins with `start`. -/
def ofVariable? (start : String) (v : String × String) : Option (String × Layer) :=
  (Text.dropPrefix? (lower v.1) (lower start)).map fun key =>
    (String.ofList (pointed key.toList), .datum (variableDatum v.2))

/-! ### Lenient values -/

/-- The truth value that a word stands for. -/
def wordBool? (s : String) : Option Bool :=
  if ["true", "on", "yes"].contains (lower s) then some true
  else if ["false", "off", "no"].contains (lower s) then some false
  else none

/-- A datum as a text. -/
def text? : Layer → Option String
  | .datum (.text s) => some s
  | .datum (.bool b) => some (toString b)
  | .datum (.int i) => some (toString i)
  | .datum (.float x) => some (Shortest.positional.write x)
  | _ => none

/-- A datum as a truth value. -/
def bool? : Layer → Option Bool
  | .datum (.bool b) => some b
  | .datum (.int i) => some (i ≠ 0)
  | .datum (.float x) => some (x != 0.0)
  | .datum (.text "1") => some true
  | .datum (.text "0") => some false
  | .datum (.text s) => wordBool? s
  | _ => none

/-- A datum as a natural number of 64 bits. -/
def nat64? : Layer → Option Nat
  | .datum (.bool b) => some b.toNat
  | .datum (.int i) => if 0 ≤ i then some i.toNat else none
  | .datum (.float x) => some x.round.toUInt64.toNat
  | .datum (.text s) =>
      match wordBool? s with
      | some b => some b.toNat
      | none => (Decimal.nat? s.toList).filter (· < UInt64.size)
  | _ => none

/-- A datum as a signed integer of 64 bits. -/
def signed? : Layer → Option Int
  | .datum (.bool b) => some b.toNat
  | .datum (.int i) => some i
  | .datum (.float x) => some x.round.toInt64.toInt
  | .datum (.text s) =>
      match wordBool? s with
      | some b => some b.toNat
      | none => int64? s
  | _ => none

/-- A datum by itself. -/
def datum? : Layer → Option Datum
  | .datum d => some d
  | _ => none

/-- The name of a choice: a text, or the only key of a table. -/
def choice? : Layer → Option String
  | .datum (.text s) => some s
  | .table [(key, _)] => some key
  | _ => none

instance : Source Layer where
  text? := text?
  bool? := bool?
  nat? bits x := (nat64? x).map (· % Nat.pow 2 bits)
  int? bits x := (signed? x).map fun i => i.bmod (Nat.pow 2 bits)
  items?
    | .list items => some items
    | _ => none
  entries?
    | .table es => some es
    | _ => none
  isAbsent
    | .datum .null => true
    | _ => false
  choice? := choice?
  tagged?
    | .table es => some (.named (es.map fun (k, v) => (k, datum? v)))
    | .list items => some (.ordered (items.map datum?))
    | _ => none

end Layer

namespace Settings

/-- The file that is read if it is there. -/
def standardFile : String := "config.yaml"

/-- The variable that names one more file. -/
def fileVariable : String := "DETOUR_CONFIG"

/-- What the names of variables begin with that change settings. -/
def variableStart : String := "DETOUR__"

/-- The text of a file under its name, or else under the name with an ending. -/
def find? (files : String → Option String) (name : String) : Option String :=
  files name <|> files (name ++ ".yaml") <|> files (name ++ ".yml")

/-- The texts of the files to read: the standard one if it is there, and those that are asked for,
which have to be. -/
def fileTexts (files : String → Option String) (path : Option String)
    (environment : List (String × String)) : Except SettingsFlaw (List String) := do
  let asked := path.toList ++ (environment.lookup fileVariable).toList
  let texts ← asked.mapM fun name =>
    match find? files name with
    | some text => Except.ok text
    | none => .error (.missingFile name)
  return (find? files standardFile).toList ++ texts

/-- The settings from the standard file, the file at `path`, the file that the environment names,
and the variables of the environment, each over the ones before it. -/
def load (files : String → Option String) (path : Option String)
    (environment : List (String × String)) : Except SettingsFlaw Settings := do
  let layers ← (← fileTexts files path environment).foldlM
    (fun (acc : Layer) text => do return acc.cover (← Layer.ofFile text)) Layer.empty
  ofSource (layers.cover (environment.filterMap (Layer.ofVariable? variableStart)))

end Settings

end Redelivery
