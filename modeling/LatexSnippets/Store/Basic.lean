import LatexSnippets.Json.Reader
import LatexSnippets.Json.Writer
import LatexSnippets.Store.FileTree

/-!
Stores keep texts by key, in memory or in a file that holds one JSON object. The file is read anew
for every operation; one that cannot be read counts as empty, and the store counts how often that
happened. How deep the values in a file may be nested depends on where the store is used: reading
goes one level down the stack for each array and object.
-/

namespace LatexSnippets

inductive Store
  | memory (entries : Assoc Text)
  /-- There is room for `levels` arrays and objects inside one another within that of the file. -/
  | file (path : Path) (levels : Nat) (tree : FileTree) (errors : Nat)

inductive StoreError
  | file (e : FileError)
  /-- The file is not UTF-8. -/
  | encoding
  | numeral (e : Numeral.Error)
  /-- The values in the file are nested too deep: there is no room for an array, or else an object.
  -/
  | nesting (array : Bool)
  deriving DecidableEq, Repr

def StoreError.message : StoreError → String
  | .file e => e.message
  | .encoding => "not UTF-8"
  | .numeral e => e.message
  | .nesting array =>
    let kind := if array then "array" else "object"
    s!"maximum recursion depth exceeded while decoding a JSON {kind} from a unicode string"

/-- Operations on a store. One that fails may have changed it. -/
abbrev StoreM := ExceptT StoreError (StateM Store)

namespace Store

/-- The dialect of files, with so many levels below the outermost one. Half a surrogate pair is let
pass. -/
def dialect (levels : Nat) : Json.Dialect := ⟨levels + 1, true⟩

def texts (ms : Assoc Json) : Assoc Text :=
  ms.filterMap fun
    | (k, .text t) => some (k, t)
    | _ => none

def entriesOf : Json → Assoc Text
  | .object ms => texts (Json.members ms)
  | _ => []

/-- The entries that a file holds; no list if it is not JSON. -/
def decode (levels : Nat) (content : ByteArray) : Except StoreError (Option (Assoc Text)) :=
  match String.fromUTF8? content with
  | none => .error .encoding
  | some s =>
    match Json.read (dialect levels) s with
    | .ok v => .ok (some (entriesOf v))
    | .error .malformed => .ok none
    | .error (.longNumber digits) => .error (.numeral (.tooLongToRead digits))
    | .error (.tooDeep array) => .error (.nesting array)

def encode (entries : Assoc Text) : ByteArray :=
  let v := Json.object (entries.map fun (k, t) => (k, .text t))
  (String.ofList (Json.write true v ++ ['\n'])).toUTF8

def readEntries (levels : Nat) (tree : FileTree) (path : Path) :
    Except StoreError (Option (Assoc Text)) :=
  if tree.holds path then
    match tree.read path with
    | .ok content => decode levels content
    | .error _ => .ok none
  else .ok (some [])

def writeEntries (tree : FileTree) (path : Path) (entries : Assoc Text) :
    Except FileError FileTree := do
  (← tree.makeDirectories path.parent).write path (encode entries)

def load : StoreM (Assoc Text) := do
  match ← get with
  | .memory entries => return entries
  | .file path levels tree errors =>
    match readEntries levels tree path with
    | .ok (some entries) => return entries
    | .ok none =>
      set (Store.file path levels tree (errors + 1))
      return []
    | .error e => throw e

def save (entries : Assoc Text) : StoreM Unit := do
  match ← get with
  | .memory _ => set (Store.memory entries)
  | .file path levels tree errors =>
    match writeEntries tree path entries with
    | .ok tree => set (Store.file path levels tree errors)
    | .error e => throw (.file e)

def value? (k : Text) : StoreM (Option Text) := do
  return (← load).get? k

def keys : StoreM (List Text) := do
  return Assoc.keys (← load)

def put (k v : Text) : StoreM Unit := do
  save ((← load).put k v)

/-- Forgets a key. If it is not there, nothing is written. -/
def forget (k : Text) : StoreM Unit := do
  let entries ← load
  if (entries.get? k).isSome then save (entries.erase k)

end Store

end LatexSnippets
