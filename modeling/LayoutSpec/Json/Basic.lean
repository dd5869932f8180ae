/-!
JSON values. An object keeps its members in a list; a value that was read has them sorted by key and
each key once.
-/

namespace LayoutSpec

inductive JsonNumber where
  | whole (value : Int)
  | float (value : Float)
deriving Repr

inductive Json where
  | null
  | bool (value : Bool)
  | number (value : JsonNumber)
  | string (value : String)
  | array (items : List Json)
  | object (members : List (String × Json))
deriving Repr

instance : Inhabited Json := ⟨.null⟩

namespace Json

def member? (key : String) : Json → Option Json
  | .object members => members.lookup key
  | _ => none

/-- A list of members with one more, in the order of the keys. A member with the same key is
replaced. -/
def insertSorted (key : String) (value : Json) : List (String × Json) → List (String × Json)
  | [] => [(key, value)]
  | (k, v) :: rest =>
    if key < k then (key, value) :: (k, v) :: rest
    else if key = k then (key, value) :: rest
    else (k, v) :: insertSorted key value rest

/-- The object with the given members, sorted by key. Of members with one key the last counts. -/
def ofMembers (members : List (String × Json)) : Json :=
  .object (members.foldl (fun sorted (k, v) => insertSorted k v sorted) [])

end Json

end LayoutSpec
