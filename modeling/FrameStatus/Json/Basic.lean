/-!
# JSON values

The values that documents are made of. An object keeps its members in the order given.
-/

namespace FrameStatus

/-- A JSON value without fractions, negative numbers and null. -/
inductive Json where
  | number (value : Nat)
  | bool (value : Bool)
  | string (text : String)
  | array (items : List Json)
  | object (members : List (String × Json))
  deriving Repr

namespace Json

/-- Puts a member in front of the first one whose key is not less. -/
def insertMember (key : String) (value : Json) : List (String × Json) → List (String × Json)
  | [] => [(key, value)]
  | (other, held) :: rest =>
      if other < key then (other, held) :: insertMember key value rest
      else (key, value) :: (other, held) :: rest

mutual

/-- The same value with the members of every object in the order of their keys. -/
def sortKeys : Json → Json
  | number value => number value
  | bool value => bool value
  | string text => string text
  | array items => array (sortItems items)
  | object members => object (sortMembers members)

/-- Sorts the keys in every item. -/
def sortItems : List Json → List Json
  | [] => []
  | item :: rest => sortKeys item :: sortItems rest

/-- Sorts members by key, and the keys in every member. -/
def sortMembers : List (String × Json) → List (String × Json)
  | [] => []
  | (key, value) :: rest => insertMember key (sortKeys value) (sortMembers rest)

end

end Json

end FrameStatus
