import ExactCalc.Binary64
import ExactCalc.Entries

/-!
# JSON values

Integers are kept exactly and apart from numbers with a fraction or an exponent.
The fields of an object stand in the order in which their names first occur.
-/

namespace ExactCalc

inductive Json
  | null
  | bool (b : Bool)
  | integer (n : Int)
  | real (x : Binary64)
  | string (s : String)
  | array (items : List Json)
  | object (fields : List (String × Json))
  deriving Inhabited

namespace Json

mutual

/-- Whether every number in a value is finite. -/
def isFinite : Json → Bool
  | real (.finite ..) => true
  | real _ => false
  | array items => allFinite items
  | object fields => allFieldsFinite fields
  | _ => true

def allFinite : List Json → Bool
  | [] => true
  | value :: rest => isFinite value && allFinite rest

def allFieldsFinite : List (String × Json) → Bool
  | [] => true
  | (_, value) :: rest => isFinite value && allFieldsFinite rest

end

/-- Names of fields that are not for show begin in this way. -/
def hiddenBeginning : String := "_sa"

def isHidden (name : String) : Bool := hiddenBeginning.toList.isPrefixOf name.toList

mutual

/-- A value without the fields that are not for show, however deep they stand. -/
def shown : Json → Json
  | array items => array (shownItems items)
  | object fields => object (shownFields fields)
  | value => value

def shownItems : List Json → List Json
  | [] => []
  | value :: rest => shown value :: shownItems rest

def shownFields : List (String × Json) → List (String × Json)
  | [] => []
  | (name, value) :: rest =>
    if isHidden name then shownFields rest else (name, shown value) :: shownFields rest

end

end Json

end ExactCalc
