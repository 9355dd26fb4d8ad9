import ThermalPress.Json.Basic
import ThermalPress.Text.Quoted

/-!
# Showing values

The text that stands for a value inside a document or a message (`Json.shown`).  A text stands for itself; inside a
list or an object it is quoted.
-/

namespace ThermalPress

namespace Json

mutual

/-- The text of a value inside another one. -/
def nested : Json → List Char
  | .null => "None".toList
  | .bool b => (if b then "True" else "False").toList
  | .int n => integerText n
  | .real x => x.shortest
  | .str s => quoted s.toList
  | .arr [] => ['[', ']']
  | .arr (item :: items) => '[' :: (nested item ++ nestedItems items ++ [']'])
  | .obj [] => ['\x7b', '\x7d']
  | .obj ((name, value) :: members) =>
    '\x7b' :: (quoted name.toList ++ ':' :: ' ' :: nested value ++ nestedMembers members ++ ['\x7d'])

/-- The text of further items of a list. -/
def nestedItems : List Json → List Char
  | [] => []
  | item :: items => ',' :: ' ' :: (nested item ++ nestedItems items)

/-- The text of further members of an object. -/
def nestedMembers : List (String × Json) → List Char
  | [] => []
  | (name, value) :: members =>
    ',' :: ' ' :: (quoted name.toList ++ ':' :: ' ' :: nested value ++ nestedMembers members)

end

/-- The text of a value. -/
def shown : Json → List Char
  | .str s => s.toList
  | value => value.nested

/-- Values between parentheses; a comma follows a single one. -/
def shownTuple (values : List Json) : List Char :=
  let items := (values.map nested).intersperse [',', ' ']
  '(' :: (items.flatten ++ (if values.length = 1 then [','] else []) ++ [')'])

end Json

end ThermalPress
