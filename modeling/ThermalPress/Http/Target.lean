import ThermalPress.Http.Percent

/-!
# Request targets

What a request is about (`Target`): the path of a resource, percent-decoded and with one slash in front, and the query
behind the first question mark, still coded.  A target may be a whole address, of which the scheme and the host do not
matter; a fragment is not part of it.
-/

namespace ThermalPress

/-- The path and the query of a request. -/
structure Target where
  path : List Char
  query : List Char
  deriving DecidableEq, Repr

namespace Target

private def isControlOrSpace (c : Char) : Bool := c.toNat ≤ 0x20

private def isLineCharacter (c : Char) : Bool := c == '\t' || c == '\n' || c == '\r'

private def isSchemeCharacter (c : Char) : Bool := c.isAlphanum || c == '+' || c == '-' || c == '.'

/-- An address without its scheme. -/
private def dropScheme (s : List Char) : List Char :=
  let scheme := s.takeWhile isSchemeCharacter
  match scheme, s.drop scheme.length with
  | c :: _, ':' :: rest => if c.isAlpha then rest else s
  | _, _ => s

/-- An address without its host. -/
private def dropHost : List Char → List Char
  | '/' :: '/' :: rest => rest.dropWhile fun c => c != '/' && c != '?'
  | s => s

/-- The target that a text stands for. -/
def ofText (s : List Char) : Target :=
  let s := (s.dropWhile isControlOrSpace).filter fun c => !isLineCharacter c
  let s := dropHost (dropScheme (s.takeWhile (· != '#')))
  let path := Percent.lossyText (s.takeWhile (· != '?'))
  ⟨'/' :: path.dropWhile (· == '/'), (s.dropWhile (· != '?')).tail⟩

end Target

end ThermalPress
