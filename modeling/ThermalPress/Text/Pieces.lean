/-!
# Pieces of text

A text is split at every separator (`pieces`).
-/

namespace ThermalPress

/-- The pieces of a text between the separators. -/
def pieces (separator : Char) : List Char → List (List Char)
  | [] => [[]]
  | c :: rest =>
    match pieces separator rest with
    | piece :: others => if c = separator then [] :: piece :: others else (c :: piece) :: others
    | [] => [[c]]

end ThermalPress
