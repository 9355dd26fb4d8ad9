import ThermalPress.Command
import ThermalPress.JobError
import ThermalPress.Text.Blank

/-!
# Markup tokens

A document is plain text with a few tags: rows and cells of a table, line breaks, alignment, bold and double size.
`readTokens` cuts it into tokens.  A tag is recognised in capital or small letters; text between tags is cut at line
ends, and anything that only resembles a tag stays text.  Every token keeps the characters it was read from, so the
tokens of a document spell it out, up to its line ends.
-/

namespace ThermalPress

/-- What a token is. -/
inductive TokenKind where
  | text
  | newline
  | rowStart
  | rowEnd
  | lineBreak
  | cellOpen
  | cellClose
  | align (side : Alignment)
  | alignClose
  | bold (on : Bool)
  | double (on : Bool)
  deriving DecidableEq, Repr

namespace TokenKind

/-- The kinds of tokens by their names. -/
def named : List (String × TokenKind) := [
  ("text", .text), ("newline", .newline), ("row_start", .rowStart), ("row_end", .rowEnd), ("break", .lineBreak),
  ("cell_open", .cellOpen), ("cell_close", .cellClose), ("align_left", .align .left),
  ("align_center", .align .center), ("align_right", .align .right), ("align_close", .alignClose),
  ("bold_on", .bold true), ("bold_off", .bold false), ("double_on", .double true), ("double_off", .double false)]

/-- The name of a kind of tokens. -/
def name (kind : TokenKind) : String := ((named.find? (·.2 == kind)).map (·.1)).getD ""

end TokenKind

/-- A token with the characters it was read from. -/
structure Token where
  kind : TokenKind
  raw : List Char
  deriving DecidableEq, Repr

/-- The same characters as plain text. -/
def Token.literal (t : Token) : Token := { t with kind := .text }

@[simp] theorem Token.literal_kind (t : Token) : t.literal.kind = .text := rfl

@[simp] theorem Token.literal_raw (t : Token) : t.literal.raw = t.raw := rfl

/-- The tag names. -/
inductive TagName where
  | tr
  | td
  | b
  | h1
  | center
  | left
  | right
  deriving DecidableEq, Repr

namespace TagName

def all : List TagName := [.tr, .td, .b, .h1, .center, .left, .right]

def spelling : TagName → List Char
  | .tr => ['t', 'r']
  | .td => ['t', 'd']
  | .b => ['b']
  | .h1 => ['h', '1']
  | .center => ['c', 'e', 'n', 't', 'e', 'r']
  | .left => ['l', 'e', 'f', 't']
  | .right => ['r', 'i', 'g', 'h', 't']

/-- The kind of the opening or the closing tag. -/
def kind (closing : Bool) : TagName → TokenKind
  | .tr => if closing then .rowEnd else .rowStart
  | .td => if closing then .cellClose else .cellOpen
  | .b => .bold !closing
  | .h1 => .double !closing
  | .center => if closing then .alignClose else .align .center
  | .left => if closing then .alignClose else .align .left
  | .right => if closing then .alignClose else .align .right

end TagName

/-! ### Recognising a tag -/

/-- The i's of Turkish, which have no partner in the other case but pass for the letter i. -/
def isTurkishI (c : Char) : Bool := c == 'ı' || c == 'İ'

/-- Whether `c` passes for the small letter or digit `letter`. -/
def passesFor (letter c : Char) : Bool := c.toLower == letter || (letter == 'i' && isTurkishI c)

/-- Takes a word, in letters that pass for its own; gives the letters found and what follows them. -/
def takeWord? : (word : List Char) → List Char → Option (List Char × List Char)
  | [], s => some ([], s)
  | _ :: _, [] => none
  | letter :: word, c :: s =>
    if passesFor letter c then (takeWord? word s).map fun (found, rest) => (c :: found, rest) else none

/-- A tag found in front of a text: its characters, and the text after it. -/
structure TagMatch where
  kind : Except UnknownTag TokenKind
  raw : List Char
  rest : List Char

/-- Takes a named tag after its `<` and its slash. -/
def takeNamed? (closing : Bool) (s : List Char) (name : TagName) : Option TagMatch :=
  match takeWord? name.spelling s with
  | some (found, '>' :: rest) =>
    let kind := if found.any isTurkishI then .error ⟨closing, found⟩ else .ok (name.kind closing)
    some ⟨kind, '<' :: ((if closing then ['/'] else []) ++ found ++ ['>']), rest⟩
  | _ => none

/-- Takes a line break after its `<`: the letters `br`, blanks and a slash at will. -/
def takeBreak? (s : List Char) : Option TagMatch :=
  match takeWord? ['b', 'r'] s with
  | some (found, rest) =>
    let blanks := rest.takeWhile isBlank
    match rest.dropWhile isBlank with
    | '>' :: rest => some ⟨.ok .lineBreak, '<' :: (found ++ blanks ++ ['>']), rest⟩
    | '/' :: '>' :: rest => some ⟨.ok .lineBreak, '<' :: (found ++ blanks ++ ['/', '>']), rest⟩
    | _ => none
  | none => none

/-- The tag that a text starts with after its `<`. -/
def takeTag? (s : List Char) : Option TagMatch :=
  let named := match s with
    | '/' :: inner => TagName.all.findSome? (takeNamed? true inner)
    | _ => TagName.all.findSome? (takeNamed? false s)
  named.or (takeBreak? s)

private theorem length_takeWord {word s found rest : List Char} (h : takeWord? word s = some (found, rest)) :
    rest.length ≤ s.length := by
  induction word generalizing s found rest with
  | nil => simp only [takeWord?, Option.some.injEq, Prod.mk.injEq] at h; simp [h.2]
  | cons letter word ih =>
    cases s with
    | nil => simp [takeWord?] at h
    | cons c s =>
      simp only [takeWord?] at h
      split at h
      · obtain ⟨⟨found', rest'⟩, hw, he⟩ := Option.map_eq_some_iff.1 h
        simp only [Prod.mk.injEq] at he
        obtain ⟨-, rfl⟩ := he
        have := ih hw
        rw [List.length_cons]
        omega
      · simp at h

private theorem length_takeNamed {closing : Bool} {s : List Char} {name : TagName} {m : TagMatch}
    (h : takeNamed? closing s name = some m) : m.rest.length < s.length := by
  unfold takeNamed? at h
  split at h
  · next found rest hw =>
    have := length_takeWord hw
    simp only [Option.some.injEq] at h
    simp only [List.length_cons] at this
    simp only [← h]
    omega
  · simp at h

private theorem length_takeBreak {s : List Char} {m : TagMatch} (h : takeBreak? s = some m) :
    m.rest.length < s.length := by
  unfold takeBreak? at h
  split at h
  · next found rest hw =>
    have hl := length_takeWord hw
    have hd : (rest.dropWhile isBlank).length ≤ rest.length := (List.dropWhile_sublist _).length_le
    dsimp only at h
    split at h
    · next r hr => simp only [Option.some.injEq] at h; simp only [hr, List.length_cons] at hd; simp only [← h]; omega
    · next r hr => simp only [Option.some.injEq] at h; simp only [hr, List.length_cons] at hd; simp only [← h]; omega
    · simp at h
  · simp at h

/-- What follows a tag is shorter than the text it was taken from. -/
theorem length_takeTag {s : List Char} {m : TagMatch} (h : takeTag? s = some m) : m.rest.length < s.length := by
  unfold takeTag? at h
  rcases Option.or_eq_some_iff.1 h with h | ⟨-, h⟩
  · split at h
    · obtain ⟨name, -, hn⟩ := List.exists_of_findSome?_eq_some h
      have := length_takeNamed hn
      simp only [List.length_cons]
      omega
    · obtain ⟨name, -, hn⟩ := List.exists_of_findSome?_eq_some h
      exact length_takeNamed hn
  · exact length_takeBreak h

/-! ### Cutting a document -/

/-- Line ends of two characters become single line feeds; other carriage returns stay. -/
def unifyLineEnds : List Char → List Char
  | [] => []
  | '\r' :: '\n' :: rest => '\n' :: unifyLineEnds rest
  | c :: rest => c :: unifyLineEnds rest

/-- Puts a character in front of a text token, or makes it one of its own. -/
def consChar (c : Char) : List Token → List Token
  | ⟨.text, raw⟩ :: tokens => ⟨.text, c :: raw⟩ :: tokens
  | tokens => ⟨.text, [c]⟩ :: tokens

/-- The tokens of a text with single line feeds. -/
def scan : List Char → Except UnknownTag (List Token)
  | [] => .ok []
  | c :: rest =>
    if c = '<' then
      match _h : takeTag? rest with
      | some found => do
        let kind ← found.kind
        let tokens ← scan found.rest
        return ⟨kind, found.raw⟩ :: tokens
      | none => (scan rest).map (consChar c)
    else if c = '\n' then (scan rest).map (⟨.newline, ['\n']⟩ :: ·)
    else (scan rest).map (consChar c)
termination_by s => s.length
decreasing_by
  · have := length_takeTag _h; simp only [List.length_cons]; omega
  all_goals simp

/-- The tokens of a document. -/
def readTokens (document : List Char) : Except UnknownTag (List Token) := scan (unifyLineEnds document)

end ThermalPress
