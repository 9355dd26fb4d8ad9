import ThermalPress.Http.Percent
import ThermalPress.Json.Basic
import ThermalPress.Text.Blank

/-!
# Header values with parameters

A header value is a word, and after semicolons come parameters, each a name with a token or a quoted text
(`HeaderValue.ofText`).  What is no parameter is skipped.  A name that ends in a star has a percent-coded text, which
may say its charset first, and a text may be cut into numbered parts.
-/

namespace ThermalPress.Libraries

/-- A header value and its parameters. -/
structure HeaderValue where
  value : List Char
  parameters : Members (List Char)
  deriving DecidableEq, Repr

/-- The text with each occurrence of `old`, from the left, replaced by `new`. -/
def replaceEach (old new : List Char) : List Char → List Char
  | [] => []
  | c :: rest =>
    if old.isPrefixOf (c :: rest) && !old.isEmpty then new ++ replaceEach old new (rest.drop (old.length - 1))
    else c :: replaceEach old new rest
termination_by s => s.length
decreasing_by all_goals simp only [List.length_cons, List.length_drop]; omega

namespace HeaderValue

/-- The characters of a token. -/
def isTokenChar (c : Char) : Bool := c.isAlphanum || "_!#$%&'*+-.^\x60|~".toList.contains c

/-- What stands before a closing quote, as it is written, and what comes after it. -/
private def takeQuoted? : List Char → Option (List Char × List Char)
  | [] => none
  | '"' :: rest => some ([], rest)
  | '\\' :: '\\' :: rest => (takeQuoted? rest).map fun (inside, left) => ('\\' :: '\\' :: inside, left)
  | '\\' :: '"' :: rest => (takeQuoted? rest).map fun (inside, left) => ('\\' :: '"' :: inside, left)
  | c :: rest => (takeQuoted? rest).map fun (inside, left) => (c :: inside, left)

private theorem length_takeQuoted (s inside left : List Char) (h : takeQuoted? s = some (inside, left)) :
    left.length ≤ s.length := by
  fun_induction takeQuoted? s generalizing inside left with
  | case1 => simp at h
  | case2 => simp at h; simp [h]
  | case3 rest ih =>
    obtain ⟨⟨a, b⟩, hab, e⟩ := Option.map_eq_some_iff.1 h
    obtain ⟨-, rfl⟩ := Prod.mk.inj e
    have := ih _ _ hab; simp only [List.length_cons]; omega
  | case4 rest ih =>
    obtain ⟨⟨a, b⟩, hab, e⟩ := Option.map_eq_some_iff.1 h
    obtain ⟨-, rfl⟩ := Prod.mk.inj e
    have := ih _ _ hab; simp only [List.length_cons]; omega
  | case5 c rest _ _ _ ih =>
    obtain ⟨⟨a, b⟩, hab, e⟩ := Option.map_eq_some_iff.1 h
    obtain ⟨-, rfl⟩ := Prod.mk.inj e
    have := ih _ _ hab; simp only [List.length_cons]; omega

/-- A parameter as it is written. -/
private structure RawParameter where
  name : List Char
  text : List Char
  quoted : Bool

/-- The parameter that a text starts with, and what comes after it. -/
private def takeParameter (s : List Char) : Option RawParameter × { left : List Char // left.length ≤ s.length } :=
  let name := s.takeWhile isTokenChar
  match _h : s.drop name.length with
  | '=' :: rest =>
    have hr : rest.length ≤ s.length := by
      have := congrArg List.length _h
      simp only [List.length_drop, List.length_cons] at this; omega
    let token := rest.takeWhile isTokenChar
    if name.isEmpty then (none, ⟨s, Nat.le_refl _⟩)
    else if !token.isEmpty then (some ⟨name, token, false⟩, ⟨rest, hr⟩)
    else match rest with
      | '"' :: inner =>
        match hq : takeQuoted? inner with
        | some (inside, left) =>
          (some ⟨name, inside, true⟩, ⟨left, by
            have := length_takeQuoted _ _ _ hq
            simp only [List.length_cons] at hr; omega⟩)
        | none => (none, ⟨_, hr⟩)
      | _ => (none, ⟨_, hr⟩)
  | _ => (none, ⟨s, Nat.le_refl _⟩)

/-- The parameters of a text. -/
private def takeParameters (s : List Char) : List RawParameter :=
  let (parameter, left) := takeParameter s
  let others := match _h : left.val.dropWhile (· != ';') with
    | _ :: rest => takeParameters (trimLeft rest)
    | [] => []
  parameter.toList ++ others
termination_by s.length
decreasing_by
  have _h1 := left.property
  have h2 := (List.dropWhile_suffix (fun c => c != ';') (l := left.val)).length_le
  have h3 := (List.dropWhile_suffix isBlank (l := rest)).length_le
  rw [_h] at h2
  simp only [List.length_cons] at h2
  simp only [trimLeft]; omega

/-- The charsets in which the text of a parameter may be. -/
def charsets : List String := ["ascii", "us-ascii", "utf-8", "iso-8859-1"]

/-- The text of bytes in one of the charsets; `charset` is its name. -/
def charsetText (charset : String) (bytes : Bytes) : List Char :=
  match charset with
  | "iso-8859-1" => bytes.map fun b => Char.ofNat b.toNat
  | "ascii" | "us-ascii" => bytes.map fun b => if b < 0x80 then Char.ofNat b.toNat else replacementChar
  | _ => Utf8.decodeLossy bytes

/-- A charset in small letters, and the text after it, if a text says its charset. -/
private def splitCharset? (s : List Char) : Option (String × List Char) :=
  let charset := s.takeWhile (· != '\'')
  match s.drop charset.length with
  | '\'' :: rest =>
    match (rest.dropWhile (· != '\'')) with
    | '\'' :: c :: text => some ((String.ofList charset).toLower, c :: text)
    | _ => none
  | _ => none

/-- The charset that was said last, and the one that was used last; empty where there is none. -/
private structure CharsetState where
  said : String
  used : String

/-- The text of a parameter whose name ends in a star. -/
private def starredText (state : CharsetState) (parameter : RawParameter) : CharsetState × RawParameter :=
  let (said, text, quoted) := match if parameter.quoted then none else splitCharset? parameter.text with
    | some (charset, text) => (charset, text, false)
    | none => (state.said, parameter.text, parameter.quoted)
  let said := if said.isEmpty then state.used else said
  if charsets.contains said then
    (⟨said, said⟩, ⟨parameter.name, charsetText said (Percent.decode (Utf8.encode text)), quoted⟩)
  else (⟨said, state.used⟩, ⟨parameter.name, text, quoted⟩)

/-- The text of a parameter without its quotes. -/
private def plainText (parameter : RawParameter) : List Char :=
  if parameter.quoted then
    -- one replacement after another, so a backslash that the first one leaves may still escape a quote
    replaceEach ['%', '2', '2'] ['"'] (replaceEach ['\\', '"'] ['"'] (replaceEach ['\\', '\\'] ['\\'] parameter.text))
  else if parameter.text == ['"'] then []
  else match parameter.text with
    | '"' :: rest => if rest.getLast? == some '"' then rest.dropLast else parameter.text
    | text => text

/-- The name of a text that is cut into parts, from the name of one of its parts. -/
private def wholeName? (name : List Char) : Option (List Char) :=
  let digits := name.reverse.takeWhile Char.isDigit
  match name.reverse.drop digits.length with
  | '*' :: rest => if digits.isEmpty then none else some rest.reverse
  | _ => none

/-- Adds a parameter to those before it. -/
private def addParameter (found : CharsetState × Members (List Char)) (parameter : RawParameter) :
    CharsetState × Members (List Char) :=
  let (state, parameters) := found
  let name := parameter.name.map Char.toLower
  let starred := name.getLast? == some '*'
  let name := if starred then name.dropLast else name
  let (state, parameter) := if starred then starredText state parameter else (state, parameter)
  let text := plainText parameter
  match wholeName? name with
  | some whole =>
    let whole := String.ofList whole
    (state, parameters.put whole ((parameters.find? whole).getD [] ++ text))
  | none => (state, parameters.put (String.ofList name) text)

/-- The value and the parameters that a text stands for.  Without a value there are no parameters. -/
def ofText (s : List Char) : HeaderValue :=
  let value := trim (s.takeWhile (· != ';'))
  let rest := trim (s.dropWhile (· != ';')).tail
  if value.isEmpty || rest.isEmpty then ⟨value, []⟩
  else ⟨value, ((takeParameters rest).foldl addParameter (⟨"", ""⟩, [])).2⟩

/-- The text of a parameter. -/
def parameter? (header : HeaderValue) (name : String) : Option (List Char) := header.parameters.find? name

end HeaderValue

end ThermalPress.Libraries
