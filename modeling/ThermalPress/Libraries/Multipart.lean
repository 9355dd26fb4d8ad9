import ThermalPress.Http.Form
import ThermalPress.Libraries.Parameters

/-!
# Forms in several parts

A request body in several parts (`Multipart.read`).  The parts stand between lines that hold a delimiter; each has
header lines, a blank line and its data, and its header names the field.  Files are parts, too, but no fields.  A line
may end in any of the three ways.  A body that breaks off within a part, or whose header lines cannot be read, is no
form at all, and a body with too many parts or too long texts is too large.
-/

namespace ThermalPress.Libraries

/-- Why a body is no form. -/
inductive FormError where
  | malformed
  | tooLarge
  deriving DecidableEq, Repr

/-- How large forms may be: the number of bytes that a coded form, or one field of a form in several parts, may have,
and the number of parts. -/
structure FormLimits where
  text : Nat
  parts : Nat

namespace Multipart

private def carriageReturn : UInt8 := 0x0D

private def newLine : UInt8 := 0x0A

def hyphen : UInt8 := 0x2D

private def isLineSpace (b : UInt8) : Bool := b == 0x20 || b == 0x09 || b == 0x0B || b == 0x0C

private def isByteSpace (b : UInt8) : Bool := isLineSpace b || b == carriageReturn || b == newLine

/-- What comes after a line end. -/
private def afterLineEnd? : Bytes → Option Bytes
  | [] => none
  | b :: rest =>
    if b = carriageReturn then
      match rest with
      | c :: left => if c = newLine then some left else some rest
      | [] => some []
    else if b = newLine then some rest
    else none

private theorem length_afterLineEnd {s left : Bytes} (h : afterLineEnd? s = some left) : left.length < s.length := by
  unfold afterLineEnd? at h
  split at h
  · simp at h
  · split at h
    · split at h
      · split at h <;> (simp only [Option.some.injEq] at h; subst h; simp only [List.length_cons]; omega)
      · simp only [Option.some.injEq] at h; subst h; simp only [List.length_cons]; omega
    · split at h
      · simp only [Option.some.injEq] at h; subst h; simp only [List.length_cons]; omega
      · simp at h

/-- The bytes before the first place at which `f` finds something, and what it finds. -/
def cutAt? {α : Type} (f : Bytes → Option α) : Bytes → Option (Bytes × α)
  | [] => (f []).map fun a => ([], a)
  | b :: rest =>
    match f (b :: rest) with
    | some a => some ([], a)
    | none => (cutAt? f rest).map fun (before, a) => (b :: before, a)

private theorem cutAt_size {α : Type} {f : Bytes → Option α} (size : α → Nat)
    (hf : ∀ s a, f s = some a → size a < s.length) {s before : Bytes} {a : α} (h : cutAt? f s = some (before, a)) :
    size a < s.length := by
  induction s generalizing before with
  | nil =>
    obtain ⟨b, hb, e⟩ := Option.map_eq_some_iff.1 h
    obtain ⟨-, rfl⟩ := Prod.mk.inj e
    exact hf _ _ hb
  | cons b rest ih =>
    simp only [cutAt?] at h
    split at h
    · next found =>
      simp only [Option.some.injEq, Prod.mk.injEq] at h
      rw [← h.2]; exact hf _ _ found
    · obtain ⟨⟨c, d⟩, hcd, e⟩ := Option.map_eq_some_iff.1 h
      obtain ⟨-, rfl⟩ := Prod.mk.inj e
      have := ih hcd
      simp only [List.length_cons] at this ⊢; omega

/-- What comes after a delimiter in front, and whether it is the last one.  The last one has two more hyphens; every
other one ends its line. -/
def afterDelimiter? (delimiter : Bytes) (s : Bytes) : Option (Bool × Bytes) :=
  if !delimiter.isEmpty && delimiter.isPrefixOf s then
    let rest := s.drop delimiter.length
    if [hyphen, hyphen].isPrefixOf rest then
      let left := (rest.drop 2).dropWhile isLineSpace
      some (true, (afterLineEnd? left).getD left)
    else (afterLineEnd? (rest.dropWhile isLineSpace)).map fun left => (false, left)
  else none

/-- What comes after a line end and a delimiter. -/
def afterDelimiterLine? (delimiter : Bytes) (s : Bytes) : Option (Bool × Bytes) :=
  (afterLineEnd? s).bind (afterDelimiter? delimiter)

private theorem length_afterDelimiter {delimiter s : Bytes} {a : Bool × Bytes}
    (h : afterDelimiter? delimiter s = some a) : a.2.length < s.length := by
  unfold afterDelimiter? at h
  split at h
  · next hd =>
    have hpos : 0 < delimiter.length := by
      cases delimiter with
      | nil => simp at hd
      | cons => simp
    have hle : delimiter.length ≤ s.length := by
      simp only [Bool.and_eq_true, List.isPrefixOf_iff_prefix] at hd
      exact hd.2.length_le
    simp only at h
    split at h
    · simp only [Option.some.injEq] at h
      subst h
      have h2 := (List.dropWhile_suffix isLineSpace (l := (s.drop delimiter.length).drop 2)).length_le
      simp only [List.length_drop] at h2
      cases hl : afterLineEnd? (((s.drop delimiter.length).drop 2).dropWhile isLineSpace) with
      | none => simp only [Option.getD_none]; omega
      | some left => have := length_afterLineEnd hl; simp only [Option.getD_some]; omega
    · obtain ⟨left, hl, rfl⟩ := Option.map_eq_some_iff.1 h
      have h1 := length_afterLineEnd hl
      have h2 := (List.dropWhile_suffix isLineSpace (l := s.drop delimiter.length)).length_le
      simp only [List.length_drop] at h2
      simp only; omega
  · simp at h

private theorem length_afterDelimiterLine {delimiter s : Bytes} {a : Bool × Bytes}
    (h : afterDelimiterLine? delimiter s = some a) : a.2.length < s.length := by
  obtain ⟨rest, hr, ha⟩ := Option.bind_eq_some_iff.1 h
  have h1 := length_afterLineEnd hr
  have h2 := length_afterDelimiter ha
  omega

/-- What comes after the first of the two line ends of a blank line. -/
def afterHeader? : Bytes → Option Bytes
  | a :: b :: rest =>
    -- the second line end stays: the data begins with it
    if a = b && (a = carriageReturn || a = newLine) then some (b :: rest)
    else if a = carriageReturn && b = newLine && [carriageReturn, newLine].isPrefixOf rest then some rest
    else none
  | _ => none

private theorem length_afterHeader {s left : Bytes} (h : afterHeader? s = some left) : left.length < s.length := by
  unfold afterHeader? at h
  split at h
  · split at h
    · simp only [Option.some.injEq] at h; subst h; simp only [List.length_cons]; omega
    · split at h
      · simp only [Option.some.injEq] at h; subst h; simp only [List.length_cons]; omega
      · simp at h
  · simp at h

/-- Header lines as one line each: a line that starts with a blank goes on the line before it. -/
private def unfoldLines : Bytes → Bytes
  | [] => []
  | b :: rest =>
    match _h : afterLineEnd? (b :: rest) with
    | some (c :: left) => if c = 0x20 || c = 0x09 then 0x20 :: unfoldLines left else b :: unfoldLines rest
    | _ => b :: unfoldLines rest
termination_by s => s.length
decreasing_by
  · have := length_afterLineEnd _h; simp only [List.length_cons] at this ⊢; omega
  all_goals simp

/-- The lines of some bytes. -/
private def byteLines : (line : Bytes) → Bytes → List Bytes
  | line, [] => [line.reverse]
  | line, b :: rest =>
    if b = carriageReturn || b = newLine then line.reverse :: byteLines [] rest else byteLines (b :: line) rest

private def trimBytes (s : Bytes) : Bytes := ((s.dropWhile isByteSpace).reverse.dropWhile isByteSpace).reverse

/-- The name, in small letters, and the value of a header line. -/
private def headerOf? (line : Bytes) : Option (String × List Char) := do
  let s ← Utf8.decode? line
  let name := s.takeWhile (· != ':')
  return ((String.ofList (trim name)).toLower, trim (s.drop (name.length + 1)))

/-- The header values of a part under their names. -/
private def headersOf? (header : Bytes) : Option (Members (List Char)) :=
  (((byteLines [] (unfoldLines header)).map trimBytes).filter (!·.isEmpty)).mapM headerOf?

/-- The name of the field that a part holds; a file has the field `none`. -/
private def fieldName? (headers : Members (List Char)) : Option (Option (Option String)) :=
  (headers.find? "content-disposition").map fun value =>
    let disposition := HeaderValue.ofText value
    match disposition.parameter? "filename" with
    | some _ => none
    | none => some ((disposition.parameter? "name").map String.ofList)

/-- The charset of the text of a part. -/
private def charsetOf (headers : Members (List Char)) : String :=
  let said := (headers.find? "content-type").bind fun value => (HeaderValue.ofText value).parameter? "charset"
  let charset := (String.ofList (said.getD [])).toLower
  if HeaderValue.charsets.contains charset then charset else "utf-8"

/-- The field of a part, if it is one, from its header and from its data with the line end in front. -/
def fieldOf (limits : FormLimits) (header data : Bytes) : Except FormError (Option FormField) :=
  match headersOf? header with
  | none => .error .malformed
  | some headers =>
    match fieldName? headers with
    | none => .error .malformed
    | some none => .ok none
    | some (some name) =>
      -- the line end in front is also there when the next delimiter follows at once
      let data := (afterLineEnd? data).getD []
      if limits.text < data.length then .error .tooLarge
      else .ok (some ⟨name, String.ofList (HeaderValue.charsetText (charsetOf headers) data)⟩)

/-- The fields of the parts; `count` parts came before. -/
def takeParts (limits : FormLimits) (delimiter : Bytes) (count : Nat) (s : Bytes) : Except FormError Form :=
  match _hh : cutAt? afterHeader? s with
  | none => .error .malformed
  | some (header, rest) =>
    if limits.parts ≤ count then .error .tooLarge
    else match _hd : cutAt? (afterDelimiterLine? delimiter) rest with
      | none => .error .malformed
      | some (data, last, left) => do
        let field ← fieldOf limits header data
        let fields ← if last then .ok [] else takeParts limits delimiter (count + 1) left
        return field.toList ++ fields
termination_by s.length
decreasing_by
  have h1 := cutAt_size List.length (fun _ _ => length_afterHeader) _hh
  have h2 := cutAt_size (fun a : Bool × Bytes => a.2.length) (fun _ _ => length_afterDelimiterLine) _hd
  simp only at h2; omega

/-- The fields of a body whose parts stand between boundaries. -/
def read (limits : FormLimits) (boundary : Bytes) (body : Bytes) : Except FormError Form :=
  let delimiter := hyphen :: hyphen :: boundary
  match cutAt? (afterDelimiter? delimiter) body with
  | none => if limits.text < body.length then .error .tooLarge else .error .malformed
  | some (_, true, _) => .ok []
  | some (_, false, rest) => takeParts limits delimiter 0 rest

end Multipart

end ThermalPress.Libraries
