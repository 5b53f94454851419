/-
# File prefixes

What the names of backup files begin with must be allowed in a file name on every platform: no
separator or wildcard, no control character, and no white space at either end.  A refusal names
the first character that is not allowed and its place in bytes; the ends are looked at only
when every character is allowed.
-/
import BackupControl.Text.Blank
import BackupControl.Text.Quoted

namespace BackupControl

/-- The class of a character that no file name may hold. -/
inductive Offence where
  | reserved
  | control
  | delete
  deriving DecidableEq, Repr

/-- The characters that separate or match names on some platform. -/
def reservedChars : List Char := ['\\', '/', ':', '*', '?', '"', '<', '>', '|']

/-- The class of a character that is not allowed; `none` if it is allowed. -/
def offence? (c : Char) : Option Offence :=
  if reservedChars.contains c then some .reserved
  else if c.toNat < 32 then some .control
  else if c.toNat = 127 then some .delete
  else none

/-- The first character that is not allowed, with its class and the number of bytes before it,
counted from `position`. -/
def firstOffence? (position : Nat) : List Char → Option (Offence × Char × Nat)
  | [] => none
  | c :: cs =>
    match offence? c with
    | some o => some (o, c, position)
    | none => firstOffence? (position + c.utf8Size) cs

/-- Why a text is no file prefix. -/
inductive PrefixFault where
  | offence (o : Offence) (c : Char) (position : Nat) (whole : String)
  | outerBlank (whole : String)
  deriving DecidableEq, Repr

/-- A character as two or more hexadecimal digits in upper case. -/
def hexCode (c : Char) : String :=
  let ds := (Nat.toDigits 16 c.toNat).map Char.toUpper
  String.ofList (List.replicate (2 - ds.length) '0' ++ ds)

/-- The wording of a fault. -/
def PrefixFault.message : PrefixFault → String
  | .offence .reserved c position whole =>
    "file prefix contains invalid character '" ++ c.toString ++
      s!"' at position {position}: {quoted whole}"
  | .offence .control c position whole =>
    s!"file prefix contains control character (0x{hexCode c}) at position {position}: " ++
      quoted whole
  | .offence .delete _ position whole =>
    s!"file prefix contains DEL character at position {position}: {quoted whole}"
  | .outerBlank whole => s!"file prefix cannot start or end with whitespace: {quoted whole}"

/-- Accepts a text that file names may begin with; the empty text is one. -/
def checkFilePrefix (s : String) : Except PrefixFault Unit :=
  match firstOffence? 0 s.toList with
  | some (o, c, position) => .error (.offence o c position s)
  | none => if trimBlanks s.toList = s.toList then .ok () else .error (.outerBlank s)

end BackupControl
