/-
# Base64

The standard alphabet with padding.  Reading is strict: padding is required, it may not be
longer than needed, and the bits of the last symbol that belong to no byte are zero.  So every
list of bytes has exactly one spelling, the one that `encode` writes.  A fault names the symbol
and its offset in bytes.
-/

namespace BackupControl.Base64

/-- Why a text is no base64. -/
inductive Fault where
  | invalidSymbol (offset : Nat) (symbol : UInt8)
  | invalidLength (length : Nat)
  | invalidLastSymbol (offset : Nat) (symbol : UInt8)
  | invalidPadding
  deriving DecidableEq, Repr

/-- The wording of a fault. -/
def Fault.message : Fault → String
  | .invalidSymbol offset symbol => s!"Invalid symbol {symbol}, offset {offset}."
  | .invalidLength length => s!"Invalid input length: {length}"
  | .invalidLastSymbol offset symbol => s!"Invalid last symbol {symbol}, offset {offset}."
  | .invalidPadding => "Invalid padding"

/-! ## Symbols -/

/-- The padding symbol, an equals sign. -/
def pad : UInt8 := 61

/-- The six bits that a symbol stands for. -/
def symbolValue? (b : UInt8) : Option Nat :=
  let n := b.toNat
  if 65 ≤ n ∧ n ≤ 90 then some (n - 65)
  else if 97 ≤ n ∧ n ≤ 122 then some (n - 71)
  else if 48 ≤ n ∧ n ≤ 57 then some (n + 4)
  else if n = 43 then some 62
  else if n = 47 then some 63
  else none

/-- The symbol of a six-bit number. -/
def symbolOf (v : Nat) : UInt8 :=
  UInt8.ofNat <|
    if v < 26 then v + 65
    else if v < 52 then v + 71
    else if v < 62 then v - 4
    else if v = 62 then 43
    else 47

/-! ## Writing -/

/-- The symbols of a list of bytes: four for every three, and padding to a multiple of
four. -/
def encodeBytes : List UInt8 → List UInt8
  | [] => []
  | [a] => [symbolOf (a.toNat / 4), symbolOf (a.toNat % 4 * 16), pad, pad]
  | [a, b] =>
    [symbolOf (a.toNat / 4), symbolOf (a.toNat % 4 * 16 + b.toNat / 16),
      symbolOf (b.toNat % 16 * 4), pad]
  | a :: b :: c :: rest =>
    symbolOf (a.toNat / 4) :: symbolOf (a.toNat % 4 * 16 + b.toNat / 16) ::
      symbolOf (b.toNat % 16 * 4 + c.toNat / 64) :: symbolOf (c.toNat % 64) :: encodeBytes rest

/-- The text of a list of bytes. -/
def encode (bytes : List UInt8) : String :=
  String.ofList ((encodeBytes bytes).map fun b => Char.ofNat b.toNat)

/-! ## Reading -/

/-- The value of a symbol in its place. -/
def readSymbol (offset : Nat) (b : UInt8) : Except Fault Nat :=
  match symbolValue? b with
  | some v => .ok v
  | none => .error (.invalidSymbol offset b)

/-- The values of symbols that start at an offset; the first bad one is the fault. -/
def readSymbols : Nat → List UInt8 → Except Fault (List Nat)
  | _, [] => .ok []
  | offset, b :: bs => do
    let v ← readSymbol offset b
    let vs ← readSymbols (offset + 1) bs
    return v :: vs

/-- The bytes of two to four symbols, and the bits that are left over. -/
def joinBits : List Nat → List UInt8 × Nat
  | [a, b] => ([UInt8.ofNat (a * 4 + b / 16)], b % 16)
  | [a, b, c] => ([UInt8.ofNat (a * 4 + b / 16), UInt8.ofNat (b % 16 * 16 + c / 4)], c % 4)
  | [a, b, c, d] =>
    ([UInt8.ofNat (a * 4 + b / 16), UInt8.ofNat (b % 16 * 16 + c / 4),
      UInt8.ofNat (c % 4 * 64 + d)], 0)
  | _ => ([], 0)

/-- Reads the last one to four symbols, the only ones that may hold padding. -/
def readTail (offset : Nat) (tail : List UInt8) : Except Fault (List UInt8) := do
  let body := tail.takeWhile (· != pad)
  let padding := tail.dropWhile (· != pad)
  let values ← readSymbols offset body
  if !padding.isEmpty && (body.length < 2 || padding.any (· != pad)) then
    throw (.invalidSymbol (offset + body.length) pad)
  if body.length < 2 then
    throw (.invalidLength (offset + body.length))
  if tail.length % 4 ≠ 0 then
    throw .invalidPadding
  let (bytes, leftover) := joinBits values
  if leftover ≠ 0 then
    throw (.invalidLastSymbol (offset + body.length - 1) (body.getLastD 0))
  return bytes

/-- Reads groups of four symbols as long as more symbols follow, then the tail. -/
def readGroups (offset : Nat) : List UInt8 → Except Fault (List UInt8)
  | a :: b :: c :: d :: e :: rest => do
    let values ← readSymbols offset [a, b, c, d]
    let bytes ← readGroups (offset + 4) (e :: rest)
    return (joinBits values).1 ++ bytes
  | [] => .ok []
  | tail => readTail offset tail

/-- The bytes that a text stands for.  When one symbol stands over a multiple of four and it is
a bad one, it is reported before all others. -/
def decode (s : String) : Except Fault (List UInt8) :=
  let symbols := s.toUTF8.data.toList
  let last := symbols.getLastD pad
  if symbols.length % 4 = 1 ∧ last ≠ pad ∧ (symbolValue? last).isNone then
    .error (.invalidSymbol (symbols.length - 1) last)
  else readGroups 0 symbols

end BackupControl.Base64
