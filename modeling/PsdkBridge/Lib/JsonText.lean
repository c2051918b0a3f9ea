import PsdkBridge.Lib.CText
import PsdkBridge.Lib.Ieee

/-!
# JSON texts and the values they denote

`decode` is a recursive-descent reader for the JSON grammar over octets: it
returns the value of a text that is one JSON value surrounded by whitespace,
and nothing otherwise.  Octets above `0x7F` are passed through.

**String literals.**  The reader of string literals is a small automaton
(`LexState`), so that reading can be cut at any point of the text.  It returns
raw octets and UTF-16 code units; `assemble` pairs surrogates and encodes the
units.
-/

namespace PsdkBridge

/-- JSON values.  Objects keep their members in textual order. -/
inductive Json where
  | null
  | bool (b : Bool)
  | int (i : Int)
  | dbl (d : FNum)
  | str (s : Bytes)
  | arr (elems : List Json)
  | obj (members : List (Bytes × Json))

/-- The value is a number. -/
def Json.isNumber : Json → Bool
  | .int _ => true
  | .dbl _ => true
  | _ => false

/-! ## String literals -/

/-- One element of a decoded string literal. -/
inductive StrUnit where
  | byte (b : UInt8)
  | code (u : Nat)
deriving DecidableEq

/-- Position inside a string literal: in the text, after a backslash, or with
`n` hexadecimal digits of a `\u` escape still to come. -/
inductive LexState where
  | text
  | escape
  | hex (n acc : Nat)
deriving DecidableEq

/-- The value of a hexadecimal digit. -/
def hexVal (b : UInt8) : Option Nat :=
  if 48 ≤ b ∧ b ≤ 57 then some (b.toNat - 48)
  else if 97 ≤ b ∧ b ≤ 102 then some (b.toNat - 87)
  else if 65 ≤ b ∧ b ≤ 70 then some (b.toNat - 55)
  else none

/-- The octet denoted by a two-character escape. -/
def simpleEscape (b : UInt8) : Option UInt8 :=
  if b = 34 ∨ b = 92 ∨ b = 47 then some b
  else if b = 98 then some 8
  else if b = 102 then some 12
  else if b = 110 then some 10
  else if b = 114 then some 13
  else if b = 116 then some 9
  else none

/-- Read a string literal up to its closing quote. -/
def readString : LexState → Bytes → Option (List StrUnit × Bytes)
  | _, [] => none
  | .text, b :: r =>
      if b = 34 then some ([], r)
      else if b = 92 then readString .escape r
      else if b < 32 then none
      else (readString .text r).map (fun p => (.byte b :: p.1, p.2))
  | .escape, b :: r =>
      if b = 117 then readString (.hex 4 0) r
      else
        match simpleEscape b with
        | none => none
        | some c => (readString .text r).map (fun p => (.byte c :: p.1, p.2))
  | .hex n acc, b :: r =>
      match hexVal b with
      | none => none
      | some v =>
          if n ≤ 1 then
            (readString .text r).map (fun p => (.code (acc * 16 + v) :: p.1, p.2))
          else readString (.hex (n - 1) (acc * 16 + v)) r

/-- A lone surrogate stands for the replacement character. -/
def scalarOf (u : Nat) : Nat :=
  if 0xD800 ≤ u ∧ u ≤ 0xDFFF then 0xFFFD else u

/-- UTF-8 encoding of a code point. -/
def utf8Encode (u : Nat) : Bytes :=
  String.utf8EncodeChar (Char.ofNat u)

/-- The octets of a decoded literal. -/
def assemble : List StrUnit → Bytes
  | [] => []
  | .byte b :: us => b :: assemble us
  | .code u :: .code v :: us =>
      if (0xD800 ≤ u ∧ u ≤ 0xDBFF) ∧ (0xDC00 ≤ v ∧ v ≤ 0xDFFF) then
        utf8Encode (0x10000 + (u - 0xD800) * 0x400 + (v - 0xDC00)) ++ assemble us
      else utf8Encode (scalarOf u) ++ assemble (.code v :: us)
  | .code u :: us => utf8Encode (scalarOf u) ++ assemble us

/-! ## Numbers -/

/-- The fractional digits after a point, if there is one. -/
def readFrac (s : Bytes) : Option (Option Bytes × Bytes) :=
  match s with
  | [] => some (none, [])
  | b :: r =>
      if b = 46 then
        if r.takeWhile isDigit = [] then none
        else some (some (r.takeWhile isDigit), r.dropWhile isDigit)
      else some (none, b :: r)

/-- The exponent, if there is one. -/
def readExp (s : Bytes) : Option (Option Int × Bytes) :=
  match s with
  | [] => some (none, [])
  | b :: r =>
      if b = 101 ∨ b = 69 then
        let neg := r.head? == some 45
        let r := if r.head? = some 43 ∨ r.head? = some 45 then r.tail else r
        if r.takeWhile isDigit = [] then none
        else
          let e : Int := digitsVal (r.takeWhile isDigit)
          some (some (if neg then -e else e), r.dropWhile isDigit)
      else some (none, b :: r)

/-- The value of a number with integer digits `ds`. -/
def numberValue (neg : Bool) (ds : Bytes) (frac : Option Bytes)
    (exp : Option Int) : Json :=
  match frac, exp with
  | none, none =>
      .int (if neg then -(digitsVal ds : Int) else digitsVal ds)
  | _, _ =>
      let fs := frac.getD []
      let m : ℚ := digitsVal (ds ++ fs) / (10 : ℚ) ^ fs.length
      let q : ℚ := m * (10 : ℚ) ^ (exp.getD 0)
      .dbl (.fin (if neg then -q else q))

/-- Read a number. -/
def readNumber (s : Bytes) : Option (Json × Bytes) :=
  let neg := s.head? == some 45
  let s := if neg then s.tail else s
  let ds := s.takeWhile isDigit
  -- a leading zero stands alone
  if ds = [] ∨ (ds.head? = some 48 ∧ 1 < ds.length) then none
  else
    match readFrac (s.dropWhile isDigit) with
    | none => none
    | some (frac, r) =>
        match readExp r with
        | none => none
        | some (exp, r) => some (numberValue neg ds frac exp, r)

/-! ## Values -/

/-- JSON whitespace. -/
def isWs (b : UInt8) : Bool :=
  decide (b = 32 ∨ b = 9 ∨ b = 10 ∨ b = 13)

/-- Drop leading whitespace. -/
def skipWs (s : Bytes) : Bytes :=
  s.dropWhile isWs

/-- Skip whitespace and one given octet. -/
def expect (b : UInt8) (s : Bytes) : Option Bytes :=
  match skipWs s with
  | [] => none
  | c :: r => if c = b then some r else none

/-- Skip a literal name. -/
def readName (name : Bytes) (v : Json) (s : Bytes) : Option (Json × Bytes) :=
  if name <+: s then some (v, s.drop name.length) else none

/-- Behind an element: the closing octet ends the list, a comma goes on. -/
def closeOrComma {α : Type} (close : UInt8) (x : α)
    (more : Bytes → Option (List α × Bytes)) (s : Bytes) :
    Option (List α × Bytes) :=
  match expect close s with
  | some r => some ([x], r)
  | none =>
      match expect 44 s with
      | none => none
      | some r => (more r).map (fun p => (x :: p.1, p.2))

mutual

/-- Read one value; the number bounds the nesting and the members. -/
def readValue : Nat → Bytes → Option (Json × Bytes)
  | 0, _ => none
  | n + 1, s =>
      match skipWs s with
      | [] => none
      | b :: r =>
          if b = 34 then
            (readString .text r).map (fun p => (.str (assemble p.1), p.2))
          else if b = 123 then
            match expect 125 r with
            | some r' => some (.obj [], r')
            | none => (readMembers n r).map (fun p => (.obj p.1, p.2))
          else if b = 91 then
            match expect 93 r with
            | some r' => some (.arr [], r')
            | none => (readElems n r).map (fun p => (.arr p.1, p.2))
          else if b = 116 then readName (ascii "true") (.bool true) (b :: r)
          else if b = 102 then readName (ascii "false") (.bool false) (b :: r)
          else if b = 110 then readName (ascii "null") .null (b :: r)
          else readNumber (b :: r)

/-- Read the elements of an array up to its closing bracket. -/
def readElems : Nat → Bytes → Option (List Json × Bytes)
  | 0, _ => none
  | n + 1, s =>
      match readValue n s with
      | none => none
      | some (v, r) => closeOrComma 93 v (readElems n) r

/-- Read the members of an object up to its closing brace. -/
def readMembers : Nat → Bytes → Option (List (Bytes × Json) × Bytes)
  | 0, _ => none
  | n + 1, s =>
      match expect 34 s with
      | none => none
      | some r =>
          match readString .text r with
          | none => none
          | some (k, r) =>
              match expect 58 r with
              | none => none
              | some r =>
                  match readValue n r with
                  | none => none
                  | some (v, r) =>
                      closeOrComma 125 (assemble k, v) (readMembers n) r

end

/-- The value denoted by a whole text. -/
def decode (s : Bytes) : Option Json :=
  match readValue (s.length + 1) s with
  | none => none
  | some (v, r) => if skipWs r = [] then some v else none

end PsdkBridge
