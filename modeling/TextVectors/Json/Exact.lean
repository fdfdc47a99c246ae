import TextVectors.Json.Loose
import TextVectors.Json.Reader

namespace TextVectors.Json

/-! Floating-point numbers written without loss.

A number is written as the hexadecimal digits of its bits, and what is no number
by its name.  A binary32 number is read from a JSON number, from the name of a
special value, or from its bits behind `0x`.
-/

/-- A natural number with at least so many hexadecimal digits. -/
def hexadecimal (digits value : Nat) : String :=
  let written := Nat.toDigits 16 value
  String.ofList (List.replicate (digits - written.length) '0' ++ written)

def ofHexadecimal (digits : List Char) : Nat :=
  digits.foldl (fun value digit => value * 16 + (hexValue? digit).getD 0) 0

def exactBinary32 (x : Float32) : Json :=
  .text (if x.isNaN then "nan" else hexadecimal 8 x.toBits.toNat)

def exactBinary64 (x : Float) : Json :=
  .text (if x.isNaN then "nan" else hexadecimal 16 x.toBits.toNat)

/-- The binary32 number that a text names or spells out. -/
def binary32OfText (text : String) : Float32 :=
  match text.toList with
  | '0' :: 'x' :: digits => Float32.ofBits (UInt32.ofNat (ofHexadecimal digits))
  | ['n', 'a', 'n'] => Float32.ofBits 0x7FC00000
  | ['i', 'n', 'f'] => Float32.ofBits 0x7F800000
  | ['-', 'i', 'n', 'f'] => Float32.ofBits 0xFF800000
  | ['-', '0'] => Float32.ofBits 0x80000000
  | _ => Binary32.zero

def looseBinary32 : Json → Float32
  | .string text => binary32OfText (text.getD "")
  | value => value.binary32?.getD Binary32.zero

def looseBinary64 : Json → Float
  | .number value => value.wide?.getD 0
  | _ => 0

def binary32At (value : Json) (name : String) : Float32 :=
  (value.memberAt name).looseBinary32

def binary32sAt (value : Json) (name : String) : List Float32 :=
  (value.listAt name).map looseBinary32

end TextVectors.Json
