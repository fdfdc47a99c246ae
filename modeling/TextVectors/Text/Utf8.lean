namespace TextVectors.Text

/-! Texts handed over as bytes.

Bytes that are no UTF-8 become replacement characters, one for each longest
start of a well-formed sequence that is broken off.
-/

def replacement : Char := Char.ofNat 0xFFFD

def isContinuation (byte : UInt8) : Bool :=
  0x80 ≤ byte && byte ≤ 0xBF

/-- The bytes that may follow the first byte of a sequence of three. -/
def secondOfThree (first second : UInt8) : Bool :=
  if first == 0xE0 then 0xA0 ≤ second && second ≤ 0xBF
  else if first == 0xED then 0x80 ≤ second && second ≤ 0x9F
  else isContinuation second

/-- The bytes that may follow the first byte of a sequence of four. -/
def secondOfFour (first second : UInt8) : Bool :=
  if first == 0xF0 then 0x90 ≤ second && second ≤ 0xBF
  else if first == 0xF4 then 0x80 ≤ second && second ≤ 0x8F
  else isContinuation second

/-- The payload of a continuation byte. -/
def payload (byte : UInt8) : Nat :=
  byte.toNat % 0x40

/-- Decodes UTF-8, putting a replacement character for each broken sequence. -/
def decodeLossy : List UInt8 → List Char
  | [] => []
  | a :: rest =>
      if a < 0x80 then Char.ofNat a.toNat :: decodeLossy rest
      else if 0xC2 ≤ a && a ≤ 0xDF then
        match rest with
        | b :: after =>
            if isContinuation b then
              Char.ofNat (a.toNat % 0x20 * 0x40 + payload b) :: decodeLossy after
            else replacement :: decodeLossy (b :: after)
        | [] => [replacement]
      else if 0xE0 ≤ a && a ≤ 0xEF then
        match rest with
        | b :: c :: after =>
            if secondOfThree a b then
              if isContinuation c then
                Char.ofNat ((a.toNat % 0x10 * 0x40 + payload b) * 0x40 + payload c) ::
                  decodeLossy after
              else replacement :: decodeLossy (c :: after)
            else replacement :: decodeLossy (b :: c :: after)
        | [b] => if secondOfThree a b then [replacement] else replacement :: decodeLossy [b]
        | [] => [replacement]
      else if 0xF0 ≤ a && a ≤ 0xF4 then
        match rest with
        | b :: c :: d :: after =>
            if secondOfFour a b then
              if isContinuation c then
                if isContinuation d then
                  Char.ofNat
                    (((a.toNat % 0x08 * 0x40 + payload b) * 0x40 + payload c) * 0x40 + payload d) ::
                    decodeLossy after
                else replacement :: decodeLossy (d :: after)
              else replacement :: decodeLossy (c :: d :: after)
            else replacement :: decodeLossy (b :: c :: d :: after)
        | [b, c] =>
            if secondOfFour a b then
              if isContinuation c then [replacement] else replacement :: decodeLossy [c]
            else replacement :: decodeLossy [b, c]
        | [b] => if secondOfFour a b then [replacement] else replacement :: decodeLossy [b]
        | [] => [replacement]
      else replacement :: decodeLossy rest
termination_by bytes => bytes.length

/-- A text that ends at its first zero byte; no text at all reads as empty. -/
def ofTerminated : Option (List UInt8) → String
  | none => ""
  | some bytes => String.ofList (decodeLossy (bytes.takeWhile (· != 0)))

end TextVectors.Text
