namespace EnclosingScope.Text

def byteCount : List Char → Nat
  | [] => 0
  | c :: cs => c.utf8Size + byteCount cs

def bytes (name : String) : List UInt8 :=
  name.toUTF8.toList

def before (a b : String) : Prop :=
  bytes a < bytes b

instance (a b : String) : Decidable (before a b) :=
  inferInstanceAs (Decidable (bytes a < bytes b))

-- A character whose bytes are not all there yet: how many come behind the next one, what the next
-- one may be, and the bits so far.
structure Begun where
  later : Nat
  low : Nat
  high : Nat
  bits : Nat

def replacement : Char := '\uFFFD'

def leadByte (b : Nat) : List Char × Option Begun :=
  if b < 0x80 then ([Char.ofNat b], none)
  else if b < 0xC2 then ([replacement], none)
  else if b < 0xE0 then ([], some ⟨0, 0x80, 0xBF, b - 0xC0⟩)
  else if b < 0xF0 then
    ([], some ⟨1, if b = 0xE0 then 0xA0 else 0x80, if b = 0xED then 0x9F else 0xBF, b - 0xE0⟩)
  else if b < 0xF5 then
    ([], some ⟨2, if b = 0xF0 then 0x90 else 0x80, if b = 0xF4 then 0x8F else 0xBF, b - 0xF0⟩)
  else ([replacement], none)

def decodeByte : Option Begun → Nat → List Char × Option Begun
  | none, b => leadByte b
  | some ⟨later, low, high, bits⟩, b =>
      if low ≤ b ∧ b ≤ high then
        let bits := 64 * bits + (b - 0x80)
        match later with
        | 0 => ([Char.ofNat bits], none)
        | later + 1 => ([], some ⟨later, 0x80, 0xBF, bits⟩)
      else
        -- What was begun is given up, and the byte is looked at anew.
        let (cs, begun) := leadByte b
        (replacement :: cs, begun)

def decodeFrom (begun : Option Begun) : List UInt8 → List Char
  | [] => if begun.isSome then [replacement] else []
  | b :: bs =>
      let (cs, begun) := decodeByte begun b.toNat
      cs ++ decodeFrom begun bs

-- Where the bytes are not those of a text, each longest part that begins a character, or else the
-- byte, is replaced.
def lossy (bytes : List UInt8) : String :=
  String.ofList (decodeFrom none bytes)

end EnclosingScope.Text
