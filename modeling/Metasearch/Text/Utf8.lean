/-!
The byte form of texts. Encoding is total; decoding is either strict, refusing a text with any broken
byte, or lenient, putting the replacement character for each broken sequence.
-/

namespace Metasearch.Text.Utf8

/-- The bytes of a text. -/
def encode (cs : List Char) : List UInt8 :=
  cs.flatMap String.utf8EncodeChar

/-- Whether a byte continues a sequence. -/
def isContinuation (b : UInt8) : Bool :=
  0x80 ≤ b && b ≤ 0xBF

/-- What stands at the head of a byte sequence: a character with its length, or a broken sequence with
the number of bytes that one replacement character stands for. -/
inductive Head where
  | char (c : Char) (length : Nat)
  | broken (length : Nat)

/-- The allowed range of the second byte after a leading byte, and the number of bytes to follow.
Overlong forms, surrogates and code points above the last plane are excluded by the range. -/
def leadRange (b : UInt8) : Option (UInt8 × UInt8 × Nat) :=
  if 0xC2 ≤ b ∧ b ≤ 0xDF then some (0x80, 0xBF, 1)
  else if b = 0xE0 then some (0xA0, 0xBF, 2)
  else if b = 0xED then some (0x80, 0x9F, 2)
  else if 0xE1 ≤ b ∧ b ≤ 0xEF then some (0x80, 0xBF, 2)
  else if b = 0xF0 then some (0x90, 0xBF, 3)
  else if 0xF1 ≤ b ∧ b ≤ 0xF3 then some (0x80, 0xBF, 3)
  else if b = 0xF4 then some (0x80, 0x8F, 3)
  else none

/-- The low six bits that a continuation byte carries. -/
def payload (b : UInt8) : Nat :=
  b.toNat % 64

/-- Read the head of a nonempty byte sequence. A broken sequence ends before the first byte that
cannot continue it. -/
def head (first : UInt8) (rest : List UInt8) : Head :=
  if first < 0x80 then .char (Char.ofNat first.toNat) 1
  else match leadRange first with
    | none => .broken 1
    | some (lo, hi, 1) =>
      match rest with
      | b :: _ => if lo ≤ b ∧ b ≤ hi then .char (Char.ofNat (first.toNat % 32 * 64 + payload b)) 2 else .broken 1
      | [] => .broken 1
    | some (lo, hi, 2) =>
      match rest with
      | b :: more =>
        if lo ≤ b ∧ b ≤ hi then
          match more with
          | c :: _ =>
            if isContinuation c then
              .char (Char.ofNat (first.toNat % 16 * 4096 + payload b * 64 + payload c)) 3
            else .broken 2
          | [] => .broken 2
        else .broken 1
      | [] => .broken 1
    | some (lo, hi, _) =>
      match rest with
      | b :: more =>
        if lo ≤ b ∧ b ≤ hi then
          match more with
          | c :: last =>
            if isContinuation c then
              match last with
              | d :: _ =>
                if isContinuation d then
                  .char (Char.ofNat (first.toNat % 8 * 262144 + payload b * 4096 + payload c * 64 + payload d)) 4
                else .broken 3
              | [] => .broken 3
            else .broken 2
          | [] => .broken 2
        else .broken 1
      | [] => .broken 1

/-- Decode with `skip` bytes of the current sequence still to be passed over. -/
def decodeLenientFrom : Nat → List UInt8 → List Char
  | _, [] => []
  | skip + 1, _ :: rest => decodeLenientFrom skip rest
  | 0, b :: rest =>
    match head b rest with
    | .char c length => c :: decodeLenientFrom (length - 1) rest
    | .broken length => '\uFFFD' :: decodeLenientFrom (length - 1) rest

/-- Decode, with the replacement character for every broken sequence. -/
def decodeLenient (bytes : List UInt8) : List Char :=
  decodeLenientFrom 0 bytes

/-- Strict decoding with `skip` bytes of the current sequence still to be passed over. -/
def decodeFrom? : Nat → List UInt8 → Option (List Char)
  | _, [] => some []
  | skip + 1, _ :: rest => decodeFrom? skip rest
  | 0, b :: rest =>
    match head b rest with
    | .char c length => (decodeFrom? (length - 1) rest).map (c :: ·)
    | .broken _ => none

/-- Decode, or `none` if any sequence is broken. -/
def decode? (bytes : List UInt8) : Option (List Char) :=
  decodeFrom? 0 bytes

end Metasearch.Text.Utf8
