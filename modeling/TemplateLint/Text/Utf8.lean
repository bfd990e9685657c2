import TemplateLint.Text.Literal

namespace TemplateLint.Text

inductive DecodeReason where
  | start | continuation | ended
  deriving DecidableEq, Repr

structure DecodeFault where
  position : Nat
  size : Nat
  byte : UInt8
  reason : DecodeReason
  deriving DecidableEq, Repr

def DecodeReason.message : DecodeReason → String
  | .start => "invalid start byte"
  | .continuation => "invalid continuation byte"
  | .ended => "unexpected end of data"

def DecodeFault.message (fault : DecodeFault) : String :=
  let what :=
    if fault.size = 1 then s!"byte 0x{String.ofList (hex 2 fault.byte.toNat)} in position {fault.position}"
    else s!"bytes in position {fault.position}-{fault.position + fault.size - 1}"
  s!"'utf-8' codec can't decode {what}: {fault.reason.message}"

private def lead (b : UInt8) : Nat × Nat × Nat × Nat :=
  -- How many bytes follow, the bits of this one, and the bounds of the next.
  if b < 0xe0 then (1, b.toNat - 0xc0, 0x80, 0xbf)
  else if b < 0xf0 then (2, b.toNat - 0xe0, if b = 0xe0 then 0xa0 else 0x80, if b = 0xed then 0x9f else 0xbf)
  else (3, b.toNat - 0xf0, if b = 0xf0 then 0x90 else 0x80, if b = 0xf4 then 0x8f else 0xbf)

private def follow : (more size value low high : Nat) → List UInt8 → Except (Nat × DecodeReason) (Nat × Nat)
  | 0, size, value, _, _, _ => .ok (size, value)
  | _ + 1, size, _, _, _, [] => .error (size, .ended)
  | more + 1, size, value, low, high, b :: bytes =>
    if low ≤ b.toNat ∧ b.toNat ≤ high then follow more (size + 1) (value * 64 + (b.toNat - 0x80)) 0x80 0xbf bytes
    else .error (size, .continuation)

def decodeChar (b : UInt8) (bytes : List UInt8) : Except (Nat × DecodeReason) (Nat × Nat) :=
  if b < 0x80 then .ok (1, b.toNat)
  else if b < 0xc2 || 0xf4 < b then .error (1, .start)
  else
    let (more, value, low, high) := lead b
    follow more 1 value low high bytes

def decodeAt (position : Nat) : List UInt8 → Except DecodeFault (List Char)
  | [] => .ok []
  | b :: bytes =>
    match decodeChar b bytes with
    | .error (size, reason) => .error ⟨position, size, b, reason⟩
    | .ok (size, value) =>
      match decodeAt (position + size) (bytes.drop (size - 1)) with
      | .error fault => .error fault
      | .ok cs => .ok (Char.ofNat value :: cs)
termination_by bytes => bytes.length
decreasing_by simp only [List.length_cons, List.length_drop]; omega

def decodeUtf8 (bytes : List UInt8) : Except DecodeFault String := (decodeAt 0 bytes).map String.ofList

def encodeUtf8 (s : String) : List UInt8 := s.toUTF8.toList

end TemplateLint.Text
