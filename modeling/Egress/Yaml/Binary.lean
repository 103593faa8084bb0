/-!
# Bytes written with sixty-four characters

Four characters stand for three bytes.  Characters outside the alphabet are passed over, and reading
ends where equals signs fill up a group.  A group that is cut short otherwise makes the text no
encoding of bytes.
-/

namespace Egress.Yaml.Binary

/-- What a character of the alphabet stands for. -/
def sextet? (char : Char) : Option Nat :=
  if 'A' ≤ char ∧ char ≤ 'Z' then some (char.toNat - 'A'.toNat)
  else if 'a' ≤ char ∧ char ≤ 'z' then some (char.toNat - 'a'.toNat + 26)
  else if '0' ≤ char ∧ char ≤ '9' then some (char.toNat - '0'.toNat + 52)
  else if char == '+' then some 62
  else if char == '/' then some 63
  else none

/-- A group of four characters in progress, and the bytes so far, the latest first. -/
structure Group where
  /-- How many characters of the group were read. -/
  filled : Nat
  /-- The bits of the last one that are not in a byte yet. -/
  pending : Nat
  /-- How many equals signs came after it. -/
  pads : Nat
  bytes : List UInt8

/-- Take one more character of the alphabet. -/
def Group.take (group : Group) (value : Nat) : Group :=
  let byte (kept shifted : Nat) : List UInt8 := UInt8.ofNat (kept + shifted) :: group.bytes
  match group.filled with
  | 0 => ⟨1, value, 0, group.bytes⟩
  | 1 => ⟨2, value % 16, 0, byte (group.pending * 4) (value / 16)⟩
  | 2 => ⟨3, value % 4, 0, byte (group.pending * 16) (value / 4)⟩
  | _ => ⟨0, 0, 0, byte (group.pending * 64) value⟩

def decodeFrom (group : Group) : List Char → Option (List UInt8)
  | [] => if group.filled == 0 then some group.bytes.reverse else none
  | '=' :: rest =>
    if group.filled < 2 then decodeFrom group rest
    else if 4 ≤ group.filled + group.pads + 1 then some group.bytes.reverse
    else decodeFrom { group with pads := group.pads + 1 } rest
  | char :: rest =>
    match sextet? char with
    | some value => decodeFrom (group.take value) rest
    | none => decodeFrom group rest

/-- The bytes that a text encodes, if it does; it may hold only the first 128 characters. -/
def decode (text : String) : Option (List UInt8) :=
  let chars := text.toList
  if chars.all fun char => char.toNat < 128 then decodeFrom ⟨0, 0, 0, []⟩ chars else none

end Egress.Yaml.Binary
