/-! # Base 64

Bytes written six bits to a character. Characters outside the alphabet are passed over, and padding
ends the text once it completes a group of four.
-/

namespace ShaderBuild.Text.Base64

/-- The six bits that a character stands for. -/
def digit? (c : Char) : Option Nat :=
  if 'A' ≤ c ∧ c ≤ 'Z' then some (c.toNat - 65)
  else if 'a' ≤ c ∧ c ≤ 'z' then some (c.toNat - 71)
  else if c.isDigit then some (c.toNat + 4)
  else if c = '+' then some 62
  else if c = '/' then some 63
  else none

/-- Read the characters of a group of which `held` are there, the last of them with value `last`;
    `pads` padding characters came right before. The last group must be complete or padded. -/
def decodeFrom (held last pads : Nat) : List Char → Option (List UInt8)
  | [] => if held = 0 then some [] else none
  | c :: rest =>
    if c = '=' then
      if held ≥ 2 ∧ held + pads + 1 ≥ 4 then some []
      else decodeFrom held last (if held ≥ 2 then pads + 1 else pads) rest
    else
      match digit? c with
      | none => decodeFrom held last pads rest
      | some value =>
        match held with
        | 0 => decodeFrom 1 value 0 rest
        | 1 => (decodeFrom 2 value 0 rest).map ((last * 4 + value / 16).toUInt8 :: ·)
        | 2 => (decodeFrom 3 value 0 rest).map ((last % 16 * 16 + value / 4).toUInt8 :: ·)
        | _ => (decodeFrom 0 0 0 rest).map ((last % 4 * 64 + value).toUInt8 :: ·)

/-- The bytes that a text stands for. -/
def decode? (text : List Char) : Option (List UInt8) := decodeFrom 0 0 0 text

end ShaderBuild.Text.Base64
