import RequestLog.Text.Octets

/-!
# Base64

Octets written in sextets, four characters for three octets.  Decoding is strict: only characters of
the alphabet and padding are read, no character of the alphabet follows padding, nothing follows
padding that completes a group of four, and the last group has to be complete.  Padding between
complete groups and the bits that padding leaves over are ignored.
-/

namespace RequestLog
namespace Base64

/-- The sixty-four characters in the order of their sextets. -/
def alphabet : List Char :=
  "ABCDEFGHIJKLMNOPQRSTUVWXYZabcdefghijklmnopqrstuvwxyz0123456789+/".toList

/-- The sextet of a character. -/
def sextet? (c : Char) : Option Nat :=
  if 'A' ≤ c ∧ c ≤ 'Z' then some (c.toNat - 65)
  else if 'a' ≤ c ∧ c ≤ 'z' then some (c.toNat - 71)
  else if '0' ≤ c ∧ c ≤ '9' then some (c.toNat + 4)
  else if c = '+' then some 62
  else if c = '/' then some 63
  else none

/-- The character of a sextet. -/
def sextetChar (sextet : Nat) : Char :=
  alphabet.getD sextet '='

/-- The whole octets in up to four sextets. -/
def octetsOf : List Nat → Octets
  | [a, b] => [UInt8.ofNat (a * 4 + b / 16)]
  | [a, b, c] => [UInt8.ofNat (a * 4 + b / 16), UInt8.ofNat (b % 16 * 16 + c / 4)]
  | [a, b, c, d] =>
      [UInt8.ofNat (a * 4 + b / 16), UInt8.ofNat (b % 16 * 16 + c / 4),
        UInt8.ofNat (c % 4 * 64 + d)]
  | _ => []

/-- Decode the rest of a text.  `group` holds the sextets of the group begun, `pads` the padding
read since its second sextet, and `padded` says whether there has been any padding. -/
def decodeFrom (group : List Nat) (pads : Nat) (padded : Bool) : List Char → Option Octets
  | [] => if group.isEmpty then some [] else none
  | c :: rest =>
      if c = '=' then
        if group.length < 2 then decodeFrom group pads true rest
        else if group.length + pads + 1 < 4 then decodeFrom group (pads + 1) true rest
        else if rest.isEmpty then some (octetsOf group)
        else none
      else
        match sextet? c with
        | none => none
        | some sextet =>
            if padded then none
            else if group.length < 3 then decodeFrom (group ++ [sextet]) 0 false rest
            else (decodeFrom [] 0 false rest).map (octetsOf (group ++ [sextet]) ++ ·)

/-- Decode a text; it must not begin with padding. -/
def decode? (text : List Char) : Option Octets :=
  if text.head? = some '=' then none else decodeFrom [] 0 false text

/-- Encode octets, three at a time; padding completes the last group. -/
def encode : Octets → List Char
  | [] => []
  | [a] => [sextetChar (a.toNat / 4), sextetChar (a.toNat % 4 * 16), '=', '=']
  | [a, b] =>
      [sextetChar (a.toNat / 4), sextetChar (a.toNat % 4 * 16 + b.toNat / 16),
        sextetChar (b.toNat % 16 * 4), '=']
  | a :: b :: c :: rest =>
      sextetChar (a.toNat / 4) :: sextetChar (a.toNat % 4 * 16 + b.toNat / 16)
        :: sextetChar (b.toNat % 16 * 4 + c.toNat / 64) :: sextetChar (c.toNat % 64) :: encode rest

end Base64
end RequestLog
