import RequestLog.Text.Quoted

/-!
# Octets and text

Header names, header values and bodies are octets.  As Latin text each octet is the character of the
same number; as UTF-8 text the octets have to be a well-formed encoding.
-/

namespace RequestLog

/-- A sequence of octets. -/
abbrev Octets := List UInt8

namespace Octets

/-- Every octet as the character of the same number. -/
def latin (octets : Octets) : String :=
  String.ofList (octets.map fun octet => Char.ofNat octet.toNat)

/-- A character that no octet stands for. -/
def isBeyondLatin (c : Char) : Bool :=
  256 ≤ c.toNat

/-- The octets of a text of characters below 256, or the place and the length of its first run of
characters beyond. -/
def ofLatin (text : String) : Except (Nat × Nat) Octets :=
  match text.toList.findIdx? isBeyondLatin with
  | some place => .error (place, ((text.toList.drop place).takeWhile isBeyondLatin).length)
  | none => .ok (text.toList.map fun c => UInt8.ofNat c.toNat)

/-- The UTF-8 encoding of a text. -/
def ofText (text : String) : Octets :=
  text.toUTF8.data.toList

/-- The text that the octets encode in UTF-8, if they are well formed. -/
def text? (octets : Octets) : Option String :=
  String.fromUTF8? ⟨octets.toArray⟩

/-- The octets as a quoted text marked as such. -/
def quoted (octets : Octets) : String :=
  "b" ++ Text.quotedAscii octets.latin

end Octets
end RequestLog
