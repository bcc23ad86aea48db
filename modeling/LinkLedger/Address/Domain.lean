import LinkLedger.Address.Label
import LinkLedger.Address.Punycode
import LinkLedger.Unicode.HostMapping
import LinkLedger.Unicode.Normal

/-!
# Domain names in ASCII

Preparing a domain name: its characters are mapped, the text is normalised and cut at the dots,
each label is checked, and labels outside ASCII are written with the prefix `xn--` in Punycode. A
label that already has the prefix is decoded and checked as what it stands for. Hyphens and lengths
are free; the characters that delimit hosts and addresses are not, wherever they come from.
-/

set_option autoImplicit false

namespace LinkLedger.Address

open LinkLedger.Unicode

def isAscii (c : Char) : Bool := c.toNat < 0x80

/-- The prefix of labels in Punycode. -/
def acePrefix : List Char := ['x', 'n', '-', '-']

/-- Most characters that a label outside ASCII may have. -/
def encodeLimit : Nat := 1000

/-- Most characters that a label in Punycode may have after its prefix. -/
def decodeLimit : Nat := 2000

/-- The text after mapping every character; none if one of them is forbidden. -/
def mapHost : List Char → Option (List Char)
  | [] => some []
  | c :: rest =>
    match hostTreatment c with
    | .kept => (mapHost rest).map (c :: ·)
    | .replaced text => (mapHost rest).map (text ++ ·)
    | .forbidden => none

/-- Characters that may not stand in a host name because they end or delimit hosts: controls, the
space, and these marks. -/
def isDelimiter (c : Char) : Bool :=
  c.toNat ≤ 0x20 || c.toNat == 0x7F || ['%', '#', '/', ':', '<', '>', '?', '@', '[', '\\', ']', '^',
    '|'].contains c

/-- A label as people read it and as it is written in ASCII. -/
structure Label where
  shown : List Char
  written : List Char

/-- A label in Punycode stands for one that is outside ASCII, already mapped and normalised, and
has no such prefix itself. -/
def Label.ofPunycode? (text : List Char) : Option Label := do
  let code := text.drop acePrefix.length
  if decodeLimit < code.length then none
  else
    let shown ← Punycode.decode? code
    if shown.all isAscii || compose shown ≠ shown || acePrefix.isPrefixOf shown
      || shown.any (fun c => hostTreatment c ≠ .kept) then none
    else some ⟨shown, text⟩

/-- Reads one label of a mapped name. -/
def Label.ofMapped? (text : List Char) : Option Label :=
  if acePrefix.isPrefixOf text then
    if text.all isAscii then Label.ofPunycode? text else none
  else if text.all isAscii then some ⟨text, text⟩
  else if encodeLimit < text.length then none
  else some ⟨text, acePrefix ++ Punycode.encode text⟩

/-- The ASCII form of a domain name, its labels apart by dots. -/
def domainToAscii? (name : List Char) : Option (List Char) := do
  let mapped ← mapHost name
  let labels ← ((compose mapped).splitOn '.').mapM Label.ofMapped?
  let shown := labels.map Label.shown
  let written := labels.map Label.written
  if written.any (fun label => label.any isDelimiter) || !shown.all isValidLabel
    || !directionsAgree shown then none
  else some (['.'].intercalate written)

end LinkLedger.Address
