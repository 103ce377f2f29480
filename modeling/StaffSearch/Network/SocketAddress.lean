import StaffSearch.Text.Case
import StaffSearch.Text.CharacterClass
import StaffSearch.Text.Split
import StaffSearch.Word

/-!
# Socket addresses

A socket address is a host and a port, with a colon between them. A host is four decimal numbers
with points between them, or, in brackets, eight groups of up to four hexadecimal digits with colons
between them. Of the groups a run of zeros may be left out and stands as a double colon, the last
two may be written as four decimal numbers, and the number of a network interface may follow behind
a percent sign.

Decimal numbers of a host have no needless zero in front; a port may have any number of them.

## Main results

* `SocketAddress.parse?_host_port` — the last colon of an address decides.
-/

namespace StaffSearch

open StaffSearch.Text

/-! ## Hosts -/

/-- The address of a machine. -/
inductive Host where
  /-- Four bytes. -/
  | four (a b c d : UInt8)
  /-- Eight groups of sixteen bits, and the number of an interface or zero. -/
  | six (groups : List UInt16) (interface : UInt32)
  deriving DecidableEq, Repr

/-- A byte in decimal, without needless zeros. -/
def byte? (text : List Char) : Option UInt8 :=
  if text.length = 1 ∨ text.head? ≠ some '0' then
    ((digits? text).filter (· ≤ 255)).map UInt8.ofNat
  else none

/-- Four bytes with points between them. -/
def fourBytes? (text : List Char) : Option (UInt8 × UInt8 × UInt8 × UInt8) :=
  match (pieces '.' text).mapM byte? with
  | some [a, b, c, d] => some (a, b, c, d)
  | _ => none

/-- The number that hexadecimal digits denote. -/
def hexNumber (digits : List Char) : Nat := digits.foldl (fun value c => 16 * value + hexValue c) 0

/-- A group of one to four hexadecimal digits. -/
def group? (text : List Char) : Option UInt16 :=
  if text.isEmpty || 4 < text.length || !text.all isHexDigit then none
  else some (UInt16.ofNat (hexNumber text))

/-- Two bytes as a group. -/
def joinBytes (high low : UInt8) : UInt16 := UInt16.ofNat (256 * high.toNat + low.toNat)

/-- The groups of texts, of which the last may stand for two groups if `allowsBytes` holds. -/
def groups? (allowsBytes : Bool) : List (List Char) → Option (List UInt16)
  | [] => some []
  | [last] =>
    match group? last with
    | some group => some [group]
    | none =>
      if allowsBytes then
        (fourBytes? last).map fun (a, b, c, d) => [joinBytes a b, joinBytes c d]
      else none
  | text :: rest => do
    let group ← group? text
    let others ← groups? allowsBytes rest
    return group :: others

/-- The groups of a part of an address, which may be empty. -/
def side? (allowsBytes : Bool) (text : List Char) : Option (List UInt16) :=
  if text.isEmpty then some [] else groups? allowsBytes (pieces ':' text)

/-- What stands before and behind the first double colon. -/
def cutAtDoubleColon? : List Char → Option (List Char × List Char)
  | ':' :: ':' :: rest => some ([], rest)
  | c :: rest => (cutAtDoubleColon? rest).map fun (before, behind) => (c :: before, behind)
  | [] => none

/-- Eight groups with colons between them; a double colon stands for at least one zero. -/
def eightGroups? (text : List Char) : Option (List UInt16) :=
  match cutAtDoubleColon? text with
  | none => (groups? true (pieces ':' text)).filter fun groups => groups.length = 8
  | some (before, behind) => do
    let front ← side? false before
    let back ← side? true behind
    let gap := 8 - (front.length + back.length)
    if gap = 0 then none else some (front ++ List.replicate gap 0 ++ back)

/-- What stands in the brackets: eight groups, and perhaps the number of an interface. -/
def bracketed? (text : List Char) : Option Host :=
  match cutAtFirst? '%' text with
  | none => (eightGroups? text).map fun groups => .six groups 0
  | some (address, number) => do
    let groups ← eightGroups? address
    let interface ← (digits? number).filter (Word.fitsUnsigned 32)
    return .six groups (UInt32.ofNat interface)

/-- The host that a text denotes. -/
def Host.parse? (text : List Char) : Option Host :=
  match text with
  | '[' :: rest =>
    if rest.getLast? = some ']' then bracketed? rest.dropLast else none
  | _ => (fourBytes? text).map fun (a, b, c, d) => .four a b c d

/-- Four bytes with points between them. -/
def renderBytes (a b c d : Nat) : String :=
  toString a ++ "." ++ toString b ++ "." ++ toString c ++ "." ++ toString d

/-- Groups in hexadecimal with colons between them. -/
def renderGroups (groups : List UInt16) : String :=
  String.intercalate ":" (groups.map fun group => String.ofList (Nat.toDigits 16 group.toNat))

/-- The number of zeros that a list of groups starts with. -/
def leadingZeros (groups : List UInt16) : Nat := (groups.takeWhile (· == 0)).length

/-- The place and the length of the first longest run of zeros from `place` on. -/
def longestZeroRun (place : Nat) : List UInt16 → Nat × Nat
  | [] => (place, 0)
  | group :: rest =>
    let here := leadingZeros (group :: rest)
    let (start, length) := longestZeroRun (place + 1) rest
    if length ≤ here then (place, here) else (start, length)

/-- Eight groups: as four bytes if they are a shorter address inside the longer ones, else with the
first longest run of two or more zeros left out. -/
def renderEight (groups : List UInt16) : String :=
  match groups with
  | [0, 0, 0, 0, 0, 0xFFFF, high, low] =>
    "::ffff:" ++ renderBytes (high.toNat / 256) (high.toNat % 256) (low.toNat / 256)
      (low.toNat % 256)
  | _ =>
    let (start, length) := longestZeroRun 0 groups
    if length ≤ 1 then renderGroups groups
    else renderGroups (groups.take start) ++ "::" ++ renderGroups (groups.drop (start + length))

/-- The written form of a host. -/
def Host.render : Host → String
  | four a b c d => renderBytes a.toNat b.toNat c.toNat d.toNat
  | six groups interface =>
    "[" ++ renderEight groups ++
      (if interface = 0 then "" else "%" ++ toString interface.toNat) ++ "]"

/-! ## Addresses -/

/-- Where a program listens. -/
structure SocketAddress where
  /-- The address of the machine. -/
  host : Host
  /-- The port. -/
  port : UInt16
  deriving DecidableEq, Repr

namespace SocketAddress

/-- The port that digits denote. -/
def port? (text : List Char) : Option UInt16 :=
  ((digits? text).filter (Word.fitsUnsigned 16)).map UInt16.ofNat

/-- The address that a text denotes. -/
def parse? (text : String) : Option SocketAddress :=
  match cutAtLast? ':' text.toList with
  | none => none
  | some (host, port) =>
    match Host.parse? host, port? port with
    | some host, some port => some { host, port }
    | _, _ => none

/-- The written form of an address. -/
def render (address : SocketAddress) : String :=
  address.host.render ++ ":" ++ toString address.port.toNat

theorem parse?_host_port {host port : List Char} (h : ':' ∉ port) :
    parse? (String.ofList (host ++ ':' :: port)) =
      match Host.parse? host, port? port with
      | some host, some port => some { host, port }
      | _, _ => none := by
  simp [parse?, cutAtLast?_append h]

end SocketAddress

end StaffSearch
