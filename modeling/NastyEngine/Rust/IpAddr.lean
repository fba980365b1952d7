import NastyEngine.Rust.Text

/-!
# `std::net::IpAddr::from_str`

A port of the standard library's parser. Each reader takes the text left to read and returns
what it read with the rest, or `none` with nothing consumed.
-/

namespace NastyEngine.Rust

structure Ipv4Addr where
  octets : List Nat
  deriving DecidableEq

structure Ipv6Addr where
  segments : List Nat
  deriving DecidableEq

inductive IpAddr where
  | v4 (addr : Ipv4Addr)
  | v6 (addr : Ipv6Addr)
  deriving DecidableEq

abbrev Reader (α : Type) := List Char → Option (α × List Char)

/-- `read_number` with a digit limit: the whole run of digits is read, and it must be short
enough, in range and without a forbidden leading zero. -/
def readNumber (radix maxDigits bound : Nat) (allowZeroPrefix : Bool) : Reader Nat := fun s =>
  let digits := s.takeWhile fun c => (toDigit radix c).isSome
  let rest := s.dropWhile fun c => (toDigit radix c).isSome
  if digits.length = 0 ∨ maxDigits < digits.length then none
  else if !allowZeroPrefix && digits.head? == some '0' && 1 < digits.length then none
  else ((digitsValue radix 0 digits).filter (· < bound)).map fun n => (n, rest)

/-- `read_separator`: nothing before the first item, `sep` before every other. -/
def readSeparator {α : Type} (sep : Char) (index : Nat) (inner : Reader α) : Reader α := fun s =>
  if index = 0 then inner s
  else match s with
    | c :: rest => if c = sep then inner rest else none
    | [] => none

def readIpv4Groups : Nat → Nat → Reader (List Nat)
  | 0, _, s => some ([], s)
  | left + 1, index, s => do
    let (octet, rest) ← readSeparator '.' index (readNumber 10 3 256 false) s
    let (octets, rest) ← readIpv4Groups left (index + 1) rest
    some (octet :: octets, rest)

def readIpv4Addr : Reader Ipv4Addr := fun s =>
  (readIpv4Groups 4 0 s).map fun (octets, rest) => (⟨octets⟩, rest)

def Ipv4Addr.segments (a : Ipv4Addr) : List Nat :=
  match a.octets with
  | [one, two, three, four] => [one * 256 + two, three * 256 + four]
  | _ => []

/-- `read_groups`: the segments read, whether they end in an embedded IPv4 address, and the rest. -/
def readGroups : Nat → Nat → List Char → List Nat × Bool × List Char
  | 0, _, s => ([], false, s)
  | left + 1, index, s =>
    -- an embedded IPv4 address needs two free segments
    match if 0 < left then readSeparator ':' index readIpv4Addr s else none with
    | some (v4, rest) => (v4.segments, true, rest)
    | none =>
      match readSeparator ':' index (readNumber 16 4 65536 true) s with
      | none => ([], false, s)
      | some (segment, rest) =>
        let (segments, v4, rest) := readGroups left (index + 1) rest
        (segment :: segments, v4, rest)

def readIpv6Addr : Reader Ipv6Addr := fun s =>
  let (head, headIpv4, rest) := readGroups 8 0 s
  if head.length = 8 then some (⟨head⟩, rest)
  else if headIpv4 then none
  else match rest with
    | ':' :: ':' :: rest =>
      let (tail, _, rest) := readGroups (8 - (head.length + 1)) 0 rest
      some (⟨head ++ List.replicate (8 - head.length - tail.length) 0 ++ tail⟩, rest)
    | _ => none

/-- `parse_with`: the reader must consume the whole text. -/
def parseWith {α : Type} (reader : Reader α) (s : List Char) : Option α :=
  match reader s with
  | some (value, []) => some value
  | _ => none

/-- `Ipv4Addr::from_str`, which also refuses texts longer than `255.255.255.255`. -/
def parseIpv4Addr (s : List Char) : Option Ipv4Addr := if 15 < strLen s then none else parseWith readIpv4Addr s

def parseIpv6Addr (s : List Char) : Option Ipv6Addr := parseWith readIpv6Addr s

def parseIpAddr (s : List Char) : Option IpAddr :=
  parseWith (fun s => ((readIpv4Addr s).map fun (a, rest) => (.v4 a, rest)).or
    ((readIpv6Addr s).map fun (a, rest) => (.v6 a, rest))) s

example : parseIpAddr "10.0.0.5".toList = some (.v4 ⟨[10, 0, 0, 5]⟩) := by decide

example : parseIpAddr "2001:db8::1".toList = some (.v6 ⟨[0x2001, 0xdb8, 0, 0, 0, 0, 0, 1]⟩) := by decide

example : parseIpAddr "10.0.0.05".toList = none := by decide

end NastyEngine.Rust
