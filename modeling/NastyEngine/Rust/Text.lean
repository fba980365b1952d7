import Mathlib.Algebra.GroupWithZero.Nat
import Mathlib.Data.Char

/-!
# Text as the Rust standard library reads it

Strings are handled as lists of characters; `strLen` is the length in bytes that `str::len` returns.
-/

namespace NastyEngine.Rust
open List

def strLen (s : List Char) : Nat := (s.map Char.utf8Size).sum

def toDigit (radix : Nat) (c : Char) : Option Nat :=
  let value :=
    if '0' ≤ c ∧ c ≤ '9' then c.toNat - '0'.toNat
    else if 'a' ≤ c ∧ c ≤ 'z' then c.toNat - 'a'.toNat + 10
    else if 'A' ≤ c ∧ c ≤ 'Z' then c.toNat - 'A'.toNat + 10
    else radix
  if value < radix then some value else none

def digitsValue (radix : Nat) : Nat → List Char → Option Nat
  | acc, [] => some acc
  | acc, c :: rest => (toDigit radix c).bind fun d => digitsValue radix (acc * radix + d) rest

/-- `from_str_radix` of an unsigned type with `bound` values: an optional `+`, then at least one
digit, and no overflow. `str::parse` is the case `radix = 10`. -/
def fromStrRadix (radix bound : Nat) (s : List Char) : Option Nat :=
  let digits := match s with
    | '+' :: rest => rest
    | _ => s
  if digits = [] then none else (digitsValue radix 0 digits).filter (· < bound)

theorem toDigits_inj {m n : Nat} (eq : Nat.toDigits 10 m = Nat.toDigits 10 n) : m = n := by
  have read := congrArg (Nat.ofDigitChars 10 · 0) eq
  simpa only [Nat.ofDigitChars_ten_toDigits] using read

/-- `str::split_once` on a character. -/
def splitOnce (sep : Char) : List Char → Option (List Char × List Char)
  | [] => none
  | c :: rest =>
    if c = sep then some ([], rest) else (splitOnce sep rest).map fun (a, b) => (c :: a, b)

theorem splitOnce_of_not_mem {sep : Char} {s : List Char} (absent : sep ∉ s) : splitOnce sep s = none := by
  induction s with
  | nil => rfl
  | cons c rest ih =>
    rw [mem_cons, not_or] at absent
    rw [splitOnce, if_neg (Ne.symm absent.1), ih absent.2]
    rfl

theorem splitOnce_append {sep : Char} {s : List Char} (absent : sep ∉ s) (rest : List Char) :
    splitOnce sep (s ++ sep :: rest) = some (s, rest) := by
  induction s with
  | nil => exact if_pos rfl
  | cons c s ih =>
    rw [mem_cons, not_or] at absent
    rw [cons_append, splitOnce, if_neg (Ne.symm absent.1), ih absent.2]
    rfl

/-- `char::is_whitespace` (the Unicode `White_Space` property). -/
def isWhitespace (c : Char) : Bool :=
  let n := c.toNat
  (9 ≤ n && n ≤ 13) || n == 0x20 || n == 0x85 || n == 0xA0 || n == 0x1680 ||
    (0x2000 ≤ n && n ≤ 0x200A) || n == 0x2028 || n == 0x2029 || n == 0x202F || n == 0x205F ||
    n == 0x3000

/-- `char::is_control` (the Unicode category `Cc`). -/
def isControl (c : Char) : Bool :=
  let n := c.toNat
  n ≤ 0x1F || (0x7F ≤ n && n ≤ 0x9F)

def trim (s : List Char) : List Char := ((s.dropWhile isWhitespace).reverse.dropWhile isWhitespace).reverse

def splitWhitespace (s : List Char) : List (List Char) := (s.splitOnP isWhitespace).filter (· ≠ [])

/-- `str::lines`: the lines of a text, without their ends. -/
def lines (text : String) : List (List Char) :=
  let parts := text.toList.splitOn '\n'
  let ended := parts.dropLast.map fun line => if line.getLast? = some '\r' then line.dropLast else line
  let last := parts.getLast?.getD []
  if last = [] then ended else ended ++ [last]

theorem splitWhitespace_word {word : List Char} (full : word ≠ []) (plain : ∀ c ∈ word, isWhitespace c = false)
    {space : Char} (blank : isWhitespace space = true) (rest : List Char) :
    splitWhitespace (word ++ space :: rest) = word :: splitWhitespace rest := by
  rw [splitWhitespace, splitWhitespace, splitOnP_append_cons_of_forall_mem plain space blank,
    filter_cons_of_pos (by simp [full])]

theorem splitWhitespace_blanks (k : Nat) (rest : List Char) :
    splitWhitespace (List.replicate k ' ' ++ rest) = splitWhitespace rest := by
  induction k with
  | zero => rfl
  | succ k ih =>
    have first : ([] ++ ' ' :: (List.replicate k ' ' ++ rest)).splitOnP isWhitespace =
        [] :: (List.replicate k ' ' ++ rest).splitOnP isWhitespace :=
      splitOnP_append_cons_of_forall_mem (by simp) ' ' (by decide) _
    rw [nil_append] at first
    exact ih

variable {rows : List (List Char)}

theorem splitOn_rows (whole : ∀ row ∈ rows, '\n' ∉ row) : (rows.flatMap (· ++ ['\n'])).splitOn '\n' = rows ++ [[]] := by
  induction rows with
  | nil => rfl
  | cons row rows ih =>
    rw [flatMap_cons, append_assoc, singleton_append, splitOn_append_cons_self,
      splitOn_eq_singleton (whole row mem_cons_self), cons_append]
    exact congrArg (row :: ·) (ih fun other mem => whole other (mem_cons_of_mem _ mem))

theorem lines_rows (whole : ∀ row ∈ rows, '\n' ∉ row) (ended : ∀ row ∈ rows, row.getLast? ≠ some '\r') :
    lines (String.ofList (rows.flatMap (· ++ ['\n']))) = rows := by
  have kept : (rows.map fun row => if row.getLast? = some '\r' then row.dropLast else row) = rows :=
    (map_congr_left fun row mem => if_neg (ended row mem)).trans (map_id _)
  rw [lines, String.toList_ofList, splitOn_rows whole, dropLast_concat, getLast?_concat, Option.getD_some, if_pos rfl]
  exact kept

def isAsciiDigit (c : Char) : Bool := '0' ≤ c && c ≤ '9'

def isAsciiAlphanumeric (c : Char) : Bool := isAsciiDigit c || ('a' ≤ c && c ≤ 'z') || ('A' ≤ c && c ≤ 'Z')

def isAsciiHexdigit (c : Char) : Bool := isAsciiDigit c || ('a' ≤ c && c ≤ 'f') || ('A' ≤ c && c ≤ 'F')

def toAsciiLowercase (c : Char) : Char := if 'A' ≤ c ∧ c ≤ 'Z' then Char.ofNat (c.toNat + 32) else c

/-- `str::eq_ignore_ascii_case`. -/
def eqIgnoreAsciiCase (a b : String) : Bool := a.toList.map toAsciiLowercase == b.toList.map toAsciiLowercase

def startsWith (s start : String) : Bool := start.toList.isPrefixOf s.toList

def stripStart (start s : String) : Option String :=
  if startsWith s start then some (String.ofList (s.toList.drop start.length)) else none

theorem stripStart_append (start rest : String) : stripStart start (start ++ rest) = some rest := by
  have begins : startsWith (start ++ rest) start = true := by
    rw [startsWith, isPrefixOf_iff_prefix, String.toList_append]
    exact prefix_append _ _
  rw [stripStart, if_pos begins, String.toList_append, ← String.length_toList, drop_left, String.ofList_toList]

def hex (n : Nat) : String := String.ofList (Nat.toDigits 16 n)

end NastyEngine.Rust
