import Mathlib.Data.Rat.Defs
import Mathlib.Data.List.Dedup

/-!
What the matching service takes from the process it runs in: the number
arithmetic and the Unicode case mapping of the JavaScript engine, and the one
environment variable the pairing rules read. Numbers are left abstract. The
engine's doubles are one instance, exact rationals another, and the only law
the proofs use is that addition commutes, which both have.

JSON values and the string functions of the language are below.
-/

namespace Greetup.Matching

/-- `GUEST_MATCH_POOL`: whether guests and registered users may be paired. -/
inductive GuestMatchPoolPolicy
  | guestAndRegistered
  | guestOnly
  deriving DecidableEq, Repr

/-- The JavaScript engine and the environment of the service. -/
class Host where
  /-- The engine's numbers. -/
  Number : Type
  /-- The number a decimal numeral denotes, rounded as the engine rounds it. -/
  ofRat : ℚ → Number
  isFinite : Number → Bool
  add : Number → Number → Number
  sub : Number → Number → Number
  mul : Number → Number → Number
  div : Number → Number → Number
  le : Number → Number → Bool
  lt : Number → Number → Bool
  /-- `Math.round`. -/
  round : Number → ℤ
  toLowerCase : String → String
  /-- `env.guestMatchPool`. -/
  guestMatchPool : GuestMatchPoolPolicy
  add_comm : ∀ x y, add x y = add y x

namespace Host

variable [Host]

instance : Add Number := ⟨add⟩
instance : Sub Number := ⟨sub⟩
instance : Mul Number := ⟨mul⟩
instance : Div Number := ⟨div⟩

/-- A whole number as a number of the engine. -/
def ofNat (n : ℕ) : Number := ofRat n

/-- `Math.min`. -/
def min (x y : Number) : Number := if le x y then x else y

/-- `Math.max`. -/
def max (x y : Number) : Number := if le x y then y else x

/-- Exact arithmetic and ASCII case mapping, for evaluating the model. -/
@[reducible] def exact (policy : GuestMatchPoolPolicy) : Host where
  Number := ℚ
  ofRat q := q
  isFinite _ := true
  add x y := x + y
  sub x y := x - y
  mul x y := x * y
  div x y := x / y
  le x y := decide (x ≤ y)
  lt x y := decide (x < y)
  round x := (x + 1 / 2).floor
  toLowerCase s := s.map Char.toLower
  guestMatchPool := policy
  add_comm := Rat.add_comm

end Host

/-! ### Text -/

/-- A nonempty string: the strings a truthiness test lets through. User and
request ids are such strings, the controllers reject blank ones. -/
abbrev Text := { s : String // s ≠ "" }

instance Text.lawfulBEq : LawfulBEq Text := Subtype.instLawfulBEq

def Text.of? (s : String) : Option Text := if h : s ≠ "" then some ⟨s, h⟩ else none

/-- The white space and line terminators that `String.prototype.trim` removes. -/
def isWhiteSpace (c : Char) : Bool :=
  c.toNat ∈ [0x9, 0xA, 0xB, 0xC, 0xD, 0x20, 0xA0, 0x1680, 0x2028, 0x2029, 0x202F, 0x205F, 0x3000,
    0xFEFF] || (0x2000 ≤ c.toNat && c.toNat ≤ 0x200A)

def trimChars (cs : List Char) : List Char :=
  ((cs.dropWhile isWhiteSpace).reverse.dropWhile isWhiteSpace).reverse

/-- `String.prototype.trim`. -/
def trim (s : String) : String := String.ofList (trimChars s.toList)

/-- `value.trim().toLowerCase()`. -/
def normalize [Host] (s : String) : String := Host.toLowerCase (trim s)

/-! ### Numerals -/

def digitValue (c : Char) : ℕ :=
  if c.isDigit then c.toNat - '0'.toNat
  else if 'a' ≤ c ∧ c ≤ 'f' then c.toNat - 'a'.toNat + 10
  else if 'A' ≤ c ∧ c ≤ 'F' then c.toNat - 'A'.toNat + 10
  else 16

/-- A nonempty run of digits of the given radix. -/
def parseDigits (radix : ℕ) (cs : List Char) : Option ℕ :=
  if cs ≠ [] ∧ cs.all (digitValue · < radix) then
    some (cs.foldl (fun n c => n * radix + digitValue c) 0)
  else none

/-- A possibly empty run of decimal digits. -/
def parseDigits? (cs : List Char) : Option ℕ :=
  if cs = [] then some 0 else parseDigits 10 cs

def parseExponent : List Char → Option ℤ
  | '-' :: cs => (parseDigits 10 cs).map fun n => -(n : ℤ)
  | '+' :: cs => (parseDigits 10 cs).map fun n => (n : ℤ)
  | cs => (parseDigits 10 cs).map fun n => (n : ℤ)

/-- Digits with an optional fraction, at least one digit in all. -/
def parseMantissa (cs : List Char) : Option ℚ :=
  let whole := cs.takeWhile (· ≠ '.')
  match cs.dropWhile (· ≠ '.') with
  | [] => (parseDigits 10 whole).map fun n => (n : ℚ)
  | _ :: fraction =>
    if whole = [] ∧ fraction = [] then none
    else do
      let m ← parseDigits? whole
      let n ← parseDigits? fraction
      return m + n / 10 ^ fraction.length

def parseDecimal (cs : List Char) : Option ℚ :=
  let isExponent (c : Char) : Bool := c = 'e' || c = 'E'
  match cs.dropWhile (!isExponent ·) with
  | [] => parseMantissa cs
  | _ :: exponent => do
    let m ← parseMantissa (cs.takeWhile (!isExponent ·))
    let e ← parseExponent exponent
    return m * 10 ^ e

/-- `Number(value)` on a string; `none` for what is not a finite number. -/
def parseNumber (s : String) : Option ℚ :=
  match trimChars s.toList with
  | [] => some 0
  | '0' :: 'x' :: cs | '0' :: 'X' :: cs => (parseDigits 16 cs).map fun n => (n : ℚ)
  | '0' :: 'o' :: cs | '0' :: 'O' :: cs => (parseDigits 8 cs).map fun n => (n : ℚ)
  | '0' :: 'b' :: cs | '0' :: 'B' :: cs => (parseDigits 2 cs).map fun n => (n : ℚ)
  | '-' :: cs => (parseDecimal cs).map (- ·)
  | '+' :: cs => parseDecimal cs
  | cs => parseDecimal cs

/-! ### JSON -/

/-- A parsed JSON value. Numbers are the decimals of the text. -/
inductive Json
  | null
  | bool (b : Bool)
  | num (q : ℚ)
  | str (s : String)
  | arr (items : List Json)
  | obj (fields : List (String × Json))

abbrev JsonRecord := List (String × Json)

/-- A field of a record. A repeated key has its last value; a missing one reads
as `null`, which no reader here tells from `undefined`. -/
def JsonRecord.get (r : JsonRecord) (key : String) : Json :=
  (r.reverse.lookup key).getD .null

/-- `isRecord(value) ? value : {}` is what every reader of a nested record does. -/
def Json.record? : Json → Option JsonRecord
  | .obj fields => some fields
  | _ => none

def Json.items : Json → List Json
  | .arr items => items
  | _ => []

/-- `typeof value === "string" && value.trim().length > 0 ? value : null`. -/
def toStringOrNull : Json → Option String
  | .str s => if trim s ≠ "" then some s else none
  | _ => none

/-- `typeof value === "string" && value.trim().length > 0 ? value.trim() : null`. -/
def toTrimmedString (value : Json) : Option String := (toStringOrNull value).map trim

/-- The trimmed nonblank strings of an array. -/
def toStringArray (value : Json) : List String := value.items.filterMap toTrimmedString

/-- A finite number, or a nonblank string that denotes one. -/
def toNumberOrNull [Host] : Json → Option ℚ
  | .num q => if Host.isFinite (Host.ofRat q) then some q else none
  | .str s =>
    if trim s ≠ "" then (parseNumber s).filter fun q => Host.isFinite (Host.ofRat q) else none
  | _ => none

/-- `toNumber` of the validator and of the scorer. -/
def toNumber [Host] (value : Json) : Option Host.Number := (toNumberOrNull value).map Host.ofRat

example : parseNumber " 1.5e1 " = some 15 := by decide +kernel

end Greetup.Matching
