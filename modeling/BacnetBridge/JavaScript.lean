import Mathlib.Data.List.DropRight

/-! What a script finds of its language: numbers, which are doubles, the texts that
they are converted from and to, and values with properties. Nothing here depends on
the script. -/
namespace JavaScript

/-- A number by its exact value. The two zeros are one: nothing here tells them apart. -/
inductive Number
  | nan
  | infinite (negative : Bool)
  | finite (value : Rat)
  deriving DecidableEq, Repr

namespace Number

/-! ## Doubles -/

/-- The nearest integer, and of two the even one. -/
def roundHalfEven (x : Rat) : Int :=
  let rest := x - x.floor
  if rest < 1 / 2 ∨ rest = 1 / 2 ∧ x.floor % 2 = 0 then x.floor else x.floor + 1

/-- The exponent of the greatest power of two that is no more than a positive `x`. -/
def exponent (x : Rat) : Int :=
  let e : Int := x.num.natAbs.log2 - x.den.log2
  if x < 2 ^ e then e - 1 else e

/-- The double nearest to `x`: 53 binary digits, of which none is worth less than
`2 ^ (-1074)`. -/
def toDouble (x : Rat) : Number :=
  if x = 0 then finite 0
  else
    let magnitude := if x < 0 then -x else x
    let unit : Rat := 2 ^ max (exponent magnitude - 52) (-1074)
    let rounded := roundHalfEven (magnitude / unit) * unit
    if 2 ^ (1024 : Int) ≤ rounded then infinite (x < 0)
    else finite (if x < 0 then -rounded else rounded)

/-! ## `Number(text)` -/

/-- White space and line terminators. -/
def isSpace (c : Char) : Bool :=
  c.toNat ∈ [0x09, 0x0A, 0x0B, 0x0C, 0x0D, 0x20, 0xA0, 0x1680, 0x2028, 0x2029, 0x202F, 0x205F,
    0x3000, 0xFEFF] || (0x2000 ≤ c.toNat && c.toNat ≤ 0x200A)

def trim (text : List Char) : List Char := (text.dropWhile isSpace).rdropWhile isSpace

/-- The value of a digit of a radix up to 16. -/
def digitValue (radix : Nat) (c : Char) : Option Nat :=
  let n :=
    if c.isDigit then c.toNat - '0'.toNat
    else if 'a' ≤ c ∧ c ≤ 'f' then c.toNat - 'a'.toNat + 10
    else if 'A' ≤ c ∧ c ≤ 'F' then c.toNat - 'A'.toNat + 10
    else radix
  if n < radix then some n else none

/-- The digits behind `0x`, `0o` or `0b`. -/
def ofRadixDigits (radix : Nat) (digits : List Char) : Number :=
  match digits.mapM (digitValue radix) with
  | none | some [] => nan
  | some values => toDouble (values.foldl (fun n d => n * radix + d) 0 : Nat)

/-- The exponent behind a decimal number, 0 when there is none. -/
def exponentPart : List Char → Option Int
  | [] => some 0
  | mark :: rest =>
    let (negative, digits) := match rest with
      | '-' :: digits => (true, digits)
      | '+' :: digits => (false, digits)
      | digits => (false, digits)
    if (mark = 'e' ∨ mark = 'E') ∧ digits ≠ [] ∧ digits.all Char.isDigit then
      let n : Int := Nat.ofDigitChars 10 digits 0
      some (if negative then -n else n)
    else none

/-- A decimal number without a sign. -/
def ofDecimal (text : List Char) : Number :=
  let whole := text.takeWhile Char.isDigit
  let (fraction, rest) := match text.dropWhile Char.isDigit with
    | '.' :: rest => (rest.takeWhile Char.isDigit, rest.dropWhile Char.isDigit)
    | rest => ([], rest)
  match exponentPart rest with
  | none => nan
  | some e =>
    if whole = [] ∧ fraction = [] then nan
    else toDouble (Nat.ofDigitChars 10 (whole ++ fraction) 0 * 10 ^ (e - fraction.length))

def negate : Number → Number
  | nan => nan
  | infinite negative => infinite !negative
  | finite value => finite (-value)

def ofUnsigned (text : List Char) : Number :=
  if text = "Infinity".toList then infinite false else ofDecimal text

def ofString (text : String) : Number :=
  match trim text.toList with
  | [] => finite 0
  | '0' :: 'x' :: digits | '0' :: 'X' :: digits => ofRadixDigits 16 digits
  | '0' :: 'o' :: digits | '0' :: 'O' :: digits => ofRadixDigits 8 digits
  | '0' :: 'b' :: digits | '0' :: 'B' :: digits => ofRadixDigits 2 digits
  | '-' :: rest => (ofUnsigned rest).negate
  | '+' :: rest => ofUnsigned rest
  | rest => ofUnsigned rest

/-! ## Numbers as texts -/

/-- `n` such that a positive `x` has `n` digits before its point. -/
def wholeDigits (x : Rat) : Int :=
  let n : Int := (Nat.toDigits 10 x.num.natAbs).length - (Nat.toDigits 10 x.den).length
  if x < 10 ^ n then n else n + 1

/-- A number of `count` digits, or the power of ten above them, that rounds to `x` when
its last digit is worth `unit`: the nearer one if both do. -/
def candidate (x unit : Rat) : Option Nat :=
  let near := (roundHalfEven (x / unit)).toNat
  let below := (x / unit).floor.toNat
  [near, if near = below then below + 1 else below].find? fun s => toDouble (s * unit) = finite x

/-- The fewest digits that round to a positive double `x`, and where its point stands. -/
def shortest (x : Rat) : List Char × Int :=
  let n := wholeDigits x
  let found := (List.range' 1 17).findSome? fun count =>
    (candidate x (10 ^ (n - count))).map fun s => (Nat.toDigits 10 s, n - count)
  let (digits, e) := found.getD ([], 0)
  (digits.rdropWhile (· = '0'), e + digits.length)

def positiveText (x : Rat) : String :=
  let (digits, n) := shortest x
  let zeros (count : Int) := List.replicate count.toNat '0'
  if digits.length ≤ n ∧ n ≤ 21 then String.ofList (digits ++ zeros (n - digits.length))
  else if 0 < n ∧ n ≤ 21 then
    String.ofList (digits.take n.toNat ++ '.' :: digits.drop n.toNat)
  else if -6 < n ∧ n ≤ 0 then String.ofList ('0' :: '.' :: zeros (-n) ++ digits)
  else
    let fraction := digits.drop 1
    String.ofList (digits.take 1 ++ if fraction = [] then [] else '.' :: fraction) ++
      (if n ≤ 0 then "e-" else "e+") ++ toString (n - 1).natAbs

def toText : Number → String
  | nan => "NaN"
  | infinite negative => if negative then "-Infinity" else "Infinity"
  | finite value =>
    if value = 0 then "0"
    else if value < 0 then "-" ++ positiveText (-value)
    else positiveText value

end Number

/-! ## Values -/

inductive Value
  | undefined
  | null
  | boolean (value : Bool)
  | number (value : Number)
  | string (value : String)
  | array (items : List Value)
  | object (properties : List (String × Value))
  deriving Repr

inductive Error
  | typeError
  deriving DecidableEq, Repr

/-- What a key of an object literal leads to. What is inherited is no number, and no text
of one. -/
inductive Property (α : Type)
  | own (value : α)
  | inherited
  | missing

def inheritedNames : List String :=
  ["constructor", "hasOwnProperty", "isPrototypeOf", "propertyIsEnumerable", "toLocaleString",
    "toString", "valueOf", "__proto__", "__defineGetter__", "__defineSetter__",
    "__lookupGetter__", "__lookupSetter__"]

def Property.of {α : Type} (literal : List (String × α)) (key : String) : Property α :=
  match literal.lookup key with
  | some value => .own value
  | none => if key ∈ inheritedNames then .inherited else .missing

namespace Value

def truthy : Value → Bool
  | undefined | null => false
  | boolean value => value
  | number value => value ≠ .nan ∧ value ≠ .finite 0
  | string value => value ≠ ""
  | array _ | object _ => true

def isString : Value → Bool
  | string _ => true
  | undefined | null | boolean _ | number _ | array _ | object _ => false

/-- `v === text`. -/
def isText (v : Value) (text : String) : Bool :=
  match v with
  | string value => value = text
  | undefined | null | boolean _ | number _ | array _ | object _ => false

/-- What `??` replaces. -/
def isNullish : Value → Bool
  | undefined | null => true
  | boolean _ | number _ | string _ | array _ | object _ => false

/-- `o[key]` of a property that only objects can have. -/
def get (o : Value) (key : String) : Except Error Value :=
  match o with
  | undefined | null => .error .typeError
  | object properties => .ok ((properties.lookup key).getD undefined)
  | boolean _ | number _ | string _ | array _ => .ok undefined

/-- The properties with one set: in its place, or as the last one. -/
def putProperty (key : String) (value : Value) : List (String × Value) → List (String × Value)
  | [] => [(key, value)]
  | (k, v) :: rest =>
    if k = key then (key, value) :: rest else (k, v) :: putProperty key value rest

/-- `o[key] = value`, which is lost on what is no object. -/
def put (o : Value) (key : String) (value : Value) : Except Error Value :=
  match o with
  | undefined | null => .error .typeError
  | object properties => .ok (object (putProperty key value properties))
  | boolean _ | number _ | string _ | array _ => .ok o

mutual

/-- A value in a template. -/
def toText : Value → String
  | undefined => "undefined"
  | null => "null"
  | boolean value => toString value
  | number value => value.toText
  | string value => value
  | array items => String.intercalate "," (itemTexts items)
  | object _ => "[object Object]"

def itemTexts : List Value → List String
  | [] => []
  | undefined :: rest | null :: rest => "" :: itemTexts rest
  | item :: rest => toText item :: itemTexts rest

end

end Value

end JavaScript
