import SiteScript.Binary64
import SiteScript.Json.Printer
import SiteScript.Machine
import SiteScript.Word

/-!
# SiteScript.Rehearsal.Database

A database in memory, without tables.  Of its language it knows only what needs none: `SELECT` of
literal values.

A decimal numeral is not rounded once when it is read.  As many leading digits as a word of 64 bits holds
are kept (`Kept`), their decimal point is moved by products with powers of ten that are each rounded to 64
significant bits (`Wide`), and the outcome is rounded to a double.  The double nearest to a long numeral
may be another one.
-/

namespace SiteScript.Rehearsal.Database

/-! ## Numbers of 64 significant bits -/

/-- The number `significand · 2 ^ exponent`, whose significand has at most 64 bits. -/
structure Wide where
  significand : Nat
  exponent : Int
deriving DecidableEq

namespace Wide

/-- How many bits a significand has. -/
def width : Nat := 64

/-- The number nearest to `numerator / denominator · 2 ^ exponent`, a tie to the even significand. -/
def ofRatio (numerator denominator : Nat) (exponent : Int) : Wide :=
  let shift : Int := (numerator.log2 : Int) - denominator.log2 - width
  let (n, d) := Binary64.scaleDown numerator denominator shift
  let shift := if n / d < Word.values width then shift else shift + 1
  let (n, d) := Binary64.scaleDown numerator denominator shift
  ⟨Binary64.divNearest n d, exponent + shift⟩

/-- The product, rounded. -/
def mul (x y : Wide) : Wide :=
  ofRatio (x.significand * y.significand) 1 (x.exponent + y.exponent)

/-- A power of ten, rounded. -/
def tenTo (exponent : Int) : Wide :=
  match exponent with
  | .ofNat k => ofRatio (Decimal.power k) 1 0
  | .negSucc k => ofRatio 1 (Decimal.power (k + 1)) 0

/-- Multiply so many times by a factor. -/
def mulTimes (factor : Wide) : Nat → Wide → Wide
  | 0, x => x
  | count + 1, x => mulTimes factor count (x.mul factor)

/-- Move the decimal point: by hundreds of places first, then by tens, then by single places. -/
def movePoint (places : Int) (x : Wide) : Wide :=
  let unit : Int := if places < 0 then -1 else 1
  let count := places.natAbs
  mulTimes (tenTo unit) (count % 10)
    (mulTimes (tenTo (10 * unit)) (count % 100 / 10)
      (mulTimes (tenTo (100 * unit)) (count / 100) x))

/-- The nearest double; none when it is too large. -/
def toBinary64? (x : Wide) : Option Binary64 :=
  match x.exponent with
  | .ofNat k => Binary64.ofRatio false (x.significand * Binary64.power k) 1
  | .negSucc k => Binary64.ofRatio false x.significand (Binary64.power (k + 1))

end Wide

/-! ## The digits that count -/

/-- A number `digits · 10 ^ exponent`, whose digits fit in a word. -/
structure Kept where
  digits : Nat
  exponent : Int
deriving DecidableEq

namespace Kept

/-- The largest word. -/
def maxWord : Nat := Word.maxUnsigned 64

/-- Put one more digit behind, or tell that there is no room for it. -/
def push? (kept : Nat) (c : Char) : Option Nat :=
  if kept < (maxWord - 9) / 10 then some (10 * kept + (c.toNat - '0'.toNat)) else none

/-- The digits before the point: those without room move the point to the right. -/
def whole (kept : Kept) (c : Char) : Kept :=
  match push? kept.digits c with
  | some digits => { kept with digits }
  | none => { kept with exponent := kept.exponent + 1 }

/-- The digits after the point: those without room are dropped. -/
def fraction (kept : Kept) (c : Char) : Kept :=
  match push? kept.digits c with
  | some digits => ⟨digits, kept.exponent - 1⟩
  | none => kept

/-- Bring the exponent nearer to zero from above, as long as there is room for another digit. -/
def raise : Nat → Kept → Kept
  | 0, kept => kept
  | fuel + 1, kept =>
    if kept.exponent > 0 && kept.digits < maxWord / 10 then
      raise fuel ⟨10 * kept.digits, kept.exponent - 1⟩
    else kept

/-- Bring the exponent nearer to zero from below, as long as the last digit is zero. -/
def lower : Nat → Kept → Kept
  | 0, kept => kept
  | fuel + 1, kept =>
    if kept.exponent < 0 && kept.digits % 10 == 0 then
      lower fuel ⟨kept.digits / 10, kept.exponent + 1⟩
    else kept

/-- More digits than a word has. -/
def maxDigits : Nat := 20

/-- The number that is kept of a numeral: the digits before and after its point, and its exponent. -/
def ofParts (before after : List Char) (exponent : Int) : Kept :=
  let kept := after.foldl fraction (before.foldl whole ⟨0, 0⟩)
  if kept.digits = 0 then ⟨0, 0⟩
  else lower maxDigits (raise maxDigits { kept with exponent := kept.exponent + exponent })

/-- The double that is taken for the number; none when it is too large. -/
def toBinary64? (kept : Kept) : Option Binary64 :=
  if kept.exponent = 0 then Binary64.ofRatio false kept.digits 1
  else ((Wide.ofRatio kept.digits 1 0).movePoint kept.exponent).toBinary64?

end Kept

/-! ## Literal values -/

/-- A token of a query. -/
inductive Token where
  | word (text : String)
  | number (text : List Char)
  | text (value : String)
  | mark (c : Char)
deriving DecidableEq

/-- Read a text literal up to its closing quote; a doubled quote stands for one. -/
def readText : List Char → Option (List Char × List Char)
  | [] => none
  | '\x27' :: '\x27' :: rest => (readText rest).map fun (text, rest) => ('\x27' :: text, rest)
  | '\x27' :: rest => some ([], rest)
  | c :: rest => (readText rest).map fun (text, rest) => (c :: text, rest)

/-- The characters of a word. -/
def isWordChar (c : Char) : Bool := c.isAlphanum || c == '_' || c.toNat ≥ 0x80

/-- The characters of a numeral. -/
def isNumberChar (c : Char) : Bool := c.isDigit || c == '.'

/-- How many characters the exponent of a numeral takes, at the beginning of a text. -/
def exponentLength (text : List Char) : Nat :=
  let (mark, rest) := match text with
    | 'e' :: '-' :: rest => (2, rest)
    | 'e' :: '+' :: rest => (2, rest)
    | 'E' :: '-' :: rest => (2, rest)
    | 'E' :: '+' :: rest => (2, rest)
    | 'e' :: rest => (1, rest)
    | 'E' :: rest => (1, rest)
    | _ => (0, [])
  match (rest.takeWhile Char.isDigit).length with
  | 0 => 0
  | digits => mark + digits

/-- How many characters a numeral takes, at the beginning of a text. -/
def numeralLength (text : List Char) : Nat :=
  let length := (text.takeWhile isNumberChar).length
  length + exponentLength (text.drop length)

/-- The tokens of a query. -/
def tokens? : Nat → List Char → Option (List Token)
  | _, [] => some []
  | 0, _ => none
  | fuel + 1, c :: rest =>
    if Text.isBlank c then tokens? fuel rest
    else if c == '\x27' then do
      let (text, rest) ← readText rest
      return .text (String.ofList text) :: (← tokens? fuel rest)
    else if isNumberChar c then do
      let length := numeralLength (c :: rest)
      return .number ((c :: rest).take length) :: (← tokens? fuel ((c :: rest).drop length))
    else if isWordChar c then do
      let text := (c :: rest).takeWhile isWordChar
      return .word (String.ofList text) :: (← tokens? fuel ((c :: rest).dropWhile isWordChar))
    else do return .mark c :: (← tokens? fuel rest)

/-- Whether a word is a keyword, in either case. -/
def isKeyword (word keyword : String) : Bool :=
  String.ofList (word.toList.map Char.toUpper) == keyword

/-- Exponents beyond this one make no difference. -/
def maxExponent : Int := 10000

/-- The value of a numeral: an integer of 64 bits if it is one, a double otherwise, and nothing when it
is too large for a double. -/
def number? (negative : Bool) (text : List Char) : Option Json :=
  let double : Option Json := (Extended.numeral? text).map fun numeral =>
    let exponent := max (-maxExponent) (min numeral.exponent maxExponent)
    match (Kept.ofParts numeral.whole numeral.fraction exponent).toBinary64? with
    | some x => .number (.real { x with negative })
    | none => .null
  match Decimal.ofDigits? text with
  | some n =>
    let value : Int := if negative then -(n : Int) else n
    if Word.fitsSigned 64 value then some (.int value) else double
  | none => double

/-- Read a literal value.  No value is read as the number zero. -/
def literal? : List Token → Option (Json × List Token)
  | .number text :: rest => (number? false text).map fun value => (value, rest)
  | .mark '-' :: .number text :: rest => (number? true text).map fun value => (value, rest)
  | .text value :: rest => some (.string value, rest)
  | .word word :: rest => if isKeyword word "NULL" then some (.int 0, rest) else none
  | _ => none

/-- Read `literal AS name` and what follows after commas. -/
def columns? : Nat → List Token → Option (List (String × Json))
  | 0, _ => none
  | fuel + 1, tokens =>
    match literal? tokens with
    | some (value, .word as :: .word name :: rest) =>
      if !isKeyword as "AS" then none
      else
        match rest with
        | [] => some [(name, value)]
        | [.mark ';'] => some [(name, value)]
        | .mark ',' :: rest => (columns? fuel rest).map ((name, value) :: ·)
        | _ => none
    | _ => none

/-- What a failure of the database is reported as. -/
def failure (message : String) : String :=
  "error returned from database: (code: 1) " ++ message

/-- Ask the database in memory, which has no tables. -/
def askMemory (sql : String) : Except String (List Json) :=
  match tokens? (sql.length + 1) sql.toList with
  | some (.word select :: rest) =>
    if !isKeyword select "SELECT" then .error (failure "syntax error")
    else
      match rest with
      | .mark '*' :: .word _ :: .word table :: _ => .error (failure ("no such table: " ++ table))
      | rest =>
        match columns? (rest.length + 1) rest with
        | some columns => .ok [Json.ofMembers columns]
        | none => .error (failure "syntax error")
  | some [] => .ok []
  | _ => .error (failure "syntax error")

/-- The connection to a database without tables. -/
def memory : Connection := ⟨fun _ => askMemory⟩

/-- A connection that is given as a script: queries with their answers. -/
def scripted (answers : List (String × Except String (List Json))) : Connection where
  query _ sql :=
    match answers.lookup sql with
    | some answer => answer
    | none => .error ("unexpected sql: " ++ sql)

/-- Open a connection.  Only databases in memory can be reached. -/
def connect (kind : SiteScript.Database.Kind) (config : SiteScript.Database.Config) :
    Except String Connection :=
  match kind with
  | .postgres | .mysql => .error "error communicating with database: Connection refused (os error 111)"
  | .sqlite =>
    if config.url == "sqlite::memory:" || config.url == "sqlite://:memory:" then .ok memory
    else .error "error returned from database: (code: 14) unable to open database file"

end SiteScript.Rehearsal.Database
