/-!
# Words of TOML

Scanners for the smallest parts of a document. A scanner takes the text that is left and gives what
it read with the text after it, or nothing if the text does not start with such a part.

* `basicText`, `literalText` and their multi-line kin: what stands between quotes.
* `integer`, `real`, `moment`: numbers, dates and times.
-/

namespace ModuleHost.Toml

/-- The text that is left to read. -/
abbrev Rest := List Char

def isSpace (c : Char) : Bool :=
  c == ' ' || c == '\t'

/-- A character that may stand in a line: a tab, printable ASCII, or anything beyond ASCII. -/
def isPlain (c : Char) : Bool :=
  c == '\t' || (0x20 ≤ c.toNat && c.toNat ≤ 0x7E) || 0x80 ≤ c.toNat

def isHexDigit (c : Char) : Bool :=
  c.isDigit || ('a' ≤ c && c ≤ 'f') || ('A' ≤ c && c ≤ 'F')

def isOctalDigit (c : Char) : Bool :=
  '0' ≤ c && c ≤ '7'

def isBinaryDigit (c : Char) : Bool :=
  c == '0' || c == '1'

/-- The value of a digit in any base up to sixteen. -/
def digitValue (c : Char) : Nat :=
  if c.isDigit then c.toNat - '0'.toNat
  else if 'a' ≤ c && c ≤ 'f' then c.toNat - 'a'.toNat + 10
  else c.toNat - 'A'.toNat + 10

/-- The number that a run of digits stands for. -/
def numberIn (base : Nat) (digits : List Char) : Nat :=
  digits.foldl (fun n c => n * base + digitValue c) 0

def skipSpaces (cs : Rest) : Rest :=
  cs.dropWhile isSpace

/-- A line feed, with or without a carriage return before it. -/
def lineFeed? : Rest → Option Rest
  | '\n' :: r => some r
  | '\r' :: '\n' :: r => some r
  | _ => none

/-- The end of a line, which may be the end of the document. -/
def lineEnd? (cs : Rest) : Option Rest :=
  if cs.isEmpty then some [] else lineFeed? cs

/-- **What may follow on a line**: spaces, a comment, the end of the line. -/
def restOfLine? (cs : Rest) : Option Rest :=
  match skipSpaces cs with
  | '#' :: r => lineEnd? (r.dropWhile isPlain)
  | r => lineEnd? r

/-- Spaces, comments and line ends between the items of a list. -/
def skipBlankLines : Nat → Rest → Rest
  | 0, cs => cs
  | fuel + 1, cs =>
    match skipSpaces cs with
    | '#' :: r =>
      match lineFeed? (r.dropWhile isPlain) with
      | some r => skipBlankLines fuel r
      | none => '#' :: r
    | r =>
      match lineFeed? r with
      | some r => skipBlankLines fuel r
      | none => r

/-! ### Text -/

/-- The character with the given hexadecimal code, if it is a Unicode scalar value. -/
def scalar? (digits : List Char) : Option Char :=
  let n := numberIn 16 digits
  if digits.all isHexDigit && (n < 0xD800 || (0xE000 ≤ n && n < 0x110000)) then
    some (Char.ofNat n)
  else none

/-- The character that a one-letter escape stands for. -/
def escape? : Char → Option Char
  | 'b' => some '\x08'
  | 't' => some '\t'
  | 'n' => some '\n'
  | 'f' => some '\x0c'
  | 'r' => some '\r'
  | '"' => some '"'
  | '\\' => some '\\'
  | _ => none

/-- Put a character in front of what was read. -/
def consText (c : Char) (read : List Char × Rest) : List Char × Rest :=
  (c :: read.1, read.2)

/-- The rest of a text on one line, after its opening double quote. -/
def basicText : Rest → Option (List Char × Rest)
  | '"' :: r => some ([], r)
  | '\\' :: 'u' :: a :: b :: c :: d :: r => do
    let x ← scalar? [a, b, c, d]
    return consText x (← basicText r)
  | '\\' :: 'U' :: a :: b :: c :: d :: e :: f :: g :: h :: r => do
    let x ← scalar? [a, b, c, d, e, f, g, h]
    return consText x (← basicText r)
  | '\\' :: e :: r => do
    let x ← escape? e
    return consText x (← basicText r)
  | c :: r => if isPlain c && c != '\\' then (basicText r).map (consText c) else none
  | [] => none

/-- The rest of a literal text on one line, after its opening apostrophe. -/
def literalText : Rest → Option (List Char × Rest)
  | '\'' :: r => some ([], r)
  | c :: r => if isPlain c then (literalText r).map (consText c) else none
  | [] => none

/-- Where a multi-line text stands: inside a line, after a backslash that ends a line, or in the
blank stretch that such a backslash swallows. -/
inductive Fold where
  | inside
  | folding
  | swallowing
  deriving DecidableEq

/-- The rest of a multi-line text. A closing mark of three quotes may have one or two more before
it, which belong to the text. -/
def multilineText (fold : Fold) : Rest → Option (List Char × Rest)
  | '"' :: '"' :: '"' :: '"' :: '"' :: r =>
    if fold = .folding then none else some (['"', '"'], r)
  | '"' :: '"' :: '"' :: '"' :: r => if fold = .folding then none else some (['"'], r)
  | '"' :: '"' :: '"' :: r => if fold = .folding then none else some ([], r)
  | '\r' :: '\n' :: r =>
    if fold = .inside then (multilineText .inside r).map (consText '\n')
    else multilineText .swallowing r
  | '\n' :: r =>
    if fold = .inside then (multilineText .inside r).map (consText '\n')
    else multilineText .swallowing r
  | '\\' :: 'u' :: a :: b :: c :: d :: r =>
    if fold = .folding then none
    else do
      let x ← scalar? [a, b, c, d]
      return consText x (← multilineText .inside r)
  | '\\' :: 'U' :: a :: b :: c :: d :: e :: f :: g :: h :: r =>
    if fold = .folding then none
    else do
      let x ← scalar? [a, b, c, d, e, f, g, h]
      return consText x (← multilineText .inside r)
  | '\\' :: e :: r =>
    if fold = .folding then none
    else if isSpace e then multilineText .folding r
    else if e = '\n' then multilineText .swallowing r
    else if e = '\r' then
      match r with
      | '\n' :: r => multilineText .swallowing r
      | _ => none
    else do
      let x ← escape? e
      return consText x (← multilineText .inside r)
  | c :: r =>
    if fold ≠ .inside ∧ isSpace c then multilineText fold r
    else if fold = .folding then none
    else if isPlain c && c != '\\' then (multilineText .inside r).map (consText c)
    else none
  | [] => none

/-- The rest of a multi-line literal text. -/
def multilineLiteral : Rest → Option (List Char × Rest)
  | '\'' :: '\'' :: '\'' :: '\'' :: '\'' :: r => some (['\'', '\''], r)
  | '\'' :: '\'' :: '\'' :: '\'' :: r => some (['\''], r)
  | '\'' :: '\'' :: '\'' :: r => some ([], r)
  | '\r' :: '\n' :: r => (multilineLiteral r).map (consText '\n')
  | '\n' :: r => (multilineLiteral r).map (consText '\n')
  | c :: r => if isPlain c then (multilineLiteral r).map (consText c) else none
  | [] => none

/-- A line feed right after the opening mark of a multi-line text does not count. -/
def dropLineFeed (cs : Rest) : Rest :=
  (lineFeed? cs).getD cs

/-- **A text value** in any of the four ways to quote it. -/
def text? : Rest → Option (String × Rest)
  | '"' :: '"' :: '"' :: r => named (multilineText .inside (dropLineFeed r))
  | '"' :: r => named (basicText r)
  | '\'' :: '\'' :: '\'' :: r => named (multilineLiteral (dropLineFeed r))
  | '\'' :: r => named (literalText r)
  | _ => none
where
  named (read : Option (List Char × Rest)) : Option (String × Rest) :=
    read.map (fun x => (String.ofList x.1, x.2))

/-! ### Keys -/

def isBareKeyChar (c : Char) : Bool :=
  c.isAlphanum || c == '_' || c == '-'

/-- One part of a key: bare, or quoted on one line. -/
def keyPart? : Rest → Option (String × Rest)
  | '"' :: r => (basicText r).map (fun x => (String.ofList x.1, x.2))
  | '\'' :: r => (literalText r).map (fun x => (String.ofList x.1, x.2))
  | cs =>
    let bare := cs.takeWhile isBareKeyChar
    if bare.isEmpty then none else some (String.ofList bare, cs.dropWhile isBareKeyChar)

/-- A document may not nest deeper than this, nor a key have so many parts. -/
def depthLimit : Nat :=
  80

/-- The parts of a dotted key, spaces around each one. -/
def keyParts? : Nat → Rest → Option (List String × Rest)
  | 0, _ => none
  | fuel + 1, cs => do
    let (part, r) ← keyPart? (skipSpaces cs)
    match skipSpaces r with
    | '.' :: r =>
      let (parts, r) ← keyParts? fuel r
      return (part :: parts, r)
    | r => return ([part], r)

/-- **A key**: its parts up to the last one, and the last one. -/
def key? (cs : Rest) : Option (List String × String × Rest) := do
  let (parts, r) ← keyParts? (depthLimit - 1) cs
  let last ← parts.getLast?
  return (parts.dropLast, last, r)

/-! ### Numbers -/

/-- The rest of a run of digits, where an underscore must stand between two digits. Gives the digits
without the underscores. -/
def moreDigits (isDigit : Char → Bool) : Rest → Option (List Char × Rest)
  | '_' :: c :: r => if isDigit c then (moreDigits isDigit r).map (consText c) else none
  | ['_'] => none
  | c :: r => if isDigit c then (moreDigits isDigit r).map (consText c) else some ([], c :: r)
  | [] => some ([], [])

/-- A run of digits. -/
def digits? (isDigit : Char → Bool) : Rest → Option (List Char × Rest)
  | c :: r => if isDigit c then (moreDigits isDigit r).map (consText c) else none
  | [] => none

/-- A sign, if there is one: whether the number is negative, and the rest. -/
def sign : Rest → Bool × Rest
  | '-' :: r => (true, r)
  | '+' :: r => (false, r)
  | r => (false, r)

/-- The digits of a decimal integer: a lone zero, or no leading zero. -/
def decimalDigits? : Rest → Option (List Char × Rest)
  | '0' :: r => some (['0'], r)
  | cs => digits? Char.isDigit cs

/-- Signed words of 64 bits lie below this number and not below its negative. -/
def wordBound : Int :=
  9223372036854775808

/-- An integer in the range of signed 64-bit words. -/
def word? (n : Int) : Option Int :=
  if -wordBound ≤ n ∧ n < wordBound then some n else none

/-- **An integer**, decimal with an optional sign, or with the mark of another base. -/
def integer? : Rest → Option (Int × Rest)
  | '0' :: 'x' :: r => based 16 (digits? isHexDigit r)
  | '0' :: 'o' :: r => based 8 (digits? isOctalDigit r)
  | '0' :: 'b' :: r => based 2 (digits? isBinaryDigit r)
  | cs => do
    let (negative, r) := sign cs
    let (ds, r) ← decimalDigits? r
    let n ← word? (if negative then -(numberIn 10 ds : Int) else numberIn 10 ds)
    return (n, r)
where
  based (base : Nat) (read : Option (List Char × Rest)) : Option (Int × Rest) := do
    let (ds, r) ← read
    let n ← word? (numberIn base ds)
    return (n, r)

/-- An exponent with its letter: the sign and the digits. -/
def exponent? : Rest → Option ((Bool × List Char) × Rest)
  | c :: r =>
    if c = 'e' ∨ c = 'E' then do
      let (negative, r) := sign r
      let (ds, r) ← digits? Char.isDigit r
      return ((negative, ds), r)
    else none
  | [] => none

/-- Whether a positive decimal is too large for a double: it is nearer to the next power of two after
the largest double than to that double, or exactly between. -/
def overflows (whole fraction : List Char) (expNegative : Bool) (exp : List Char) : Bool :=
  let significand := numberIn 10 (whole ++ fraction)
  let size := (whole ++ fraction).length
  let shift := numberIn 10 exp
  let bound := (Nat.pow 2 54 - 1) * Nat.pow 2 970
  if significand = 0 then false
  else if expNegative then
    if size < shift then false else bound * Nat.pow 10 (fraction.length + shift) ≤ significand
  else if fraction.length + 400 < shift then true
  else bound * Nat.pow 10 fraction.length ≤ significand * Nat.pow 10 shift

/-- **A number with a fraction or an exponent**, `inf` and `nan` included. A positive one must stay
below infinity. -/
def real? (cs : Rest) : Option (String × Rest) :=
  let (negative, r) := sign cs
  match r with
  | 'i' :: 'n' :: 'f' :: r => some ("inf", r)
  | 'n' :: 'a' :: 'n' :: r => some ("nan", r)
  | r => do
    let (whole, r) ← decimalDigits? r
    match r with
    | '.' :: r =>
      let (fraction, r) ← digits? Char.isDigit r
      match exponent? r with
      | some ((en, exp), r) => finish negative whole fraction en exp r
      | none => finish negative whole fraction false [] r
    | r =>
      let ((en, exp), r) ← exponent? r
      finish negative whole [] en exp r
where
  finish (negative : Bool) (whole fraction : List Char) (en : Bool) (exp : List Char) (r : Rest) :
      Option (String × Rest) :=
    if !negative && overflows whole fraction en exp then none
    else some (String.ofList (whole ++ '.' :: fraction ++ 'e' :: exp), r)

/-! ### Dates and times -/

/-- Exactly `n` decimal digits. -/
def fixedNumber? (n : Nat) (cs : Rest) : Option (Nat × Rest) :=
  let ds := cs.take n
  if ds.length = n ∧ ds.all Char.isDigit then some (numberIn 10 ds, cs.drop n) else none

def isLeapYear (y : Nat) : Bool :=
  y % 4 == 0 && (y % 100 != 0 || y % 400 == 0)

/-- The number of days of a month, which is counted from one. -/
def daysInMonth (year month : Nat) : Nat :=
  if month == 2 then (if isLeapYear year then 29 else 28)
  else if month == 4 || month == 6 || month == 9 || month == 11 then 30
  else 31

/-- The given character, and nothing else. -/
def mark? (c : Char) : Rest → Option Rest
  | d :: r => if c = d then some r else none
  | [] => none

/-- A calendar date. -/
def date? (cs : Rest) : Option Rest := do
  let (year, r) ← fixedNumber? 4 cs
  let r ← mark? '-' r
  let (month, r) ← fixedNumber? 2 r
  guard (1 ≤ month ∧ month ≤ 12)
  let r ← mark? '-' r
  let (day, r) ← fixedNumber? 2 r
  guard (1 ≤ day ∧ day ≤ daysInMonth year month)
  return r

/-- Fraction digits of a second, if there are any. -/
def fraction? : Rest → Option Rest
  | '.' :: c :: r => if c.isDigit then some (r.dropWhile Char.isDigit) else none
  | ['.'] => none
  | r => some r

/-- A time of day, with seconds up to a leap second. -/
def time? (cs : Rest) : Option Rest := do
  let (hour, r) ← fixedNumber? 2 cs
  guard (hour ≤ 23)
  let r ← mark? ':' r
  let (minute, r) ← fixedNumber? 2 r
  guard (minute ≤ 59)
  let r ← mark? ':' r
  let (second, r) ← fixedNumber? 2 r
  guard (second ≤ 60)
  fraction? r

/-- A time zone, if there is one. -/
def zone? : Rest → Option Rest
  | 'Z' :: r => some r
  | 'z' :: r => some r
  | c :: r =>
    if c = '+' ∨ c = '-' then do
      let (hour, r) ← fixedNumber? 2 r
      guard (hour ≤ 23)
      let r ← mark? ':' r
      let (minute, r) ← fixedNumber? 2 r
      guard (minute ≤ 59)
      return r
    else some (c :: r)
  | [] => some []

/-- **A date, a time, or both**, with a zone only after both. -/
def moment? (cs : Rest) : Option Rest :=
  match date? cs with
  | some r =>
    match r with
    | c :: t =>
      if c = 'T' ∨ c = 't' ∨ c = ' ' then
        match time? t with
        | some t => zone? t
        | none => some r
      else some r
    | [] => some []
  | none => time? cs

end ModuleHost.Toml
