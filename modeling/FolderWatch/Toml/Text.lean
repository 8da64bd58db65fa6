import FolderWatch.Text.Reader
import FolderWatch.Toml.Value
/-! The small parts of a document's text: blanks, comments, strings, numbers, dates. -/
namespace FolderWatch.Toml

def isSpace (c : Char) : Bool := c = ' ' || c = '\t'
def skipSpace (cs : List Char) : List Char := cs.dropWhile isSpace

/-- Anything but a control; a tab is none here. -/
def isShown (c : Char) : Bool := c = '\t' || (0x20 ≤ c.toNat && c.toNat ≠ 0x7F)

def newline? : List Char → Option (List Char)
  | '\n' :: r => some r
  | '\r' :: '\n' :: r => some r
  | _ => none

def lineEnd? (cs : List Char) : Option (List Char) :=
  let r := match skipSpace cs with
    | '#' :: r => r.dropWhile isShown
    | r => r
  if r.isEmpty then some [] else newline? r

def skipFiller (inComment : Bool) : List Char → List Char
  | '\n' :: r => skipFiller false r
  | '\r' :: '\n' :: r => skipFiller false r
  | c :: r =>
      if inComment then (if isShown c then skipFiller true r else c :: r)
      else if isSpace c then skipFiller false r
      else if c = '#' then skipFiller true r
      else c :: r
  | [] => []

/-- Where in a string with escapes the reader stands: in plain text, behind a backslash, inside
a number of some more digits, or inside a line break that is left out. -/
inductive Place
  | plain
  | escape
  | number (left : Nat) (value : Nat)
  | fold (broken : Bool)
  deriving DecidableEq, Repr

def escaped? : Char → Option Char
  | 'b' => some '\x08'
  | 't' => some '\t'
  | 'n' => some '\n'
  | 'f' => some '\x0c'
  | 'r' => some '\r'
  | '"' => some '"'
  | '\\' => some '\\'
  | _ => none

def scalar? (n : Nat) : Option Char :=
  if n < 0xD800 || (0xDFFF < n && n < 0x110000) then some (Char.ofNat n) else none

def push (c : Char) (rest : Option (List Char × List Char)) : Option (List Char × List Char) :=
  rest.map fun r => (c :: r.1, r.2)

def basic : Place → Reader (List Char)
  | .plain, '"' :: r => some ([], r)
  | .plain, '\\' :: r => basic .escape r
  | .plain, c :: r => if isShown c then push c (basic .plain r) else none
  | .escape, 'u' :: r => basic (.number 4 0) r
  | .escape, 'U' :: r => basic (.number 8 0) r
  | .escape, c :: r => (escaped? c).bind fun x => push x (basic .plain r)
  | .number left value, c :: r =>
      (hexDigit? c).bind fun d =>
        if left ≤ 1 then (scalar? (value * 16 + d)).bind fun x => push x (basic .plain r)
        else basic (.number (left - 1) (value * 16 + d)) r
  | _, _ => none

/-- The rest of a string in triple double quotes. Up to two quotes may stand before the three
that close it; a backslash at the end of a line takes the blanks that follow. -/
def longBasic : Place → Reader (List Char)
  | .plain, '"' :: '"' :: '"' :: '"' :: '"' :: r => some (['"', '"'], r)
  | .plain, '"' :: '"' :: '"' :: '"' :: r => some (['"'], r)
  | .plain, '"' :: '"' :: '"' :: r => some ([], r)
  | .plain, '\\' :: r => longBasic .escape r
  | .plain, '\n' :: r => push '\n' (longBasic .plain r)
  | .plain, '\r' :: '\n' :: r => push '\n' (longBasic .plain r)
  | .plain, c :: r => if isShown c then push c (longBasic .plain r) else none
  | .escape, 'u' :: r => longBasic (.number 4 0) r
  | .escape, 'U' :: r => longBasic (.number 8 0) r
  | .escape, '\n' :: r => longBasic (.fold true) r
  | .escape, '\r' :: '\n' :: r => longBasic (.fold true) r
  | .escape, c :: r =>
      if isSpace c then longBasic (.fold false) r
      else (escaped? c).bind fun x => push x (longBasic .plain r)
  | .number left value, c :: r =>
      (hexDigit? c).bind fun d =>
        if left ≤ 1 then (scalar? (value * 16 + d)).bind fun x => push x (longBasic .plain r)
        else longBasic (.number (left - 1) (value * 16 + d)) r
  | .fold _, '\n' :: r => longBasic (.fold true) r
  | .fold _, '\r' :: '\n' :: r => longBasic (.fold true) r
  | .fold true, '"' :: '"' :: '"' :: '"' :: '"' :: r => some (['"', '"'], r)
  | .fold true, '"' :: '"' :: '"' :: '"' :: r => some (['"'], r)
  | .fold true, '"' :: '"' :: '"' :: r => some ([], r)
  | .fold true, '\\' :: r => longBasic .escape r
  | .fold broken, c :: r =>
      if isSpace c then longBasic (.fold broken) r
      else if broken && isShown c then push c (longBasic .plain r)
      else none
  | _, [] => none

def literal : Reader (List Char)
  | '\'' :: r => some ([], r)
  | c :: r => if isShown c then push c (literal r) else none
  | [] => none

def longLiteral : Reader (List Char)
  | '\'' :: '\'' :: '\'' :: '\'' :: '\'' :: r => some (['\'', '\''], r)
  | '\'' :: '\'' :: '\'' :: '\'' :: r => some (['\''], r)
  | '\'' :: '\'' :: '\'' :: r => some ([], r)
  | '\n' :: r => push '\n' (longLiteral r)
  | '\r' :: '\n' :: r => push '\n' (longLiteral r)
  | c :: r => if isShown c then push c (longLiteral r) else none
  | [] => none

def dropNewline (cs : List Char) : List Char := (newline? cs).getD cs

/-- A string of any of the four kinds; a line break right behind triple quotes is dropped. -/
def string? : Reader String
  | '"' :: '"' :: '"' :: r => (longBasic .plain (dropNewline r)).map fun x => (String.ofList x.1, x.2)
  | '"' :: r => (basic .plain r).map fun x => (String.ofList x.1, x.2)
  | '\'' :: '\'' :: '\'' :: r => (longLiteral (dropNewline r)).map fun x => (String.ofList x.1, x.2)
  | '\'' :: r => (literal r).map fun x => (String.ofList x.1, x.2)
  | _ => none

def digits? (isDigit : Char → Bool) : Reader (List Char)
  | '_' :: _ => none
  | c :: '_' :: r => if isDigit c then push c (digits? isDigit r) else none
  | c :: d :: r =>
      if isDigit c then
        (if isDigit d then push c (digits? isDigit (d :: r)) else some ([c], d :: r))
      else none
  | [c] => if isDigit c then some ([c], []) else none
  | [] => none

def signed : Reader Bool
  | '-' :: r => some (true, r)
  | '+' :: r => some (false, r)
  | r => some (false, r)

def whole? : Reader (List Char)
  | '0' :: r => some (['0'], r)
  | r => digits? Char.isDigit r

def valueOf (base : Nat) (ds : List Char) : Nat :=
  ds.foldl (fun n c => n * base + (hexDigit? c).getD 0) 0

def fractional? (cs : List Char) : Option (List Char × List Char) :=
  let power (shown : List Char) : List Char → Option (List Char × List Char)
    | e :: r =>
        if e = 'e' || e = 'E' then do
          let (below, r) ← signed r
          let (ds, r) ← digits? Char.isDigit r
          some (shown ++ 'e' :: (if below then '-' :: ds else ds), r)
        else some (shown, e :: r)
    | [] => some (shown, [])
  match cs with
  | '.' :: r => do
      let (ds, r) ← digits? Char.isDigit r
      power ('.' :: ds) r
  | e :: r => if e = 'e' || e = 'E' then power [] (e :: r) else none
  | [] => none

def negateIf (below : Bool) (x : Binary64) : Binary64 := if below then x.neg else x

def special? : Reader Binary64
  | 'i' :: 'n' :: 'f' :: r => some (.infinity, r)
  | 'n' :: 'a' :: 'n' :: r => some (.nan, r)
  | _ => none

/-- A number with a point or an exponent, or a word for one; too large a number is refused
unless it is negative. -/
def float? (cs : List Char) : Option (Value × List Char) := do
  let (below, r) ← signed cs
  match special? r with
  | some (x, r) => some (.float (negateIf below x), r)
  | none =>
      let (ds, r) ← whole? r
      let (more, r) ← fractional? r
      let d ← Decimal.ofText? (ds ++ more)
      let x := negateIf below (Binary64.ofDecimal d.digits d.exponent)
      if x = .infinity then none else some (.float x, r)

def integerLimit : Nat := UInt64.size / 2

def inBase? (base : Nat) (isDigit : Char → Bool) (cs : List Char) : Option (Value × List Char) := do
  let (ds, r) ← digits? isDigit cs
  let n := valueOf base ds
  if n < integerLimit then some (.integer n, r) else none

/-- A whole number of 64 bits with its sign; other bases than ten take no sign. -/
def integer? : List Char → Option (Value × List Char)
  | '0' :: 'x' :: r => inBase? 16 (fun c => (hexDigit? c).isSome) r
  | '0' :: 'o' :: r => inBase? 8 (fun c => '0' ≤ c && c ≤ '7') r
  | '0' :: 'b' :: r => inBase? 2 (fun c => c = '0' || c = '1') r
  | cs => do
      let (below, r) ← signed cs
      let (ds, r) ← whole? r
      let n : Int := if below then -(valueOf 10 ds : Int) else valueOf 10 ds
      if -(integerLimit : Int) ≤ n && n < integerLimit then some (.integer n, r) else none

def fixed? (n : Nat) (cs : List Char) : Option (Nat × List Char) :=
  let ds := cs.take n
  if ds.length = n && ds.all Char.isDigit then some (valueOf 10 ds, cs.drop n) else none

def between? (low high : Nat) (cs : List Char) : Option (Nat × List Char) := do
  let (n, r) ← fixed? 2 cs
  if low ≤ n && n ≤ high then some (n, r) else none

def char? (c : Char) : List Char → Option (List Char)
  | d :: r => if d = c then some r else none
  | [] => none

def daysIn (year month : Nat) : Nat :=
  if month = 2 then
    (if year % 4 = 0 && (year % 100 ≠ 0 || year % 400 = 0) then 29 else 28)
  else if month = 4 || month = 6 || month = 9 || month = 11 then 30
  else 31

def date? (cs : List Char) : Option (List Char) := do
  let (year, r) ← fixed? 4 cs
  let r ← char? '-' r
  let (month, r) ← between? 1 12 r
  let r ← char? '-' r
  let (day, r) ← between? 1 31 r
  if day ≤ daysIn year month then some r else none

def time? (cs : List Char) : Option (List Char) := do
  let (_, r) ← between? 0 23 cs
  let r ← char? ':' r
  let (_, r) ← between? 0 59 r
  let r ← char? ':' r
  let (_, r) ← between? 0 60 r
  match r with
  | '.' :: d :: more =>
      if d.isDigit then some (more.dropWhile Char.isDigit) else none
  | '.' :: [] => none
  | _ => some r

def offset? : List Char → Option (List Char)
  | 'Z' :: r => some r
  | 'z' :: r => some r
  | c :: r =>
      if c = '+' || c = '-' then do
        let (_, r) ← between? 0 23 r
        let r ← char? ':' r
        let (_, r) ← between? 0 59 r
        some r
      else some (c :: r)
  | [] => some []

def moment? (cs : List Char) : Option (Value × List Char) :=
  match date? cs with
  | some r =>
      match r with
      | c :: more =>
          if c = 'T' || c = 't' || c = ' ' then
            match time? more with
            | some r => (offset? r).map fun r => (.moment, r)
            | none => some (.moment, c :: more)
          else some (.moment, r)
      | [] => some (.moment, [])
  | none => (time? cs).map fun r => (.moment, r)

end FolderWatch.Toml
