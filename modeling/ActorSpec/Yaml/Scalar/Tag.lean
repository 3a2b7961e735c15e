import ActorSpec.Calendar
import ActorSpec.Yaml.Cursor

/-!
# Kinds of scalars

What a plain scalar is taken for when nothing else says so: the forms of truth values, numbers, dates
and null of YAML 1.1, the two special keys, and text for everything else.
-/

namespace ActorSpec.Yaml

inductive Tag where
  | null
  | bool
  | int
  | float
  | timestamp
  | str
  | merge
  | value
  | seq
  | map
  | omap
  | pairs
  | set
  | binary
  | other (name : String)
deriving DecidableEq

/-- The tag with a written-out name. -/
def Tag.ofName (name : String) : Tag :=
  match name with
  | "tag:yaml.org,2002:null" => .null
  | "tag:yaml.org,2002:bool" => .bool
  | "tag:yaml.org,2002:int" => .int
  | "tag:yaml.org,2002:float" => .float
  | "tag:yaml.org,2002:timestamp" => .timestamp
  | "tag:yaml.org,2002:str" => .str
  | "tag:yaml.org,2002:merge" => .merge
  | "tag:yaml.org,2002:value" => .value
  | "tag:yaml.org,2002:seq" => .seq
  | "tag:yaml.org,2002:map" => .map
  | "tag:yaml.org,2002:omap" => .omap
  | "tag:yaml.org,2002:pairs" => .pairs
  | "tag:yaml.org,2002:set" => .set
  | "tag:yaml.org,2002:binary" => .binary
  | _ => .other name

/-- The tags of lists, mappings and sets. -/
def Tag.isCollection : Tag → Bool
  | .seq | .map | .omap | .pairs | .set => true
  | _ => false

/-! ## Truth values -/

def trueWords : List String :=
  ["yes", "Yes", "YES", "true", "True", "TRUE", "on", "On", "ON"]

def falseWords : List String :=
  ["no", "No", "NO", "false", "False", "FALSE", "off", "Off", "OFF"]

def nullWords : List String := ["~", "null", "Null", "NULL", ""]

/-! ## Numbers -/

def dropSign : List Char → List Char
  | '-' :: cs => cs
  | '+' :: cs => cs
  | cs => cs

def isDigitMark (c : Char) : Bool := c.isDigit || c = '_'

/-- A digit, then digits and separators. -/
def isSeparated (cs : List Char) : Bool :=
  (cs.head?.any Char.isDigit) && cs.all isDigitMark

/-- One or two digits below sixty. -/
def isSexagesimal : List Char → Bool
  | [a] => a.isDigit
  | [a, b] => a.isDigit && decide (a < '6') && b.isDigit
  | _ => false

def isNonempty (cs : List Char) : Bool := !cs.isEmpty

def isInteger (cs : List Char) : Bool :=
  match dropSign cs with
  | ['0'] => true
  | '0' :: 'b' :: rest => isNonempty rest && rest.all fun c => c = '0' || c = '1' || c = '_'
  | '0' :: 'x' :: rest => isNonempty rest && rest.all fun c =>
    c.isDigit || ('a' ≤ c && c ≤ 'f') || ('A' ≤ c && c ≤ 'F') || c = '_'
  | '0' :: rest => isNonempty rest && rest.all fun c => ('0' ≤ c && c ≤ '7') || c = '_'
  | unsigned =>
    match unsigned.splitOn ':' with
    | head :: parts => isSeparated head && parts.all isSexagesimal
    | [] => false

/-- An exponent, which needs its sign, or nothing. -/
def isPower : List Char → Bool
  | [] => true
  | e :: sign :: digits =>
    (e = 'e' || e = 'E') && (sign = '-' || sign = '+') && isNonempty digits
      && digits.all Char.isDigit
  | _ => false

/-- A decimal with a point; digits and separators stand on both sides of it. -/
def isDecimal (cs : List Char) : Bool :=
  match cs with
  | '.' :: rest => isSeparated (rest.takeWhile isDigitMark) && isPower (rest.dropWhile isDigitMark)
  | _ =>
    let unsigned := dropSign cs
    match unsigned.dropWhile isDigitMark with
    | '.' :: rest => isSeparated (unsigned.takeWhile isDigitMark)
        && isPower (rest.dropWhile isDigitMark)
    | _ => false

/-- Parts in base sixty, the last of which has a point. -/
def isSexagesimalDecimal (cs : List Char) : Bool :=
  match (dropSign cs).splitOn ':' with
  | head :: parts =>
    match parts.reverse with
    | last :: middle =>
      isSeparated head && middle.all isSexagesimal
        && isSexagesimal (last.takeWhile (· != '.'))
        && (match last.dropWhile (· != '.') with
          | '.' :: rest => rest.all isDigitMark
          | _ => false)
    | [] => false
  | [] => false

def isFloat (cs : List Char) : Bool :=
  isDecimal cs || isSexagesimalDecimal cs
    || [".inf", ".Inf", ".INF"].contains (String.ofList (dropSign cs))
    || [".nan", ".NaN", ".NAN"].contains (String.ofList cs)

/-! ## Dates and times -/

/-- The written parts of a date, with those of a time of day and of its offset if they are there. -/
structure MomentParts where
  year : List Char
  month : List Char
  day : List Char
  time : Option (List Char × List Char × List Char × List Char)
  offset : Option Int

def splitDigits (cs : List Char) : List Char × List Char :=
  (cs.takeWhile Char.isDigit, cs.dropWhile Char.isDigit)

def isShort (digits : List Char) : Bool := digits.length = 1 || digits.length = 2

def natOf (digits : List Char) : Nat := Nat.ofDigitChars 10 digits 0

/-- The offset of a clock in minutes: a `Z`, or a sign, hours and perhaps minutes. -/
def offsetMinutes? : List Char → Option Int
  | ['Z'] => some 0
  | sign :: rest =>
    let (hours, rest) := splitDigits rest
    let minutes? := match rest with
      | [] => some 0
      | ':' :: rest => if rest.length = 2 ∧ rest.all Char.isDigit then some (natOf rest) else none
      | _ => none
    if (sign = '-' ∨ sign = '+') ∧ isShort hours then
      minutes?.map fun minutes =>
        let total : Int := natOf hours * 60 + minutes
        if sign = '-' then -total else total
    else none
  | [] => none

/-- A time of day behind the separator that follows a date. -/
def timeParts? (cs : List Char) : Option ((List Char × List Char × List Char × List Char) × Option Int) :=
  let (hour, rest) := splitDigits cs
  match rest with
  | ':' :: rest =>
    let (minute, rest) := splitDigits rest
    match rest with
    | ':' :: rest =>
      let (second, rest) := splitDigits rest
      let (fraction, rest) := match rest with
        | '.' :: rest => splitDigits rest
        | _ => ([], rest)
      if isShort hour && minute.length = 2 && second.length = 2 then
        if rest.isEmpty then some ((hour, minute, second, fraction), none)
        else (offsetMinutes? (rest.dropWhile isBlank)).map fun offset =>
          ((hour, minute, second, fraction), some offset)
      else none
    | _ => none
  | _ => none

/-- What separates a date from a time: a letter, or blanks. -/
def afterSeparator? : List Char → Option (List Char)
  | [] => none
  | c :: rest =>
    if c = 'T' ∨ c = 't' then some rest
    else if isBlank c then some (rest.dropWhile isBlank)
    else none

/-- The parts of a date, or of a date and a time. -/
def momentParts? (cs : List Char) : Option MomentParts :=
  let (year, rest) := splitDigits cs
  match rest with
  | '-' :: rest =>
    let (month, rest) := splitDigits rest
    match rest with
    | '-' :: rest =>
      let (day, rest) := splitDigits rest
      if year.length = 4 && isShort month && isShort day then
        if rest.isEmpty then some ⟨year, month, day, none, none⟩
        else do
          let (time, offset) ← timeParts? (← afterSeparator? rest)
          return ⟨year, month, day, some time, offset⟩
      else none
    | _ => none
  | _ => none

/-- A plain scalar that is taken for a date. A date alone has two digits for month and day. -/
def isMoment (cs : List Char) : Bool :=
  (momentParts? cs).any fun p => p.time.isSome || p.month.length = 2 && p.day.length = 2

/-! ## Resolution -/

/-- A text without the line feed at its end, if there is something in front of that. -/
def dropFinalFeed (cs : List Char) : List Char :=
  if cs.getLast? = some '\n' ∧ cs ≠ ['\n'] then cs.dropLast else cs

/-- What a plain scalar is taken for, or one that is to be taken as if it were. -/
def Tag.ofPlain (written : String) : Tag :=
  let cs := dropFinalFeed written.toList
  let text := String.ofList cs
  if trueWords.contains text || falseWords.contains text then .bool
  else if isFloat cs then .float
  else if isInteger cs then .int
  else if text = "<<" then .merge
  else if nullWords.contains text then .null
  else if isMoment cs then .timestamp
  else if text = "=" then .value
  else .str

end ActorSpec.Yaml
