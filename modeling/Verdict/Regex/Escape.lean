import Verdict.Regex.Basic
import Verdict.Regex.Scan
import Verdict.Unicode.PropertyName

/-!
# Escapes in patterns

* `escape`: a text as a pattern for exactly that text -- a backslash before every character that
  has a meaning in patterns;
* `Atom`: what an escape stands for;
* `readEscape`: the escape behind a backslash.
-/

namespace Verdict.Pattern

open Unicode (CharClass)

/-- The characters that have a meaning in patterns. -/
def isMeta (c : Char) : Bool := "\\.+*?()|[]\x7b\x7d^$#&-~".toList.contains c

/-- A pattern for exactly the given characters. -/
def escape (s : List Char) : List Char :=
  s.flatMap fun c => if isMeta c then ['\\', c] else [c]

/-- The characters that a backslash leaves as they are: those with a meaning, and all of ASCII but
    letters, digits and angle brackets. -/
def isEscapable (c : Char) : Bool :=
  isMeta c || (c.toNat < 0x80 && !c.isAlphanum && c != '<' && c != '>')

/-- What an escape stands for. -/
inductive Atom where
  /-- A character; `byte` if it was written as two hexadecimal digits. -/
  | literal (c : Char) (byte : Bool)
  | set (c : CharClass)
  | assertion (a : Assertion)

/-! ## 1. Classes -/

/-- Closes a class under case if the mode asks for it, then takes the complement if it is negated.
    Without Unicode, a negated class is refused, since it could match a part of a character. -/
def finishClass (flags : Flags) (negated : Bool) (c : CharClass) : Option CharClass :=
  let c :=
    if flags.ignoreCase then
      if flags.unicode then CharClass.caseClosure c else CharClass.asciiCaseClosure c
    else c
  if negated then if flags.unicode then some (.compl c) else none else some c

/-- The whitespace of ASCII. -/
def asciiSpace : CharClass := .union (.range 0x09 0x0D) (.single 0x20)

/-- The digits of ASCII. -/
def asciiDigit : CharClass := .range 0x30 0x39

/-- The classes of one letter: digits, whitespace, word characters; in upper case, their
    complements. -/
def letterClass? (flags : Flags) (letter : Char) : Option CharClass :=
  let choose (unicode ascii : CharClass) := if flags.unicode then unicode else ascii
  let flags := { flags with ignoreCase := false }
  match letter with
  | 'd' => some (choose Unicode.GeneralCategory.decimalNumber asciiDigit)
  | 's' => some (choose Unicode.Property.whiteSpace asciiSpace)
  | 'w' => some (choose unicodeWord asciiWord)
  | 'D' => finishClass flags true (choose Unicode.GeneralCategory.decimalNumber asciiDigit)
  | 'S' => finishClass flags true (choose Unicode.Property.whiteSpace asciiSpace)
  | 'W' => finishClass flags true (choose unicodeWord asciiWord)
  | _ => none

/-- Splits at the first `!=`. -/
def splitUnequal : List Char → Option (List Char × List Char)
  | [] => none
  | '!' :: '=' :: rest => some ([], rest)
  | c :: rest => (splitUnequal rest).map fun (name, value) => (c :: name, value)

/-- Splits at the first occurrence of a character. -/
def splitChar (c : Char) (s : List Char) : Option (List Char × List Char) :=
  match s.dropWhile (· != c) with
  | [] => none
  | _ :: value => some (s.takeWhile (· != c), value)

/-- The class that is called for between braces: a name alone, or a property and its value; and
    whether its complement is meant, which is what a property unequal to a value says. -/
def propertyClass? (text : List Char) : Option (CharClass × Bool) :=
  let classOf (name value : List Char) : Option CharClass :=
    Unicode.classOfValue? (String.ofList name) (String.ofList value)
  match splitUnequal text with
  | some (name, value) => (classOf name value).map (·, true)
  | none =>
    match splitChar ':' text <|> splitChar '=' text with
    | some (name, value) => (classOf name value).map (·, false)
    | none => (Unicode.classNamed? (String.ofList text)).map (·, false)

/-- Characters up to a closing brace, which is taken too. -/
def untilBrace (verbose : Bool) (accept : Char → Bool) : Scan (List Char) :=
  Consumer.items (Scan.takeSymbol verbose) (Scan.takeSymbol_advances verbose) fun c =>
    if c = '\x7d' then return none
    else if accept c then return some c
    else Scan.reject

/-- The class of a property, behind the letter that announces it. A property unequal to a value and
    a letter for the complement cancel each other. -/
def readProperty (flags : Flags) (negated : Bool) : Scan Atom := do
  Scan.space flags.verbose
  let name ←
    if (← Scan.ahead?) = some '\x7b' then
      let _ ← Scan.take
      untilBrace flags.verbose fun _ => true
    else
      let c ← Scan.take
      if c = '\\' then Scan.reject else pure [c]
  if !flags.unicode then Scan.reject
  else
    let (c, unequal) ← Scan.require (propertyClass? name)
    return .set (← Scan.require (finishClass flags (negated != unequal) c))

/-! ## 2. Characters by number -/

/-- The value of a hexadecimal digit. -/
def hexValue? (c : Char) : Option Nat :=
  if c.isDigit then some (c.toNat - '0'.toNat)
  else if 'a' ≤ c ∧ c ≤ 'f' then some (c.toNat - 'a'.toNat + 10)
  else if 'A' ≤ c ∧ c ≤ 'F' then some (c.toNat - 'A'.toNat + 10)
  else none

/-- The character whose number has these hexadecimal digits. -/
def hexChar? (digits : List Char) : Option Char :=
  let n := digits.foldl (fun n c => 16 * n + (hexValue? c).getD 0) 0
  if digits.isEmpty then none
  else if n.isValidChar then some (Char.ofNat n)
  else none

/-- A fixed number of hexadecimal digits. -/
def readHexDigits (verbose : Bool) : Nat → Scan (List Char)
  | 0 => return []
  | n + 1 => do
    let c ← Scan.takeSymbol verbose
    if (hexValue? c).isSome then return c :: (← readHexDigits verbose n) else Scan.reject

/-- The number of a character, behind the letter that announces it: `width` digits, or any number of
    them between braces. -/
def readHex (verbose : Bool) (width : Nat) : Scan Atom := do
  Scan.space verbose
  let braces ← Scan.takeIf '\x7b'
  let digits ←
    if braces then untilBrace verbose fun c => (hexValue? c).isSome
    else readHexDigits verbose width
  return .literal (← Scan.require (hexChar? digits)) (!braces && width == 2)

/-! ## 3. Assertions -/

/-- The word assertion that is called for between braces. -/
def wordAssertion? (name : List Char) : Option WordAssertion :=
  match String.ofList name with
  | "start" => some .wordStart
  | "end" => some .wordEnd
  | "start-half" => some .halfStart
  | "end-half" => some .halfEnd
  | _ => none

/-- The word assertion behind a backslash and the letter `b`: with a name between braces, if the
    first character behind the brace can be of a name; otherwise a word boundary, and a brace is
    left. -/
def readWordAssertion (flags : Flags) : Scan Atom := do
  let word (kind : WordAssertion) : Atom := .assertion (.word kind !flags.unicode)
  let isNamePart (c : Char) : Bool := c.isAlpha || c == '-'
  match ← Consumer.remaining with
  | '\x7b' :: rest =>
    match skipSpace flags.verbose rest with
    | [] => Scan.reject
    | c :: _ =>
      if isNamePart c then
        let _ ← Scan.take
        return word (← Scan.require (wordAssertion? (← untilBrace flags.verbose isNamePart)))
      else return word .boundary
  | _ => return word .boundary

/-! ## 4. All escapes -/

/-- The escape behind a backslash. -/
def readEscape (flags : Flags) : Scan Atom := do
  let c ← Scan.take
  let word (kind : WordAssertion) : Atom := .assertion (.word kind !flags.unicode)
  match c with
  | 'x' => readHex flags.verbose 2
  | 'u' => readHex flags.verbose 4
  | 'U' => readHex flags.verbose 8
  | 'p' => readProperty flags false
  | 'P' => readProperty flags true
  | 'a' => return .literal '\x07' false
  | 'f' => return .literal '\x0c' false
  | 't' => return .literal '\t' false
  | 'n' => return .literal '\n' false
  | 'r' => return .literal '\r' false
  | 'v' => return .literal '\x0b' false
  | 'A' => return .assertion .textStart
  | 'z' => return .assertion .textEnd
  | 'b' => readWordAssertion flags
  | 'B' => return word .inside
  | '<' => return word .wordStart
  | '>' => return word .wordEnd
  | _ =>
    if isEscapable c then return .literal c false
    else
      return .set (← Scan.require (letterClass? flags c))

end Verdict.Pattern
