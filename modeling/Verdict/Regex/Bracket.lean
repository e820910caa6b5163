import Verdict.Regex.Escape

/-!
# Bracketed classes

A bracketed class is a union of characters, ranges, escapes, named classes and nested brackets,
between which set operations may stand; the operations bind weaker than the union and group to the
left.

* `Part`: a class that was read, with the levels of nesting of its notation;
* `OpenBracket`: a bracket that is being read;
* `readBracket`: a class behind its opening bracket.

The brackets that are open around the one being read are kept on a stack.
-/

namespace Verdict.Pattern

open Unicode (CharClass)

/-- A class, with the levels of nesting of its notation. -/
structure Part where
  set : CharClass
  depth : Nat

/-- An operation between two classes. -/
inductive SetOperation where
  | intersection
  | difference
  | symmetricDifference
  deriving DecidableEq

/-- A bracket that is being read: whether it is negated, what stands to the left of the last
    operation, and the items of the union since then, the last one first. -/
structure OpenBracket where
  negated : Bool
  left : Option (SetOperation × Part) := none
  items : List Part

namespace SetOperation

/-- The operation on classes. -/
def apply : SetOperation → CharClass → CharClass → CharClass
  | intersection, a, b => .inter a b
  | difference, a, b => .diff a b
  | symmetricDifference, a, b => .symmDiff a b

end SetOperation

/-- Closes a class under case if the mode asks for it. -/
def foldClass (flags : Flags) (c : CharClass) : CharClass :=
  (finishClass flags false c).getD c

namespace OpenBracket

/-- Adds an item. -/
def add (b : OpenBracket) (item : Part) : OpenBracket := { b with items := item :: b.items }

/-- The union of the items; a union of several is a level of its own. -/
def union (b : OpenBracket) : Part :=
  match b.items with
  | [] => ⟨.empty, 0⟩
  | [item] => item
  | items =>
    ⟨.unions (items.reverse.map (·.set)), 1 + (items.map (·.depth)).foldr max 0⟩

/-- All that was read: the last operation applied to what stands left of it and to the union. -/
def value (flags : Flags) (b : OpenBracket) : Part :=
  match b.left with
  | none => b.union
  | some (operation, left) =>
    ⟨operation.apply (foldClass flags left.set) (foldClass flags b.union.set),
      1 + max left.depth b.union.depth⟩

/-- Goes on behind an operation. -/
def operate (flags : Flags) (operation : SetOperation) (b : OpenBracket) : OpenBracket :=
  { b with left := some (operation, b.value flags), items := [] }

/-- The class of the bracket, at its end. -/
def close? (flags : Flags) (b : OpenBracket) : Option Part :=
  (finishClass flags b.negated (b.value flags).set).map fun c =>
    ⟨c, 1 + (b.value flags).depth⟩

end OpenBracket

/-! ## 1. Named classes -/

/-- The classes of ASCII that a bracket can call by name. -/
def asciiClasses : List (String × CharClass) := [
  ("alnum", .unions [.range 0x30 0x39, .range 0x41 0x5A, .range 0x61 0x7A]),
  ("alpha", .union (.range 0x41 0x5A) (.range 0x61 0x7A)),
  ("ascii", .range 0x00 0x7F),
  ("blank", .union (.single 0x09) (.single 0x20)),
  ("cntrl", .union (.range 0x00 0x1F) (.single 0x7F)),
  ("digit", asciiDigit),
  ("graph", .range 0x21 0x7E),
  ("lower", .range 0x61 0x7A),
  ("print", .range 0x20 0x7E),
  ("punct", .unions [.range 0x21 0x2F, .range 0x3A 0x40, .range 0x5B 0x60, .range 0x7B 0x7E]),
  ("space", asciiSpace),
  ("upper", .range 0x41 0x5A),
  ("word", asciiWord),
  ("xdigit", .unions [.range 0x30 0x39, .range 0x41 0x46, .range 0x61 0x66])]

/-- The class that is called by name behind an opening bracket: a colon, perhaps a circumflex, a
    name, a colon and a closing bracket; with it, whether it is negated, and the number of
    characters of the call. -/
def namedClass? (s : List Char) : Option (Bool × CharClass × Nat) :=
  match s with
  | ':' :: rest =>
    let negated := rest.head? == some '^'
    let body := if negated then rest.tail else rest
    let name := body.takeWhile (· != ':')
    match body.dropWhile (· != ':') with
    | ':' :: ']' :: _ =>
      (asciiClasses.lookup (String.ofList name)).map fun c =>
        (negated, c, name.length + if negated then 4 else 3)
    | _ => none
  | _ => none

/-- Skips a number of characters. -/
def skipChars (n : Nat) : Scan Unit where
  run s := (.ok (), s.drop n)
  size_le s := by simp [Source.size]

/-! ## 2. Items -/

/-- A character by itself. Without Unicode, a bracket holds ASCII only. -/
def literalItem? (flags : Flags) (c : Char) : Option Part :=
  if flags.unicode || c.toNat < 0x80 then some ⟨.single c.toNat, 0⟩ else none

/-- A range of characters, in order. -/
def rangeItem? (flags : Flags) (low high : Char) : Option Part :=
  if low ≤ high ∧ (flags.unicode ∨ high.toNat < 0x80) then some ⟨.range low.toNat high.toNat, 0⟩
  else none

/-- An atom whose first character is `c`: an escape, or the character by itself. -/
def readAtom (flags : Flags) (c : Char) : Scan Atom :=
  if c = '\\' then readEscape flags else return .literal c false

/-- The character that counts behind the next one. Looking ahead does not see the end of a comment:
    of a comment behind the next character, its first character counts. -/
def secondAhead (verbose : Bool) (s : List Char) : Option Char :=
  let rest := s.drop 1
  if verbose then
    match rest.dropWhile Text.isWhitespace with
    | [] => rest.head?
    | '#' :: comment =>
      match comment.dropWhile Text.isWhitespace with
      | [] => rest.head?
      | c :: _ => some c
    | c :: _ => some c
  else rest.head?

/-- An item whose first character is `c`: an atom, or a range of two characters. A hyphen before a
    closing bracket or another hyphen makes no range. -/
def readItem (flags : Flags) (c : Char) : Scan Part := do
  let first ← readAtom flags c
  Scan.space flags.verbose
  let rest ← Consumer.remaining
  let second := secondAhead flags.verbose rest
  if rest.isEmpty then Scan.reject
  else if rest.head? ≠ some '-' ∨ second = some ']' ∨ second = some '-' then
    match first with
    | .literal c _ => Scan.require (literalItem? flags c)
    | .set c => return ⟨c, 0⟩
    | .assertion _ => Scan.reject
  else
    let _ ← Scan.take
    let last ← readAtom flags (← Scan.takeSymbol flags.verbose)
    match first, last with
    | .literal low _, .literal high _ => Scan.require (rangeItem? flags low high)
    | _, _ => Scan.reject

/-! ## 3. Brackets -/

/-- The start of a bracket: a circumflex that negates it, then hyphens by themselves, or a closing
    bracket by itself. -/
def readBracketStart (flags : Flags) : Scan OpenBracket := do
  Scan.more flags.verbose
  let negated ← Scan.takeIf '^'
  Scan.more flags.verbose
  let rest ← Consumer.remaining
  let hyphens ← countHyphens flags rest.length
  if hyphens = 0 then
    if ← Scan.takeIf ']' then
      Scan.more flags.verbose
      return { negated, items := [⟨.single ']'.toNat, 0⟩] }
    else return { negated, items := [] }
  else return { negated, items := List.replicate hyphens ⟨.single '-'.toNat, 0⟩ }
where
  /-- Takes hyphens, at most `fuel` of them, and counts them. -/
  countHyphens (flags : Flags) : Nat → Scan Nat
    | 0 => return 0
    | fuel + 1 => do
      if ← Scan.takeIf '-' then
        Scan.more flags.verbose
        return 1 + (← countHyphens flags fuel)
      else return 0

/-- The brackets that are open, innermost first. -/
abbrev Brackets := OpenBracket × List OpenBracket

/-- One step of reading a bracket, at the symbol `c`; the class of the outermost bracket at its
    end. -/
def bracketStep (flags : Flags) (brackets : Brackets) (c : Char) : Scan (Brackets ⊕ Part) := do
  let (inner, outer) := brackets
  let rest ← Consumer.remaining
  let operation (o : SetOperation) : Scan (Brackets ⊕ Part) := do
    let _ ← Scan.take
    return .inl (inner.operate flags o, outer)
  if c = '[' then
    match namedClass? rest with
    | some (negated, named, length) =>
      skipChars length
      let set ← Scan.require (finishClass flags negated named)
      return .inl (inner.add ⟨set, 0⟩, outer)
    | none => return .inl (← readBracketStart flags, inner :: outer)
  else if c = ']' then
    let part ← Scan.require (inner.close? flags)
    match outer with
    | [] => return .inr part
    | next :: outer => return .inl (next.add part, outer)
  else if c = '&' ∧ rest.head? = some '&' then operation .intersection
  else if c = '-' ∧ rest.head? = some '-' then operation .difference
  else if c = '~' ∧ rest.head? = some '~' then operation .symmetricDifference
  else return .inl (inner.add (← readItem flags c), outer)

/-- A class behind its opening bracket. -/
def readBracket (flags : Flags) : Scan Part := do
  let first ← readBracketStart flags
  Consumer.loop (Scan.takeSymbol flags.verbose) (Scan.takeSymbol_advances flags.verbose)
    (bracketStep flags) (first, [])

end Verdict.Pattern
