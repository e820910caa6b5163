/-!
# Tables of code points

The character database enters this library as sorted tables, written as numerals that pack several
entries each:

* `unpackRows`, `unpackTripleRows`: the entries of a table, from its numerals;
* `inRanges`: whether a code point lies in one of the ranges of a sorted table;
* `lookupSorted`: the entry of a code point in a sorted table.

Both searches stop at the first entry beyond the code point, so ASCII is decided at the front of
every table.
-/

namespace Verdict.Unicode

/-- Entries of two code points, six hexadecimal digits each, from one numeral that holds up to
    `slots` of them, the first one in the leading digits. An unused slot is zero. -/
def unpackRow : Nat → Nat → List (Nat × Nat)
  | 0, _ => []
  | slots + 1, row =>
    let entry := row / 16 ^ (12 * slots) % 16 ^ 12
    if entry = 0 then unpackRow slots row
    else (entry / 16 ^ 6, entry % 16 ^ 6) :: unpackRow slots row

/-- The entries of a table of two code points an entry, six entries a numeral. -/
def unpackRows (rows : List Nat) : List (Nat × Nat) := rows.flatMap (unpackRow 6)

/-- Entries of three code points, six hexadecimal digits each, from one numeral that holds up to
    `slots` of them, the first one in the leading digits. -/
def unpackTripleRow : Nat → Nat → List (Nat × Nat × Nat)
  | 0, _ => []
  | slots + 1, row =>
    let entry := row / 16 ^ (18 * slots) % 16 ^ 18
    if entry = 0 then unpackTripleRow slots row
    else (entry / 16 ^ 12, entry / 16 ^ 6 % 16 ^ 6, entry % 16 ^ 6) :: unpackTripleRow slots row

/-- The entries of a table of three code points an entry, four entries a numeral. -/
def unpackTripleRows (rows : List Nat) : List (Nat × Nat × Nat) :=
  rows.flatMap (unpackTripleRow 4)

/-- Whether `n` lies in one of the ranges, which are sorted and given by first and last code
    point. -/
def inRanges (n : Nat) : List (Nat × Nat) → Bool
  | [] => false
  | (low, high) :: rest => if n < low then false else if n ≤ high then true else inRanges n rest

/-- The entry of `n` in a table sorted by code point. -/
def lookupSorted {α : Type} (n : Nat) : List (Nat × α) → Option α
  | [] => none
  | (key, entry) :: rest =>
    if n < key then none else if n = key then some entry else lookupSorted n rest

end Verdict.Unicode
