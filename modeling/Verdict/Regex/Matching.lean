import Verdict.Regex.Basic

/-!
# Matching a regular expression

A text of `n` characters has `n + 1` places. A set of places is a number whose bit `i` says whether
place `i` is in it.

* `Route`: an expression laid over one text -- every class is replaced by the places where the next
  character is in it, every assertion by the places that meet it;
* `Route.reach`: the places that a route leads to from a set of places;
* `Regex.isMatch`: whether some part of a text matches.

A repetition takes its steps one by one, but ends as soon as a step changes nothing: a count in a
pattern can be far larger than any text. Without an upper bound that happens after at most as many
rounds as there are places.
-/

namespace Verdict

/-- The set of the places whose entry is true, the first entry standing for place zero. -/
def placesOf : List Bool → Nat
  | [] => 0
  | b :: rest => b.toNat + 2 * placesOf rest

/-- An expression laid over a text. -/
inductive Route where
  /-- Leads from each place to itself. -/
  | stay
  /-- Leads over the next character from the given places. -/
  | step (places : Nat)
  /-- Leads from each of the given places to itself. -/
  | check (places : Nat)
  | seq (r s : Route)
  | alt (r s : Route)
  | iterate (r : Route) (least : Nat) (most : Option Nat)

/-- The characters before and after each place of a text, given the character before the text. -/
def surroundings (before : Option Char) : List Char → List (Option Char × Option Char)
  | [] => [(before, none)]
  | c :: rest => (before, some c) :: surroundings (some c) rest

/-- An expression laid over a text. -/
def Regex.over (text : List Char) : Regex → Route
  | empty => .stay
  | one c => .step (placesOf (text.map fun x => c.contains x.toNat))
  | assert a => .check (placesOf ((surroundings none text).map fun (b, c) => a.holds b c))
  | seq r s => .seq (r.over text) (s.over text)
  | alt r s => .alt (r.over text) (s.over text)
  | iterate r least most => .iterate (r.over text) least most

namespace Route

/-- Takes a step a fixed number of times; ends early once it changes nothing, since it would never
    change anything then. -/
def times (step : Nat → Nat) : Nat → Nat → Nat
  | 0, places => places
  | n + 1, places =>
    let next := step places
    if next = places then places else times step n next

/-- The places that a step leads to when it is taken at most `rounds` times; ends early once a round
    brings nothing new. -/
def saturate (step : Nat → Nat) : Nat → Nat → Nat
  | 0, places => places
  | rounds + 1, places =>
    let more := places ||| step places
    if more = places then places else saturate step rounds more

/-- The places that a route over a text of `n` characters leads to from a set of places. -/
def reach (n : Nat) : Route → Nat → Nat
  | stay, places => places
  | step starts, places => (places &&& starts) <<< 1
  | check met, places => places &&& met
  | seq r s, places => s.reach n (r.reach n places)
  | alt r s, places => r.reach n places ||| s.reach n places
  | iterate r least most, places =>
    let rounds := match most with
      | none => n + 1
      | some most => most - least
    saturate (r.reach n) rounds (times (r.reach n) least places)

end Route

/-- Whether some part of the text matches. -/
def Regex.isMatch (r : Regex) (text : List Char) : Bool :=
  (r.over text).reach text.length (1 <<< (text.length + 1) - 1) != 0

end Verdict
