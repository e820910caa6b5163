import Verdict.Unicode.Age
import Verdict.Unicode.Segmentation

/-!
# Names of properties

The names under which an expression can refer to the classes of the character database. Case,
blanks, hyphens and underscores do not count, nor does a leading `is`.

* `normalize`: a name without what does not count;
* `binaryProperties`, `generalCategories`: the classes with their normalized names;
* `classNamed?`: the class of a name alone;
* `classOfValue?`: the class of a value of a named property.
-/

namespace Verdict.Unicode

open GeneralCategory Property

/-- A name without what does not count in it. The abbreviation `isc` stays whole, so that it is not
    taken for the category `c`. -/
def normalize (name : String) : String :=
  let simplify (s : List Char) : List Char :=
    (s.filter fun c => c ≠ ' ' ∧ c ≠ '_' ∧ c ≠ '-' ∧ c.toNat < 0x80).map Char.toLower
  match name.toList with
  | i :: s :: rest =>
    if i.toLower = 'i' ∧ s.toLower = 's' then
      if simplify rest = ['c'] then "isc" else String.ofList (simplify rest)
    else String.ofList (simplify name.toList)
  | short => String.ofList (simplify short)

/-- A class under several normalized names. -/
abbrev NamedClass := List String × CharClass

/-- The class with a normalized name. -/
def findClass? (table : List NamedClass) (name : String) : Option CharClass :=
  (table.find? fun entry => entry.1.contains name).map (·.2)

/-- The yes-or-no properties. -/
def binaryProperties : List NamedClass := [
  (["asciihexdigit", "ahex"], asciiHexDigit),
  (["alphabetic", "alpha"], alphabetic),
  (["bidicontrol", "bidic"], bidiControl),
  (["bidimirrored", "bidim"], bidiMirrored),
  (["caseignorable", "ci"], caseIgnorable),
  (["cased"], cased),
  (["changeswhencasefolded", "cwcf"], changesWhenCasefolded),
  (["changeswhencasemapped", "cwcm"], changesWhenCasemapped),
  (["changeswhenlowercased", "cwl"], changesWhenLowercased),
  (["changeswhentitlecased", "cwt"], changesWhenTitlecased),
  (["changeswhenuppercased", "cwu"], changesWhenUppercased),
  (["dash"], dash),
  (["defaultignorablecodepoint", "di"], defaultIgnorable),
  (["deprecated", "dep"], deprecated),
  (["diacritic", "dia"], diacritic),
  (["emoji"], emoji),
  (["emojicomponent", "ecomp"], emojiComponent),
  (["emojimodifier", "emod"], emojiModifier),
  (["emojimodifierbase", "ebase"], emojiModifierBase),
  (["emojipresentation", "epres"], emojiPresentation),
  (["extendedpictographic", "extpict"], extendedPictographic),
  (["extender", "ext"], extender),
  (["graphemebase", "grbase"], graphemeBase),
  (["graphemeextend", "grext"], graphemeExtend),
  (["graphemelink", "grlink"], graphemeLink),
  (["hexdigit", "hex"], hexDigit),
  (["hyphen"], hyphen),
  (["idsbinaryoperator", "idsb"], binaryDescription),
  (["idstrinaryoperator", "idst"], ternaryDescription),
  (["idsunaryoperator", "idsu"], unaryDescription),
  (["idcompatmathcontinue"], mathIdentifierContinue),
  (["idcompatmathstart"], mathIdentifierStart),
  (["idcontinue", "idc"], identifierContinue),
  (["idstart", "ids"], identifierStart),
  (["ideographic", "ideo"], ideographic),
  (["joincontrol", "joinc"], joinControl),
  (["logicalorderexception", "loe"], logicalOrderException),
  (["lowercase", "lower"], lowercase),
  (["math"], math),
  (["modifiercombiningmark", "mcm"], modifierCombiningMark),
  (["noncharactercodepoint", "nchar"], noncharacter),
  (["otheralphabetic", "oalpha"], otherAlphabetic),
  (["otherdefaultignorablecodepoint", "odi"], otherDefaultIgnorable),
  (["othergraphemeextend", "ogrext"], otherGraphemeExtend),
  (["otheridcontinue", "oidc"], otherIdentifierContinue),
  (["otheridstart", "oids"], otherIdentifierStart),
  (["otherlowercase", "olower"], otherLowercase),
  (["othermath", "omath"], otherMath),
  (["otheruppercase", "oupper"], otherUppercase),
  (["patternsyntax", "patsyn"], patternPunctuation),
  (["patternwhitespace", "patws"], patternSpace),
  (["prependedconcatenationmark", "pcm"], prependedConcatenationMark),
  (["quotationmark", "qmark"], quotationMark),
  (["radical"], radical),
  (["regionalindicator", "ri"], regionalIndicator),
  (["sentenceterminal", "sterm"], sentenceTerminal),
  (["softdotted", "sd"], softDotted),
  (["terminalpunctuation", "term"], terminalPunctuation),
  (["unifiedideograph", "uideo"], unifiedIdeograph),
  (["uppercase", "upper"], uppercase),
  (["variationselector", "vs"], variationSelector),
  (["whitespace", "wspace", "space"], whiteSpace),
  (["xidcontinue", "xidc"], stableIdentifierContinue),
  (["xidstart", "xids"], stableIdentifierStart)]

/-- The general categories and their groups, without the surrogates, which are no characters. -/
def generalCategories : List NamedClass := [
  (["any"], .all),
  (["assigned"], assigned),
  (["ascii"], .range 0 0x7F),
  (["other", "c"], other),
  (["control", "cc", "cntrl"], control),
  (["format", "cf"], format),
  (["unassigned", "cn"], unassigned),
  (["privateuse", "co"], privateUse),
  (["letter", "l"], letter),
  (["casedletter", "lc"], casedLetter),
  (["lowercaseletter", "ll"], lowercaseLetter),
  (["modifierletter", "lm"], modifierLetter),
  (["otherletter", "lo"], otherLetter),
  (["titlecaseletter", "lt"], titlecaseLetter),
  (["uppercaseletter", "lu"], uppercaseLetter),
  (["mark", "m", "combiningmark"], mark),
  (["spacingmark", "mc"], spacingMark),
  (["enclosingmark", "me"], enclosingMark),
  (["nonspacingmark", "mn"], nonspacingMark),
  (["number", "n"], number),
  (["decimalnumber", "nd", "digit"], decimalNumber),
  (["letternumber", "nl"], letterNumber),
  (["othernumber", "no"], otherNumber),
  (["punctuation", "p", "punct"], punctuation),
  (["connectorpunctuation", "pc"], connectorPunctuation),
  (["dashpunctuation", "pd"], dashPunctuation),
  (["closepunctuation", "pe"], closePunctuation),
  (["finalpunctuation", "pf"], finalPunctuation),
  (["initialpunctuation", "pi"], initialPunctuation),
  (["otherpunctuation", "po"], otherPunctuation),
  (["openpunctuation", "ps"], openPunctuation),
  (["symbol", "s"], symbol),
  (["currencysymbol", "sc"], currencySymbol),
  (["modifiersymbol", "sk"], modifierSymbol),
  (["mathsymbol", "sm"], mathSymbol),
  (["othersymbol", "so"], otherSymbol),
  (["separator", "z"], separator),
  (["lineseparator", "zl"], lineSeparator),
  (["paragraphseparator", "zp"], paragraphSeparator),
  (["spaceseparator", "zs"], spaceSeparator)]

/-- The class with this name: a yes-or-no property, a general category or a script. -/
def classNamed? (name : String) : Option CharClass :=
  let name := normalize name
  findClass? binaryProperties name <|> findClass? generalCategories name <|>
    (Script.find? name).map Script.characters

/-- The characters for which a property has a value. -/
def classOfValue? (property value : String) : Option CharClass :=
  let value := normalize value
  match normalize property with
  | "generalcategory" | "gc" => findClass? generalCategories value
  | "script" | "sc" => (Script.find? value).map Script.characters
  | "scriptextensions" | "scx" => (Script.find? value).map Script.uses
  | "age" => Age.assignedBy? value
  | "graphemeclusterbreak" | "gcb" => findClass? graphemeBreaks value
  | "wordbreak" | "wb" => findClass? wordBreaks value
  | "sentencebreak" | "sb" => findClass? sentenceBreaks value
  | _ => none

end Verdict.Unicode
