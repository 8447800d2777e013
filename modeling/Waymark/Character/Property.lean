import Waymark.Character.Break
import Waymark.Character.Edition
import Waymark.Character.Script
import Waymark.Character.SharedUse

/-!
This module contains the properties of characters by name: categories, scripts, editions, classes of
breaks, and the properties that a character either has or has not.
-/

namespace Waymark
namespace Character

def plainName (name : List Char) : String :=
  let strip (cs : List Char) : List Char :=
    (cs.filter fun c => c ≤ '\x7f' && c != ' ' && c != '_' && c != '-').map Char.toLower
  match name with
  | i :: s :: rest =>
    if i.toLower = 'i' ∧ s.toLower = 's' then
      if strip rest = ['c'] then "isc" else String.ofList (strip rest)
    else
      String.ofList (strip name)
  | _ => String.ofList (strip name)

def categories : List NamedSet :=
  [⟨["any"], .any⟩,
   ⟨["assigned"], assigned⟩,
   ⟨["ascii"], .ascii⟩,
   ⟨["l", "letter"], letter⟩,
   ⟨["lc", "casedletter"], casedLetter⟩,
   ⟨["lu", "uppercaseletter"], .table uppercaseLetter⟩,
   ⟨["ll", "lowercaseletter"], .table lowercaseLetter⟩,
   ⟨["lt", "titlecaseletter"], .table titlecaseLetter⟩,
   ⟨["lm", "modifierletter"], .table modifierLetter⟩,
   ⟨["lo", "otherletter"], .table otherLetter⟩,
   ⟨["m", "mark", "combiningmark"], mark⟩,
   ⟨["mn", "nonspacingmark"], .table nonspacingMark⟩,
   ⟨["mc", "spacingmark"], .table spacingMark⟩,
   ⟨["me", "enclosingmark"], .table enclosingMark⟩,
   ⟨["n", "number"], number⟩,
   ⟨["nd", "digit", "decimalnumber"], .table decimalNumber⟩,
   ⟨["nl", "letternumber"], .table letterNumber⟩,
   ⟨["no", "othernumber"], .table otherNumber⟩,
   ⟨["p", "punct", "punctuation"], punctuation⟩,
   ⟨["pc", "connectorpunctuation"], .table connectorPunctuation⟩,
   ⟨["pd", "dashpunctuation"], .table dashPunctuation⟩,
   ⟨["ps", "openpunctuation"], .table openPunctuation⟩,
   ⟨["pe", "closepunctuation"], .table closePunctuation⟩,
   ⟨["pi", "initialpunctuation"], .table initialPunctuation⟩,
   ⟨["pf", "finalpunctuation"], .table finalPunctuation⟩,
   ⟨["po", "otherpunctuation"], .table otherPunctuation⟩,
   ⟨["s", "symbol"], symbol⟩,
   ⟨["sm", "mathsymbol"], .table mathSymbol⟩,
   ⟨["sc", "currencysymbol"], .table currencySymbol⟩,
   ⟨["sk", "modifiersymbol"], .table modifierSymbol⟩,
   ⟨["so", "othersymbol"], .table otherSymbol⟩,
   ⟨["z", "separator"], separator⟩,
   ⟨["zs", "spaceseparator"], .table spaceSeparator⟩,
   ⟨["zl", "lineseparator"], .table lineSeparator⟩,
   ⟨["zp", "paragraphseparator"], .table paragraphSeparator⟩,
   ⟨["c", "other"], other⟩,
   ⟨["cc", "cntrl", "control"], .table control⟩,
   ⟨["cf", "format"], .table format⟩,
   ⟨["co", "privateuse"], .table privateUse⟩,
   ⟨["cn", "unassigned"], .table unassigned⟩]

def properties : List NamedSet :=
  [⟨["ahex", "asciihexdigit"], .table asciiHexDigit⟩,
   ⟨["alpha", "alphabetic"], alphabetic⟩,
   ⟨["bidic", "bidicontrol"], .table bidiControl⟩,
   ⟨["bidim", "bidimirrored"], .table bidiMirrored⟩,
   ⟨["caseignorable", "ci"], caseIgnorable⟩,
   ⟨["cased"], cased⟩,
   ⟨["changeswhencasefolded", "cwcf"], changesFolded⟩,
   ⟨["changeswhencasemapped", "cwcm"], changesMapped⟩,
   ⟨["changeswhenlowercased", "cwl"], changesLowercased⟩,
   ⟨["changeswhentitlecased", "cwt"], changesTitlecased⟩,
   ⟨["changeswhenuppercased", "cwu"], changesUppercased⟩,
   ⟨["dash"], .table dash⟩,
   ⟨["defaultignorablecodepoint", "di"], defaultIgnorable⟩,
   ⟨["dep", "deprecated"], .table deprecated⟩,
   ⟨["dia", "diacritic"], .table diacritic⟩,
   ⟨["emoji"], .table emoji⟩,
   ⟨["ecomp", "emojicomponent"], .table emojiComponent⟩,
   ⟨["emod", "emojimodifier"], .table emojiModifier⟩,
   ⟨["ebase", "emojimodifierbase"], .table emojiModifierBase⟩,
   ⟨["emojipresentation", "epres"], .table emojiPresentation⟩,
   ⟨["extendedpictographic", "extpict"], .table extendedPictographic⟩,
   ⟨["ext", "extender"], .table extender⟩,
   ⟨["graphemebase", "grbase"], graphemeBase⟩,
   ⟨["graphemeextend", "grext"], graphemeExtend⟩,
   ⟨["graphemelink", "grlink"], .table graphemeLink⟩,
   ⟨["hex", "hexdigit"], .table hexDigit⟩,
   ⟨["hyphen"], .table hyphen⟩,
   ⟨["idsb", "idsbinaryoperator"], .table idsBinaryOperator⟩,
   ⟨["idst", "idstrinaryoperator"], .table idsTrinaryOperator⟩,
   ⟨["idsu", "idsunaryoperator"], .table idsUnaryOperator⟩,
   ⟨["idcompatmathcontinue"], .table idCompatMathContinue⟩,
   ⟨["idcompatmathstart"], .table idCompatMathStart⟩,
   ⟨["idc", "idcontinue"], idContinue⟩,
   ⟨["ids", "idstart"], idStart⟩,
   ⟨["ideo", "ideographic"], .table ideographic⟩,
   ⟨["joinc", "joincontrol"], .table joinControl⟩,
   ⟨["loe", "logicalorderexception"], .table logicalOrderException⟩,
   ⟨["lower", "lowercase"], lowercase⟩,
   ⟨["math"], math⟩,
   ⟨["mcm", "modifiercombiningmark"], .table modifierCombiningMark⟩,
   ⟨["nchar", "noncharactercodepoint"], .table noncharacter⟩,
   ⟨["oalpha", "otheralphabetic"], .table otherAlphabetic⟩,
   ⟨["odi", "otherdefaultignorablecodepoint"], .table otherDefaultIgnorable⟩,
   ⟨["ogrext", "othergraphemeextend"], .table otherGraphemeExtend⟩,
   ⟨["oidc", "otheridcontinue"], .table otherIdContinue⟩,
   ⟨["oids", "otheridstart"], .table otherIdStart⟩,
   ⟨["olower", "otherlowercase"], .table otherLowercase⟩,
   ⟨["omath", "othermath"], .table otherMath⟩,
   ⟨["otheruppercase", "oupper"], .table otherUppercase⟩,
   ⟨["patsyn", "patternsyntax"], .table patternSyntax⟩,
   ⟨["patternwhitespace", "patws"], .table patternWhiteSpace⟩,
   ⟨["pcm", "prependedconcatenationmark"], .table prependedConcatenationMark⟩,
   ⟨["qmark", "quotationmark"], .table quotationMark⟩,
   ⟨["radical"], .table radical⟩,
   ⟨["regionalindicator", "ri"], .table regionalIndicator⟩,
   ⟨["sentenceterminal", "sterm"], .table sentenceTerminal⟩,
   ⟨["sd", "softdotted"], .table softDotted⟩,
   ⟨["term", "terminalpunctuation"], .table terminalPunctuation⟩,
   ⟨["uideo", "unifiedideograph"], .table unifiedIdeograph⟩,
   ⟨["upper", "uppercase"], uppercase⟩,
   ⟨["variationselector", "vs"], .table variationSelector⟩,
   ⟨["space", "whitespace", "wspace"], blank⟩,
   ⟨["xidc", "xidcontinue"], xidContinue⟩,
   ⟨["xids", "xidstart"], xidStart⟩]

def script? (name : String) : Option CharSet :=
  (scripts.find? fun script => script.names.contains name).map fun script => .table script.ranges

def scriptUse? (name : String) : Option CharSet := do
  let script ← scripts.find? fun script => script.names.contains name
  let (own, others) := sharedUses.partition fun shared => script.names.any shared.scripts.contains
  let all (uses : List SharedUse) : CharSet :=
    .unionAll (uses.map fun shared => .table shared.ranges)
  return .union (.diff (.table script.ranges) (all others)) (all own)

def assignedBy? (name : String) : Option CharSet :=
  let later := editions.dropWhile fun edition => !edition.names.contains name
  if later.isEmpty then
    none
  else
    let upTo := editions.take (editions.length - later.length + 1)
    some (.unionAll (upTo.map fun edition => .table edition.ranges))

def named? (name : List Char) : Option CharSet :=
  let name := plainName name
  NamedSet.find? properties name <|> NamedSet.find? categories name <|> script? name

def valued? (property value : List Char) : Option CharSet :=
  let value := plainName value
  match plainName property with
  | "gc" | "generalcategory" => NamedSet.find? categories value
  | "sc" | "script" => script? value
  | "scx" | "scriptextensions" => scriptUse? value
  | "age" => assignedBy? value
  | "gcb" | "graphemeclusterbreak" => NamedSet.find? graphemeBreaks value
  | "wb" | "wordbreak" => NamedSet.find? wordBreaks value
  | "sb" | "sentencebreak" => NamedSet.find? sentenceBreaks value
  | _ => none

end Character
end Waymark
