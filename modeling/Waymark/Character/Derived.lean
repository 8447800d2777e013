import Waymark.Character.CharSet
import Waymark.Character.Contributory
import Waymark.Character.Letter
import Waymark.Character.Mark
import Waymark.Character.Number
import Waymark.Character.Punctuation
import Waymark.Character.Role
import Waymark.Character.Separator
import Waymark.Character.Symbol
import Waymark.Text.Blank

/-!
This module contains the properties of characters that are made from their categories and from a few
tables: the major categories, case, and the parts that characters play in words, in identifiers and
in graphemes.
-/

namespace Waymark
namespace Character

def letter : CharSet :=
  .unionAll [.table lowercaseLetter, .table uppercaseLetter, .table titlecaseLetter,
    .table modifierLetter, .table otherLetter]

def casedLetter : CharSet :=
  .unionAll [.table lowercaseLetter, .table uppercaseLetter, .table titlecaseLetter]

def mark : CharSet :=
  .unionAll [.table nonspacingMark, .table spacingMark, .table enclosingMark]

def number : CharSet :=
  .unionAll [.table decimalNumber, .table letterNumber, .table otherNumber]

def punctuation : CharSet :=
  .unionAll [.table connectorPunctuation, .table dashPunctuation, .table openPunctuation,
    .table closePunctuation, .table initialPunctuation, .table finalPunctuation,
    .table otherPunctuation]

def symbol : CharSet :=
  .unionAll [.table mathSymbol, .table currencySymbol, .table modifierSymbol, .table otherSymbol]

def separator : CharSet :=
  .unionAll [.table spaceSeparator, .table lineSeparator, .table paragraphSeparator]

def other : CharSet :=
  .unionAll [.table control, .table format, .table privateUse, .table unassigned]

def assigned : CharSet :=
  .compl (.table unassigned)

def digit : CharSet :=
  .table decimalNumber

def blank : CharSet :=
  .table Text.blankRanges

def lowercase : CharSet :=
  .union (.table lowercaseLetter) (.table otherLowercase)

def uppercase : CharSet :=
  .union (.table uppercaseLetter) (.table otherUppercase)

def cased : CharSet :=
  .unionAll [lowercase, uppercase, .table titlecaseLetter]

def alphabetic : CharSet :=
  .unionAll [lowercase, uppercase, .table titlecaseLetter, .table modifierLetter,
    .table otherLetter, .table letterNumber, .table otherAlphabetic]

def word : CharSet :=
  .unionAll [alphabetic, mark, digit, .table connectorPunctuation, .table joinControl]

def math : CharSet :=
  .union (.table mathSymbol) (.table otherMath)

def idStart : CharSet :=
  .diff (.unionAll [letter, .table letterNumber, .table otherIdStart])
    (.union (.table patternSyntax) (.table patternWhiteSpace))

def idContinue : CharSet :=
  .diff
    (.unionAll [idStart, .table nonspacingMark, .table spacingMark, .table decimalNumber,
      .table connectorPunctuation, .table otherIdContinue])
    (.union (.table patternSyntax) (.table patternWhiteSpace))

def decomposedInside : Ranges :=
  -- Their compatible form does not begin an identifier, though it may stand inside one.
  [(0xe33, 0xe33), (0xeb3, 0xeb3), (0xff9e, 0xff9f)]

def decomposedOutside : Ranges :=
  -- Their compatible form is no part of an identifier.
  [(0x37a, 0x37a), (0x309b, 0x309c), (0xfc5e, 0xfc63), (0xfdfa, 0xfdfb), (0xfe70, 0xfe70),
   (0xfe72, 0xfe72), (0xfe74, 0xfe74), (0xfe76, 0xfe76), (0xfe78, 0xfe78), (0xfe7a, 0xfe7a),
   (0xfe7c, 0xfe7c), (0xfe7e, 0xfe7e)]

def xidStart : CharSet :=
  .diff idStart (.union (.table decomposedInside) (.table decomposedOutside))

def xidContinue : CharSet :=
  .diff idContinue (.table decomposedOutside)

def shownFormat : Ranges :=
  [(0xfff9, 0xfffb), (0x13430, 0x13440)]

def defaultIgnorable : CharSet :=
  .diff
    (.unionAll [.table otherDefaultIgnorable, .table format, .table variationSelector])
    (.unionAll [blank, .table shownFormat, .table prependedConcatenationMark])

def graphemeExtend : CharSet :=
  .unionAll [.table nonspacingMark, .table enclosingMark, .table otherGraphemeExtend]

def graphemeBase : CharSet :=
  .compl (.unionAll [other, .table lineSeparator, .table paragraphSeparator, graphemeExtend])

def midLetter : Ranges :=
  [(0x3a, 0x3a), (0xb7, 0xb7), (0x387, 0x387), (0x55f, 0x55f), (0x5f4, 0x5f4), (0x2027, 0x2027),
   (0xfe13, 0xfe13), (0xfe55, 0xfe55), (0xff1a, 0xff1a)]

def midNumLet : Ranges :=
  [(0x2e, 0x2e), (0x2018, 0x2019), (0x2024, 0x2024), (0xfe52, 0xfe52), (0xff07, 0xff07),
   (0xff0e, 0xff0e)]

def caseIgnorable : CharSet :=
  .unionAll [.table nonspacingMark, .table enclosingMark, .table format, .table modifierLetter,
    .table modifierSymbol, .table midLetter, .table midNumLet, .single '\'']

def specialUppercase : Ranges :=
  -- Upper case changes them into several, or into one that lower case changes elsewhere.
  [(0x131, 0x131), (0x149, 0x149), (0x1f0, 0x1f0), (0x390, 0x390), (0x3b0, 0x3b0), (0x587, 0x587),
   (0x1e96, 0x1e9a), (0x1f50, 0x1f50), (0x1f52, 0x1f52), (0x1f54, 0x1f54), (0x1f56, 0x1f56),
   (0x1fb2, 0x1fb2), (0x1fb4, 0x1fb4), (0x1fb6, 0x1fb7), (0x1fc2, 0x1fc2), (0x1fc4, 0x1fc4),
   (0x1fc6, 0x1fc7), (0x1fd2, 0x1fd3), (0x1fd6, 0x1fd7), (0x1fe2, 0x1fe4), (0x1fe6, 0x1fe7),
   (0x1ff2, 0x1ff2), (0x1ff4, 0x1ff4), (0x1ff6, 0x1ff7), (0xfb00, 0xfb06), (0xfb13, 0xfb17)]

def specialFolding : Ranges :=
  -- Folding changes them although they are in lower case.
  [(0xb5, 0xb5), (0xdf, 0xdf), (0x130, 0x130), (0x149, 0x149), (0x17f, 0x17f), (0x345, 0x345),
   (0x3c2, 0x3c2), (0x3d0, 0x3d1), (0x3d5, 0x3d6), (0x3f0, 0x3f1), (0x3f5, 0x3f5), (0x587, 0x587),
   (0x13f8, 0x13fd), (0x1c80, 0x1c88), (0x1e9a, 0x1e9b), (0x1f80, 0x1f87), (0x1f90, 0x1f97),
   (0x1fa0, 0x1fa7), (0x1fb2, 0x1fb4), (0x1fb7, 0x1fb7), (0x1fc2, 0x1fc4), (0x1fc7, 0x1fc7),
   (0x1ff2, 0x1ff4), (0x1ff7, 0x1ff7), (0xab70, 0xabbf), (0xfb00, 0xfb06), (0xfb13, 0xfb17)]

def georgian : Ranges :=
  -- They have a counterpart in upper case but no title case.
  [(0x10d0, 0x10fa), (0x10fd, 0x10ff)]

def lowered : CharSet :=
  .inter (.union uppercase (.table titlecaseLetter)) (.foldCase lowercase)

def changesLowercased : CharSet :=
  .union lowered (.single '\u0130')

def changesUppercased : CharSet :=
  let above := CharSet.union uppercase (.table titlecaseLetter)
  .union
    (.inter (.union lowercase (.table titlecaseLetter)) (.foldCase above))
    (.table specialUppercase)

def changesTitlecased : CharSet :=
  let above := CharSet.union uppercase (.table titlecaseLetter)
  .unionAll [.diff (.inter lowercase (.foldCase above)) (.table georgian),
    .table specialUppercase, .single '\u01c4', .single '\u01c7', .single '\u01ca',
    .single '\u01f1']

def changesFolded : CharSet :=
  .union (.diff lowered (.range '\u13a0' '\u13f5')) (.table specialFolding)

def changesMapped : CharSet :=
  .unionAll [changesLowercased, changesUppercased, changesTitlecased]

end Character
end Waymark
