import LiterateSite.Pattern.CharSet
import LiterateSite.Text.Age
import LiterateSite.Text.Boundary
import LiterateSite.Text.Property
import LiterateSite.Text.ScriptExtension

/-!
# Named character properties

The sets that a pattern may ask for by the name of a Unicode property or of an ASCII class.
Names are compared without regard to case, spaces, hyphens and low lines.

* `CharSet.property?`: a general category, a script or a binary property, or a value of one of the
  properties that have values.
* `CharSet.asciiClass?`: one of the classes written between `[:` and `:]`.
-/

namespace LiterateSite.CharSet

open Text

/-- A property name as it is compared: lower case, without separators and a leading `is`. Only the
name `isc` keeps it. -/
def normalName (name : List Char) : String :=
  let plain := fun (text : List Char) =>
    (text.filter fun c => c.toNat < 128 && !(c == ' ' || c == '-' || c == '_')).map Char.toLower
  match name with
  | i :: s :: rest =>
    if i.toLower == 'i' && s.toLower == 's' then
      if plain rest == ['c'] then "isc" else String.ofList (plain rest)
    else String.ofList (plain name)
  | _ => String.ofList (plain name)

/-! ## General categories -/

/-- The names of the general categories, in groups and alone. -/
def categoryNames : List (List String × List Category) :=
  [(["c", "other"], [.cc, .cf, .cn, .co, .cs]),
   (["cc", "control", "cntrl"], [.cc]), (["cf", "format"], [.cf]),
   (["cn", "unassigned"], [.cn]), (["co", "privateuse"], [.co]),
   (["l", "letter"], [.lu, .ll, .lt, .lm, .lo]), (["lc", "casedletter"], [.lu, .ll, .lt]),
   (["ll", "lowercaseletter"], [.ll]), (["lm", "modifierletter"], [.lm]),
   (["lo", "otherletter"], [.lo]), (["lt", "titlecaseletter"], [.lt]),
   (["lu", "uppercaseletter"], [.lu]),
   (["m", "mark", "combiningmark"], [.mn, .mc, .me]), (["mc", "spacingmark"], [.mc]),
   (["me", "enclosingmark"], [.me]), (["mn", "nonspacingmark"], [.mn]),
   (["n", "number"], [.nd, .nl, .no]), (["nd", "decimalnumber", "digit"], [.nd]),
   (["nl", "letternumber"], [.nl]), (["no", "othernumber"], [.no]),
   (["p", "punctuation", "punct"], [.pc, .pd, .ps, .pe, .pi, .pf, .po]),
   (["pc", "connectorpunctuation"], [.pc]), (["pd", "dashpunctuation"], [.pd]),
   (["pe", "closepunctuation"], [.pe]), (["pf", "finalpunctuation"], [.pf]),
   (["pi", "initialpunctuation"], [.pi]), (["po", "otherpunctuation"], [.po]),
   (["ps", "openpunctuation"], [.ps]),
   (["s", "symbol"], [.sm, .sc, .sk, .so]), (["sc", "currencysymbol"], [.sc]),
   (["sk", "modifiersymbol"], [.sk]), (["sm", "mathsymbol"], [.sm]),
   (["so", "othersymbol"], [.so]),
   (["z", "separator"], [.zs, .zl, .zp]), (["zl", "lineseparator"], [.zl]),
   (["zp", "paragraphseparator"], [.zp]), (["zs", "spaceseparator"], [.zs])]

/-- The union of the categories. -/
def ofCategories (categories : List Category) : CharSet := unionAll (categories.map .category)

/-- The set of a general category, or of a group of them. -/
def categorySet? (name : String) : Option CharSet :=
  if name == "any" then some .anything
  else if name == "ascii" then some (.range '\x00' '\x7F')
  else if name == "assigned" then some (.compl (.category .cn))
  else (categoryNames.find? fun (names, _) => names.contains name).map fun (_, k) => ofCategories k

/-! ## Scripts -/

/-- The set of a script. -/
def scriptSet? (name : String) : Option CharSet := (scriptName? name).map .script

/-- The characters used with a script: those whose list of scripts has it. -/
def scriptExtensionSet? (name : String) : Option CharSet :=
  (scriptName? name).map fun full =>
    .union (.diff (.script full) (.table (sharedRuns fun _ => true)))
      (.table (sharedRuns fun names => names.contains full))

/-! ## Binary properties -/

/-- The characters with code points from `first` to `last`. -/
def codes (first last : Nat) : CharSet := .table [(first, last)]

/-- Letters of every kind. -/
def letter : CharSet := ofCategories [.lu, .ll, .lt, .lm, .lo]

def uppercase : CharSet := .union (.category .lu) (.table otherUpperRuns)

def lowercase : CharSet :=
  .union (.category .ll) (.diff (.table casedRuns) (.table otherUpperRuns))

def cased : CharSet := unionAll [uppercase, lowercase, .category .lt]

def alphabetic : CharSet :=
  unionAll [letter, .category .nl, .table Property.otherAlphabetic]

def graphemeExtend : CharSet :=
  unionAll [.category .mn, .category .me, .table Property.otherGraphemeExtend]

def emojiModifier : CharSet := codes 0x1F3FB 0x1F3FF

def joinControl : CharSet := .range '\u200C' '\u200D'

def patternBlank : CharSet :=
  unionAll [.range '\t' '\r', single ' ', single '\u0085', .range '\u200E' '\u200F',
    .range '\u2028' '\u2029']

def caseIgnorable : CharSet :=
  .union (ofCategories [.mn, .me, .cf, .lm, .sk]) (.table (midWord.map fun n => (n, n)))

def idStart : CharSet :=
  .diff (unionAll [letter, .category .nl, .table Property.otherIdStart])
    (.union (.table Property.patternSyntax) patternBlank)

def idContinue : CharSet :=
  unionAll [idStart, ofCategories [.mn, .mc, .nd, .pc], .table Property.otherIdContinue]

def defaultIgnorable : CharSet :=
  .diff
    (unionAll [.category .cf, .table Property.variationSelector,
      .table Property.otherDefaultIgnorable])
    (unionAll [.range '\uFFF9' '\uFFFB', codes 0x13430 0x13440,
      .table Property.prependedMark])

/-- The letters of two characters drawn as one, which have a title case of their own. -/
def digraphUpper : CharSet := oneOf "\u01C4\u01C7\u01CA\u01F1"

/-- Characters that have an upper case and are their own title case. -/
def ownTitle : CharSet :=
  unionAll [oneOf "\u01C5\u01C8\u01CB\u01F2\u1FBC\u1FCC\u1FFC", .range '\u10D0' '\u10FA',
    .range '\u10FD' '\u10FF', .range '\u1F88' '\u1F8F', .range '\u1F98' '\u1F9F',
    .range '\u1FA8' '\u1FAF']

def changesWhenUppercased : CharSet := .table Runs.changedByUpper

def changesWhenLowercased : CharSet := .table Runs.changedByLower

def changesWhenTitlecased : CharSet := .union (.diff changesWhenUppercased ownTitle) digraphUpper

/-- Lower-case characters that fold to something else than themselves. -/
def foldedLower : CharSet :=
  .table
    [(0xB5, 0xB5), (0xDF, 0xDF), (0x149, 0x149), (0x17F, 0x17F), (0x345, 0x345), (0x3C2, 0x3C2),
     (0x3D0, 0x3D1), (0x3D5, 0x3D6), (0x3F0, 0x3F1), (0x3F5, 0x3F5), (0x587, 0x587),
     (0x13F8, 0x13FD), (0x1C80, 0x1C88), (0x1E9A, 0x1E9B), (0x1F80, 0x1F87), (0x1F90, 0x1F97),
     (0x1FA0, 0x1FA7), (0x1FB2, 0x1FB4), (0x1FB7, 0x1FB7), (0x1FC2, 0x1FC4), (0x1FC7, 0x1FC7),
     (0x1FF2, 0x1FF4), (0x1FF7, 0x1FF7), (0xAB70, 0xABBF), (0xFB00, 0xFB06), (0xFB13, 0xFB17)]

/-- Lower case goes to upper case in Cherokee, so its upper case folds to itself. -/
def changesWhenCasefolded : CharSet :=
  .union (.diff changesWhenLowercased (.range '\u13A0' '\u13F5')) foldedLower

/-- The binary properties, each with its names. -/
def binaryProperties : List (List String × CharSet) :=
  [(["asciihexdigit", "ahex"], unionAll [.range '0' '9', .range 'A' 'F', .range 'a' 'f']),
   (["alphabetic", "alpha"], alphabetic),
   (["bidicontrol", "bidic"],
     unionAll [single '\u061C', .range '\u200E' '\u200F', .range '\u202A' '\u202E',
       .range '\u2066' '\u2069']),
   (["bidimirrored", "bidim"], .table Property.bidiMirrored),
   (["caseignorable", "ci"], caseIgnorable),
   (["cased"], cased),
   (["changeswhencasefolded", "cwcf"], changesWhenCasefolded),
   (["changeswhencasemapped", "cwcm"],
     unionAll [changesWhenLowercased, changesWhenUppercased, changesWhenTitlecased]),
   (["changeswhenlowercased", "cwl"], changesWhenLowercased),
   (["changeswhentitlecased", "cwt"], changesWhenTitlecased),
   (["changeswhenuppercased", "cwu"], changesWhenUppercased),
   (["dash"], .table Property.dash),
   (["defaultignorablecodepoint", "di"], defaultIgnorable),
   (["deprecated", "dep"], .table Property.deprecated),
   (["diacritic", "dia"], .table Property.diacritic),
   (["emoji"], .table Property.emoji),
   (["emojicomponent", "ecomp"], .table Property.emojiComponent),
   (["emojimodifier", "emod"], emojiModifier),
   (["emojimodifierbase", "ebase"], .table Property.emojiModifierBase),
   (["emojipresentation", "epres"], .table Property.emojiPresentation),
   (["extendedpictographic", "extpict"], .table Property.extendedPictographic),
   (["extender", "ext"], .table Property.extender),
   (["graphemebase", "grbase"],
     .compl (.union (ofCategories [.cc, .cf, .cs, .co, .cn, .zl, .zp]) graphemeExtend)),
   (["graphemeextend", "grext"], graphemeExtend),
   (["graphemelink", "grlink"], .table Property.graphemeLink),
   (["hexdigit", "hex"],
     unionAll [.range '0' '9', .range 'A' 'F', .range 'a' 'f', .range '\uFF10' '\uFF19',
       .range '\uFF21' '\uFF26', .range '\uFF41' '\uFF46']),
   (["hyphen"], .table Property.hyphen),
   (["idcompatmathcontinue"],
     .union (.table Property.idCompatMathStart) (.table Property.scriptedDigits)),
   (["idcompatmathstart"], .table Property.idCompatMathStart),
   (["idcontinue", "idc"], idContinue),
   (["idstart", "ids"], idStart),
   (["ideographic", "ideo"], .table Property.ideographic),
   (["idsbinaryoperator", "idsb"],
     unionAll [.range '\u2FF0' '\u2FF1', .range '\u2FF4' '\u2FFD', single '\u31EF']),
   (["idstrinaryoperator", "idst"], .range '\u2FF2' '\u2FF3'),
   (["idsunaryoperator", "idsu"], .range '\u2FFE' '\u2FFF'),
   (["joincontrol", "joinc"], joinControl),
   (["logicalorderexception", "loe"], .table Property.logicalOrderException),
   (["lowercase", "lower"], lowercase),
   (["math"], .union (.category .sm) (.table Property.otherMath)),
   (["modifiercombiningmark", "mcm"], .table Property.modifierCombiningMark),
   (["noncharactercodepoint", "nchar"], .table Property.noncharacter),
   (["otheralphabetic", "oalpha"], .table Property.otherAlphabetic),
   (["otherdefaultignorablecodepoint", "odi"], .table Property.otherDefaultIgnorable),
   (["othergraphemeextend", "ogrext"], .table Property.otherGraphemeExtend),
   (["otheridcontinue", "oidc"], .diff (.table Property.otherIdContinue) joinControl),
   (["otheridstart", "oids"], .table Property.otherIdStart),
   (["otherlowercase", "olower"], .diff lowercase (.category .ll)),
   (["othermath", "omath"], .table Property.otherMath),
   (["otheruppercase", "oupper"], .table otherUpperRuns),
   (["patternsyntax", "patsyn"], .table Property.patternSyntax),
   (["patternwhitespace", "patws"], patternBlank),
   (["prependedconcatenationmark", "pcm"], .table Property.prependedMark),
   (["quotationmark", "qmark"], .table Property.quotationMark),
   (["radical"], .table Property.radical),
   (["regionalindicator", "ri"], codes 0x1F1E6 0x1F1FF),
   (["sentenceterminal", "sterm"], .table Property.sentenceTerminal),
   (["softdotted", "sd"], .table Property.softDotted),
   (["terminalpunctuation", "term"], .table Property.terminalPunctuation),
   (["unifiedideograph", "uideo"], .table Property.unifiedIdeograph),
   (["uppercase", "upper"], uppercase),
   (["variationselector", "vs"], .table Property.variationSelector),
   (["whitespace", "wspace", "space"], .blank),
   (["xidcontinue", "xidc"], .diff idContinue (.table Property.notXidContinue)),
   (["xidstart", "xids"], .diff idStart (.table Property.notXidStart))]

/-- The set of a binary property. -/
def binarySet? (name : String) : Option CharSet :=
  (binaryProperties.find? fun (names, _) => names.contains name).map (·.2)

/-! ## Boundaries of characters, words and sentences -/

/-- The syllables of Hangul that end in a vowel: every twenty-eighth. -/
def openSyllable : CharSet :=
  .table ((List.range 399).map fun i => (0xAC00 + 28 * i, 0xAC00 + 28 * i))

def prepend : CharSet := .union (.table Property.prependedMark) (.table Boundary.prepending)

/-- Marks that extend a character, with the skin tones. -/
def extending : CharSet := .union graphemeExtend emojiModifier

/-- Marks of every kind, with the skin tones. -/
def marking : CharSet := .union extending (.category .mc)

/-- The values of the property that tells where characters as seen end. -/
def graphemeBreaks : List (List String × CharSet) :=
  [(["cr"], single '\r'), (["lf"], single '\n'),
   (["control", "cn"],
     .diff
       (unionAll [ofCategories [.zl, .zp, .cc, .cf], .inter (.category .cn) defaultIgnorable])
       (unionAll [single '\r', single '\n', joinControl, .table Property.prependedMark, extending])),
   (["extend", "ex"], extending),
   (["prepend", "pp"], prepend),
   (["spacingmark", "sm"],
     .diff (.union (.category .mc) (oneOf "\u0E33\u0EB3"))
       (.union extending (.table Boundary.notSpacingMark))),
   (["l"], .union (.range '\u1100' '\u115F') (.range '\uA960' '\uA97C')),
   (["v"],
     unionAll [.range '\u1160' '\u11A7', .range '\uD7B0' '\uD7C6', codes 0x16D63 0x16D63,
       codes 0x16D67 0x16D6A]),
   (["t"], .union (.range '\u11A8' '\u11FF') (.range '\uD7CB' '\uD7FB')),
   (["lv"], openSyllable), (["lvt"], .diff (.range '\uAC00' '\uD7A3') openSyllable),
   (["regionalindicator", "ri"], codes 0x1F1E6 0x1F1FF),
   (["zwj"], single '\u200D')]

/-- Format controls that do not join or part words. -/
def wordFormat : CharSet :=
  .diff (.category .cf)
    (.union (.range '\u200B' '\u200D') (codes 0xE0020 0xE007F))

def hebrewLetter : CharSet := .inter (.script "hebrew") (.category .lo)

def katakana : CharSet := .union (.script "katakana") (.table Boundary.katakanaLike)

def numeric : CharSet := .union (.category .nd) (single '\u066B')

/-- The values of the property that tells where words end. -/
def wordBreaks : List (List String × CharSet) :=
  [(["cr"], single '\r'), (["lf"], single '\n'),
   (["newline", "nl"], unionAll [.range '\x0B' '\x0C', single '\u0085', .range '\u2028' '\u2029']),
   (["doublequote", "dq"], single '"'), (["singlequote", "sq"], single '\''),
   (["hebrewletter", "hl"], hebrewLetter),
   (["extend"], marking),
   (["format", "fo"], wordFormat),
   (["katakana", "ka"], katakana),
   (["aletter", "le"],
     .union (.table Boundary.letterLike)
       (.diff alphabetic
         (unionAll [.table Property.ideographic, katakana, .script "hiragana", hebrewLetter,
           marking, .table Boundary.unspacedLetter]))),
   (["midletter", "ml"], .table Boundary.midLetter),
   (["midnum", "mn"], .table Boundary.midNumber),
   (["midnumlet", "mb"], .table Boundary.midNumberLetter),
   (["numeric", "nu"], numeric),
   (["extendnumlet", "ex"], .union (.category .pc) (single '\u202F')),
   (["regionalindicator", "ri"], codes 0x1F1E6 0x1F1FF),
   (["wsegspace"],
     .diff (.category .zs) (oneOf "\u00A0\u2007\u202F")),
   (["zwj"], single '\u200D')]

/-- Lower-case Georgian, whose capitals are not used in sentences. -/
def georgian : CharSet :=
  unionAll [.range '\u10D0' '\u10FA', .range '\u10FD' '\u10FF', .range '\u1C90' '\u1CBA',
    .range '\u1CBD' '\u1CBF']

/-- Upper case as sentences begin with it. -/
def sentenceUpper : CharSet := .diff (.union (.category .lt) uppercase) georgian

/-- Lower case as sentences go on with it. -/
def sentenceLower : CharSet := .diff lowercase (.union graphemeExtend georgian)

/-- The marks of sentences: no skin tones, but the joiner. -/
def sentenceExtend : CharSet := unionAll [graphemeExtend, .category .mc, single '\u200D']

/-- The values of the property that tells where sentences end. -/
def sentenceBreaks : List (List String × CharSet) :=
  [(["cr"], single '\r'), (["lf"], single '\n'),
   (["sep", "se"], .union (single '\u0085') (.range '\u2028' '\u2029')),
   (["sp"], .diff .blank (unionAll [single '\n', single '\r', single '\u0085',
     .range '\u2028' '\u2029'])),
   (["extend", "ex"], sentenceExtend),
   (["format", "fo"],
     .diff (.category .cf) (.union joinControl (codes 0xE0020 0xE007F))),
   (["upper", "up"], sentenceUpper), (["lower", "lo"], sentenceLower),
   (["oletter", "le"],
     .diff (unionAll [alphabetic, single '\u05F3', georgian])
       (unionAll [sentenceUpper, sentenceLower, sentenceExtend])),
   (["numeric", "nu"], .union numeric (single '\u066C')),
   (["aterm", "at"], .table Boundary.fullStop),
   (["sterm", "st"], .diff (.table Property.sentenceTerminal) (.table Boundary.fullStop)),
   (["close", "cl"], .union (ofCategories [.ps, .pe, .pi, .pf]) (.table Boundary.otherClosing)),
   (["scontinue", "sc"], .table Boundary.continuing)]

/-- The value of a property by its name. -/
def valueSet? (values : List (List String × CharSet)) (name : String) : Option CharSet :=
  (values.find? fun (names, _) => names.contains name).map (·.2)

/-- The characters that the standard had in a version, written `6.0` or `V6_0`. -/
def ageSet? (name : String) : Option CharSet :=
  let known := Age.versions.find? fun (version, _) =>
    name == version || name == "v" ++ String.ofList (version.toList.filter (· != '.'))
  known.bind fun (version, _) => (Age.until? version).map .table

/-! ## Properties by name -/

/-- The set of a property with a value. -/
def valuedSet? (key value : String) : Option CharSet :=
  match key with
  | "generalcategory" | "gc" | "category" => categorySet? value
  | "script" | "sc" => scriptSet? value
  | "scriptextensions" | "scx" => scriptExtensionSet? value
  | "age" => ageSet? value
  | "graphemeclusterbreak" | "gcb" => valueSet? graphemeBreaks value
  | "wordbreak" | "wb" => valueSet? wordBreaks value
  | "sentencebreak" | "sb" => valueSet? sentenceBreaks value
  | _ => none

/-- A text before and after the first place where `mark` stands in it. -/
def splitAt? (mark : List Char) : List Char → Option (List Char × List Char)
  | [] => none
  | c :: rest =>
    if mark.isPrefixOf (c :: rest) then some ([], (c :: rest).drop mark.length)
    else (splitAt? mark rest).map fun (before, after) => (c :: before, after)

/-- The set of a property written `name`, `key=value`, `key:value` or `key!=value`. The last form
means the same as the others. -/
def property? (text : List Char) : Option CharSet :=
  match (splitAt? ['!', '='] text).or ((splitAt? [':'] text).or (splitAt? ['='] text)) with
  | some (key, value) => valuedSet? (normalName key) (normalName value)
  | none =>
    let name := normalName text
    -- these short names are categories, although properties have them, too
    match categorySet? name with
    | some set => some set
    | none => (scriptSet? name).or (binarySet? name)

/-! ## ASCII classes -/

def asciiUpper : CharSet := .range 'A' 'Z'
def asciiLower : CharSet := .range 'a' 'z'
def asciiDigit : CharSet := .range '0' '9'
def asciiAlpha : CharSet := .union asciiUpper asciiLower

/-- The ASCII word characters and blanks. -/
def asciiWord : CharSet := unionAll [asciiAlpha, asciiDigit, single '_']
def asciiBlank : CharSet := unionAll [.range '\t' '\r', single ' ']

/-- All ASCII characters. -/
def ascii : CharSet := .range '\x00' '\x7F'

/-- The classes written between `[:` and `:]`. -/
def asciiClass? (name : List Char) : Option CharSet :=
  match String.ofList name with
  | "alnum" => some (.union asciiAlpha asciiDigit)
  | "alpha" => some asciiAlpha
  | "ascii" => some ascii
  | "blank" => some (oneOf "\t ")
  | "cntrl" => some (.union (.range '\x00' '\x1F') (single '\x7F'))
  | "digit" => some asciiDigit
  | "graph" => some (.range '!' '~')
  | "lower" => some asciiLower
  | "print" => some (.range ' ' '~')
  | "punct" =>
    some (unionAll [.range '!' '/', .range ':' '@', .range '[' '\x60', .range '\x7B' '~'])
  | "space" => some asciiBlank
  | "upper" => some asciiUpper
  | "word" => some asciiWord
  | "xdigit" => some (unionAll [asciiDigit, .range 'A' 'F', .range 'a' 'f'])
  | _ => none

end LiterateSite.CharSet
