import EndpointMonitor.Character.Age
import EndpointMonitor.Character.Control
import EndpointMonitor.Character.Emoji
import EndpointMonitor.Character.GraphemeBreak
import EndpointMonitor.Character.Identifier
import EndpointMonitor.Character.Letter
import EndpointMonitor.Character.Punctuation
import EndpointMonitor.Character.ScriptExtension
import EndpointMonitor.Character.SentenceBreak
import EndpointMonitor.Pattern.Syntax

/-!
# Properties of characters by name

A pattern names a set of characters by a property, a general category or a script, or by a
property with one of its values. Names are compared without case and without blanks, dashes and
underscores, and may start with `is`. The tables follow version 16.0 of the Unicode standard.
-/

namespace EndpointMonitor.Pattern.Property

/-- The name that is looked up. The name `isc` is that of a property without a set of its own, and
not a category with an `is` in front of it. -/
def normalName (name : String) : String :=
  let normal (cs : List Char) : List Char :=
    (cs.filter fun c => c ≠ ' ' && c ≠ '-' && c ≠ '_' && c.toNat < 128).map Char.toLower
  match name.toList with
  | i :: s :: rest =>
    if i.toLower = 'i' ∧ s.toLower = 's' then
      if normal rest = ['c'] then "isc" else String.ofList (normal rest)
    else String.ofList (normal (i :: s :: rest))
  | cs => String.ofList (normal cs)

/-- The names of the general categories that differ from their codes. -/
def categoryNames : List (String × String) := [
  ("letter", "L"), ("casedletter", "LC"), ("uppercaseletter", "Lu"), ("lowercaseletter", "Ll"),
  ("titlecaseletter", "Lt"), ("modifierletter", "Lm"), ("otherletter", "Lo"), ("mark", "M"),
  ("combiningmark", "M"), ("nonspacingmark", "Mn"), ("spacingmark", "Mc"), ("enclosingmark", "Me"),
  ("number", "N"), ("decimalnumber", "Nd"), ("digit", "Nd"), ("letternumber", "Nl"),
  ("othernumber", "No"), ("punctuation", "P"), ("punct", "P"), ("connectorpunctuation", "Pc"),
  ("dashpunctuation", "Pd"), ("openpunctuation", "Ps"), ("closepunctuation", "Pe"),
  ("initialpunctuation", "Pi"), ("finalpunctuation", "Pf"), ("otherpunctuation", "Po"),
  ("symbol", "S"), ("mathsymbol", "Sm"), ("currencysymbol", "Sc"), ("modifiersymbol", "Sk"),
  ("othersymbol", "So"), ("separator", "Z"), ("spaceseparator", "Zs"), ("lineseparator", "Zl"),
  ("paragraphseparator", "Zp"), ("other", "C"), ("control", "Cc"), ("cntrl", "Cc"),
  ("format", "Cf"), ("privateuse", "Co"), ("unassigned", "Cn")]

/-- The codes of the general categories and of their groups. The halves of pairs have none, since
they are not characters. -/
def categoryCodes : List String :=
  ["L", "LC", "Lu", "Ll", "Lt", "Lm", "Lo", "M", "Mn", "Mc", "Me", "N", "Nd", "Nl", "No", "P",
    "Pc", "Pd", "Ps", "Pe", "Pi", "Pf", "Po", "S", "Sm", "Sc", "Sk", "So", "Z", "Zs", "Zl", "Zp",
    "C", "Cc", "Cf", "Co", "Cn"]

/-- The characters of a general category or of a group of them, by its code. -/
def categorySet (code : String) : CodeSet :=
  match code.toList with
  | [letter] => Category.ofGroup letter
  | ['L', 'C'] => Category.ofCodes ["Lu", "Ll", "Lt"]
  | _ => Category.ofCodes [code]

/-- The characters of a general category, or all, all that are assigned, or those of ASCII. -/
def category? (name : String) : Option CodeSet :=
  if name = "any" then some .characters
  else if name = "assigned" then some (Category.ofCodes ["Cn"]).compl
  else if name = "ascii" then some .ascii
  else
    let code? := (categoryNames.lookup name) <|>
      categoryCodes.find? fun code => code.map Char.toLower = name
    code?.map categorySet

open Character in
/-- The characters with a property that each character has or has not. -/
def set? : String → Option CodeSet
  | "ahex" | "asciihexdigit" => some asciiHexDigit
  | "alpha" | "alphabetic" => some alphabetic
  | "bidic" | "bidicontrol" => some bidiControl
  | "bidim" | "bidimirrored" => some bidiMirrored
  | "caseignorable" | "ci" => some caseIgnorable
  | "cased" => some cased
  | "changeswhencasefolded" | "cwcf" => some changesWhenCasefolded
  | "changeswhencasemapped" | "cwcm" => some changesWhenCasemapped
  | "changeswhenlowercased" | "cwl" => some changesWhenLowercased
  | "changeswhentitlecased" | "cwt" => some changesWhenTitlecased
  | "changeswhenuppercased" | "cwu" => some changesWhenUppercased
  | "dash" => some dash
  | "defaultignorablecodepoint" | "di" => some defaultIgnorable
  | "dep" | "deprecated" => some deprecated
  | "dia" | "diacritic" => some diacritic
  | "emoji" => some emoji
  | "ecomp" | "emojicomponent" => some emojiComponent
  | "emod" | "emojimodifier" => some emojiModifier
  | "ebase" | "emojimodifierbase" => some emojiModifierBase
  | "emojipresentation" | "epres" => some emojiPresentation
  | "extendedpictographic" | "extpict" => some extendedPictographic
  | "ext" | "extender" => some extender
  | "graphemebase" | "grbase" => some graphemeBase
  | "graphemeextend" | "grext" => some graphemeExtend
  | "graphemelink" | "grlink" => some graphemeLink
  | "hex" | "hexdigit" => some hexDigit
  | "hyphen" => some hyphen
  | "idsb" | "idsbinaryoperator" => some idsBinaryOperator
  | "idst" | "idstrinaryoperator" => some idsTrinaryOperator
  | "idsu" | "idsunaryoperator" => some idsUnaryOperator
  | "idcompatmathcontinue" => some idCompatMathContinue
  | "idcompatmathstart" => some idCompatMathStart
  | "idc" | "idcontinue" => some idContinue
  | "ids" | "idstart" => some idStart
  | "ideo" | "ideographic" => some ideographic
  | "joinc" | "joincontrol" => some joinControl
  | "loe" | "logicalorderexception" => some logicalOrderException
  | "lower" | "lowercase" => some lowercase
  | "math" => some math
  | "mcm" | "modifiercombiningmark" => some modifierCombiningMark
  | "nchar" | "noncharactercodepoint" => some noncharacter
  | "oalpha" | "otheralphabetic" => some otherAlphabetic
  | "odi" | "otherdefaultignorablecodepoint" => some otherDefaultIgnorable
  | "ogrext" | "othergraphemeextend" => some otherGraphemeExtend
  | "oidc" | "otheridcontinue" => some otherIdContinue
  | "oids" | "otheridstart" => some otherIdStart
  | "olower" | "otherlowercase" => some otherLowercase
  | "omath" | "othermath" => some otherMath
  | "otheruppercase" | "oupper" => some otherUppercase
  | "patsyn" | "patternsyntax" => some patternSyntax
  | "patternwhitespace" | "patws" => some patternWhiteSpace
  | "pcm" | "prependedconcatenationmark" => some prependedConcatenationMark
  | "qmark" | "quotationmark" => some quotationMark
  | "radical" => some radical
  | "regionalindicator" | "ri" => some regionalIndicator
  | "sentenceterminal" | "sterm" => some sentenceTerminal
  | "sd" | "softdotted" => some softDotted
  | "term" | "terminalpunctuation" => some terminalPunctuation
  | "uideo" | "unifiedideograph" => some unifiedIdeograph
  | "upper" | "uppercase" => some uppercase
  | "variationselector" | "vs" => some variationSelector
  | "space" | "whitespace" | "wspace" => some whiteSpace
  | "xidc" | "xidcontinue" => some xidContinue
  | "xids" | "xidstart" => some xidStart
  | _ => none

/-- The characters of a script, or those used with it. -/
def script? (set : String → CodeSet) (name : String) : Option CodeSet :=
  (Script.code? name).map set

/-- The characters with a value of a property. -/
def value? (property value : String) : Option CodeSet :=
  match property with
  | "gc" | "generalcategory" => category? value
  | "sc" | "script" => script? Script.ofCode value
  | "scx" | "scriptextensions" => script? Script.extensions value
  | "age" => (Age.version? value).map Age.upTo
  | "gcb" | "graphemeclusterbreak" => GraphemeBreak.ofName? value
  | "wb" | "wordbreak" => WordBreak.ofName? value
  | "sb" | "sentencebreak" => SentenceBreak.ofName? value
  | _ => none

/-- The characters that a name stands for. -/
def find? : PropertyName → Option CodeSet
  | .set name =>
    let name := normalName name
    set? name <|> category? name <|> script? Script.ofCode name
  | .value property value => value? (normalName property) (normalName value)

end EndpointMonitor.Pattern.Property
