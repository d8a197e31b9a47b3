/-
  SourceEditor/Unicode/Query.lean
  ===============================
  **Characters by the names of their properties**, as a pattern writes them: a binary property, a
  general category or a script by its name alone, and the properties with many values by name and
  value.  Names are compared without regard to case, spaces, hyphens and underscores.
-/
import SourceEditor.Unicode.Age
import SourceEditor.Unicode.Segmentation

namespace SourceEditor.Unicode

/-- The binary properties: their names in lower case without separators, and the characters that
have them. -/
def binaryProperties : List (List String × CharSet) := [
  (["alphabetic", "alpha"], alphabetic),
  (["asciihexdigit", "ahex"], asciiHexDigit),
  (["bidicontrol", "bidic"], bidiControl),
  (["bidimirrored", "bidim"], bidiMirrored),
  (["cased"], cased),
  (["caseignorable", "ci"], caseIgnorable),
  (["changeswhencasefolded", "cwcf"], changesWhenCasefolded),
  (["changeswhencasemapped", "cwcm"], changesWhenCasemapped),
  (["changeswhenlowercased", "cwl"], changesWhenLowercased),
  (["changeswhentitlecased", "cwt"], changesWhenTitlecased),
  (["changeswhenuppercased", "cwu"], changesWhenUppercased),
  (["dash"], dash),
  (["defaultignorablecodepoint", "di"], defaultIgnorable),
  (["deprecated", "dep"], deprecated),
  (["diacritic", "dia"], diacritic),
  (["emoji"], emoji),
  (["emojicomponent", "ecomp"], emojiComponent),
  (["emojimodifier", "emod"], emojiModifier),
  (["emojimodifierbase", "ebase"], emojiModifierBase),
  (["emojipresentation", "epres"], emojiPresentation),
  (["extendedpictographic", "extpict"], extendedPictographic),
  (["extender", "ext"], extender),
  (["graphemebase", "grbase"], graphemeBase),
  (["graphemeextend", "grext"], graphemeExtend),
  (["graphemelink", "grlink"], graphemeLink),
  (["hexdigit", "hex"], hexDigit),
  (["hyphen"], hyphen),
  (["idcompatmathcontinue"], idCompatMathContinue),
  (["idcompatmathstart"], idCompatMathStart),
  (["idcontinue", "idc"], idContinue),
  (["idsbinaryoperator", "idsb"], ideographBinaryOperator),
  (["ideographic", "ideo"], ideographic),
  (["idstrinaryoperator", "idst"], ideographTernaryOperator),
  (["idsunaryoperator", "idsu"], ideographUnaryOperator),
  (["idstart", "ids"], idStart),
  (["joincontrol", "joinc"], joinControl),
  (["logicalorderexception", "loe"], logicalOrderException),
  (["lowercase", "lower"], lowercase),
  (["math"], math),
  (["modifiercombiningmark", "mcm"], modifierCombiningMark),
  (["noncharactercodepoint", "nchar"], noncharacter),
  (["otheralphabetic", "oalpha"], otherAlphabetic),
  (["otherdefaultignorablecodepoint", "odi"], otherDefaultIgnorable),
  (["othergraphemeextend", "ogrext"], otherGraphemeExtend),
  (["otheridcontinue", "oidc"], otherIdContinue),
  (["otheridstart", "oids"], otherIdStart),
  (["otherlowercase", "olower"], otherLowercase),
  (["othermath", "omath"], otherMath),
  (["otheruppercase", "oupper"], otherUppercase),
  (["patternsyntax", "patsyn"], patternSyntax),
  (["patternwhitespace", "patws"], patternWhiteSpace),
  (["prependedconcatenationmark", "pcm"], prependedConcatenationMark),
  (["quotationmark", "qmark"], quotationMark),
  (["radical"], radical),
  (["regionalindicator", "ri"], regionalIndicator),
  (["sentenceterminal", "sterm"], sentenceTerminal),
  (["softdotted", "sd"], softDotted),
  (["terminalpunctuation", "term"], terminalPunctuation),
  (["unifiedideograph", "uideo"], unifiedIdeograph),
  (["uppercase", "upper"], uppercase),
  (["variationselector", "vs"], variationSelector),
  (["whitespace", "wspace", "space"], whiteSpace),
  (["xidcontinue", "xidc"], xidContinue),
  (["xidstart", "xids"], xidStart)]

/-- The characters with the binary property of this name. -/
def propertyNamed? (name : String) : Option CharSet :=
  (binaryProperties.find? fun p => p.1.contains name).map Prod.snd

/-- A property name in lower case, without spaces, hyphens and underscores, and without a
leading `is`; characters outside ASCII are dropped.  The abbreviation `isc` keeps its `is`, for
`c` alone is another property. -/
def looseName (name : List Char) : String :=
  let (start, rest) := match name with
    | i :: s :: rest =>
      if (i = 'i' ∨ i = 'I') ∧ (s = 's' ∨ s = 'S') then (true, rest) else (false, name)
    | _ => (false, name)
  let kept := (rest.filter fun c => c ≠ ' ' && c ≠ '_' && c ≠ '-' && decide (c.toNat < 128)).map
    Char.toLower
  if start && kept == ['c'] then "isc" else .ofList kept

/-- The characters that a name alone denotes: those with a binary property, a general category or
a script. -/
def charsNamed? (name : List Char) : Option CharSet :=
  let loose := looseName name
  propertyNamed? loose <|> categoryNamed? loose <|> scriptNamed? loose

/-- The characters whose property `name` has the given value. -/
def charsWithValue? (name value : List Char) : Option CharSet :=
  let loose := looseName value
  match looseName name with
  | "gc" | "generalcategory" => categoryNamed? loose
  | "sc" | "script" => scriptNamed? loose
  | "scx" | "scriptextensions" => scriptExtensionNamed? loose
  | "age" => ageNamed? loose
  | "gcb" | "graphemeclusterbreak" => clusterBreakNamed? loose
  | "wb" | "wordbreak" => wordBreakNamed? loose
  | "sb" | "sentencebreak" => sentenceBreakNamed? loose
  | _ => none

end SourceEditor.Unicode
