import Upkeep.Pattern.Basic
import Upkeep.Text.Category
import Upkeep.Text.Script

/-!
# Properties — sets of characters by name

A property is a general category, a script or a use: `\p{Lu}`, `\p{Greek}`, `\p{Alphabetic}`. In
its name blanks, dashes, underscores, the case of letters and an `is` before it do not count. A
category has a short name and a long one, and the kinds of categories have names as well.
-/

namespace Upkeep.Pattern

/-- The general categories with the short and the long name of each; those of one kind share the
first letter of the short name. -/
def categories : List (String × String × CodeRanges) :=
  [("lu", "uppercaseletter", capitalLetters), ("ll", "lowercaseletter", smallLetters),
   ("lt", "titlecaseletter", titlecaseLetters), ("lm", "modifierletter", modifierLetters),
   ("lo", "otherletter", otherLetters), ("mn", "nonspacingmark", nonspacingMarks),
   ("mc", "spacingmark", spacingMarks), ("me", "enclosingmark", enclosingMarks),
   ("nd", "decimalnumber", decimalNumbers), ("nl", "letternumber", letterNumbers),
   ("no", "othernumber", otherNumbers), ("pc", "connectorpunctuation", connectors),
   ("pd", "dashpunctuation", dashes), ("ps", "openpunctuation", openings),
   ("pe", "closepunctuation", closings), ("pi", "initialpunctuation", initialQuotes),
   ("pf", "finalpunctuation", finalQuotes), ("po", "otherpunctuation", otherPunctuation),
   ("sm", "mathsymbol", mathSymbols), ("sc", "currencysymbol", currencySymbols),
   ("sk", "modifiersymbol", modifierSymbols), ("so", "othersymbol", otherSymbols),
   ("zs", "spaceseparator", spaces), ("zl", "lineseparator", lineSeparators),
   ("zp", "paragraphseparator", paragraphSeparators), ("cc", "control", controls),
   ("cf", "format", formats), ("co", "privateuse", privateCodes)]

/-- The characters of all categories whose short names satisfy `p`. -/
def CharSet.ofCategories (p : String → Bool) : CharSet :=
  .codes ((categories.filter (p ·.1)).foldl (fun all category => all ++ category.2.2) #[])

/-- The characters that some category holds. -/
def CharSet.assigned : CharSet := .ofCategories fun _ => true

/-- The characters of one kind, by the first letter of its categories' short names. -/
def CharSet.ofKind (letter : Char) : CharSet := .ofCategories (·.toList.head? = some letter)

/-- The categories that go by other names, and the kinds of categories. -/
def categoryNamed? (name : String) : Option CharSet :=
  match name with
  | "l" | "letter" => some (.ofKind 'l')
  | "lc" | "casedletter" => some (.ofCategories fun short => ["lu", "ll", "lt"].contains short)
  | "m" | "mark" | "combiningmark" => some (.ofKind 'm')
  | "n" | "number" => some (.ofKind 'n')
  | "p" | "punctuation" | "punct" => some (.ofKind 'p')
  | "s" | "symbol" => some (.ofKind 's')
  | "z" | "separator" => some (.ofKind 'z')
  | "c" | "other" => some (.union (.ofKind 'c') (.compl .assigned))
  | "cn" | "unassigned" => some (.compl .assigned)
  | "cs" | "surrogate" => some .none
  | "digit" => some (.codes decimalNumbers)
  | "cntrl" => some (.codes controls)
  | "any" => some (.compl .none)
  | "assigned" => some .assigned
  | "ascii" => some (.range '\x00' '\x7f')
  | name =>
    (categories.find? fun (short, long, _) => name = short || name = long).map fun (_, _, ranges) =>
      .codes ranges

/-- The scripts, each with its short name and its long one. -/
def scriptNamed? (name : String) : Option CharSet :=
  CharSet.codes <$> match name with
  | "latn" | "latin" => some latinScript
  | "grek" | "greek" => some greekScript
  | "cyrl" | "cyrillic" => some cyrillicScript
  | "armn" | "armenian" => some armenianScript
  | "hebr" | "hebrew" => some hebrewScript
  | "arab" | "arabic" => some arabicScript
  | "deva" | "devanagari" => some devanagariScript
  | "thai" => some thaiScript
  | "geor" | "georgian" => some georgianScript
  | "hang" | "hangul" => some hangulScript
  | "hira" | "hiragana" => some hiraganaScript
  | "kana" | "katakana" => some katakanaScript
  | "hani" | "han" => some hanScript
  | _ => none

/-- The uses of characters that have a name. -/
def useNamed? (name : String) : Option CharSet :=
  match name with
  | "alphabetic" | "alpha" =>
    some (.ofList [.ofKind 'l', .codes letterNumbers, .codes otherAlphabetic])
  | "lowercase" | "lower" => some (.union (.codes smallLetters) (.codes otherLowercase))
  | "uppercase" | "upper" => some (.union (.codes capitalLetters) (.codes otherUppercase))
  | "whitespace" | "wspace" | "space" => some .blank
  | _ => none

/-- What counts of a name. -/
def plainName (text : List Char) : String :=
  let name := (text.filter fun c => c.toNat < 128 && c ≠ ' ' && c ≠ '_' && c ≠ '-').map asciiLower
  String.ofList (if ['i', 's'].isPrefixOf name && name ≠ "isc".toList then name.drop 2 else name)

/-- The set that a property's name stands for. A name of a category may follow that of the
property, and so may a script's. -/
def propertyNamed? (text : List Char) : Option CharSet :=
  let isSign (c : Char) : Bool := c = '=' || c = ':'
  let first := text.takeWhile (!isSign ·)
  match text.dropWhile (!isSign ·) with
  | [] =>
    let name := plainName text
    useNamed? name <|> categoryNamed? name <|> scriptNamed? name
  | _ :: value =>
    let negated := first.getLast? = some '!'
    let set? := match plainName (if negated then first.dropLast else first) with
      | "gc" | "generalcategory" => categoryNamed? (plainName value)
      | "sc" | "script" => scriptNamed? (plainName value)
      | _ => none
    set?.map fun set => if negated then .compl set else set

end Upkeep.Pattern
