import Upkeep.Text.Word

/-!
# File names — a free name as the name of a text file

Names of devices and commands become file names: each run of characters that belong to no word
becomes one hyphen. So no separator, dot or control character is left in the stem.
-/

namespace Upkeep

/-- The text with each run of non-word characters made one hyphen. `inside` tells whether the text
goes on inside such a run. -/
def hyphenate (inside : Bool) : List Char → List Char
  | [] => []
  | c :: rest =>
    if isWord c then c :: hyphenate false rest
    else if inside then hyphenate true rest
    else '-' :: hyphenate true rest

/-- The name of the text file for a free name. -/
def fileName (name : String) : String := String.ofList (hyphenate false name.toList) ++ ".txt"

end Upkeep
