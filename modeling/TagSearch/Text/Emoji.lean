import TagSearch.Text.Blank
import TagSearch.Text.Digits
import TagSearch.Text.Emoji.NamesAToE
import TagSearch.Text.Emoji.NamesFToL
import TagSearch.Text.Emoji.NamesM
import TagSearch.Text.Emoji.NamesNToS
import TagSearch.Text.Emoji.NamesTToZ
import TagSearch.Text.Hex

/-!
# Emoji in place of their names

A name between two colons stands for an emoji. The name may end in `-text` or `-emoji`, which asks
for one of the two presentations of the emoji. Letters match in either case, and a name that is
unknown stays as it is, with both its colons.

* `emojiOfName?` is the emoji of a name, `replaceEmoji` puts emoji in place of their names.
-/

namespace TagSearch.Text

/-! ## Names -/

/-- The words of a text, between spaces and line feeds. -/
def tableWords (table : String) : List (List Char) :=
  (table.toList.splitOnP fun c => c == ' ' || c == '\n').filter (· != [])

/-- The characters whose numbers stand between dashes. -/
def charsOfNumbers (word : List Char) : List Char :=
  (word.splitOnP (· == '-')).map fun ds =>
    Char.ofNat (ofDigits 16 (fun c => (hexValue? c).getD 0) ds)

/-- Names and numbers in turn, as pairs of a name and the characters of its emoji. -/
def emojiPairs : List (List Char) → List (List Char × List Char)
  | name :: numbers :: rest => (name, charsOfNumbers numbers) :: emojiPairs rest
  | _ => []

/-- All names, each with the characters of its emoji. -/
def emojiTable : List (List Char × List Char) :=
  [emojiNamesAToE, emojiNamesFToL, emojiNamesM, emojiNamesNToS, emojiNamesTToZ].flatMap
    fun table => emojiPairs (tableWords table)

/-- A letter in the case of the names: those of ASCII, and the others that occur in names. -/
def nameLetter (c : Char) : Char :=
  match c with
  | 'Ã' => 'ã'
  | 'Å' => 'å'
  | 'Ç' => 'ç'
  | 'É' => 'é'
  | 'Í' => 'í'
  | 'Ô' => 'ô'
  | '\u212A' => 'k'
  | '\u212B' => 'å'
  | c => c.toLower

/-- A name without the word for a presentation at its end, and the character that asks for it. -/
def splitPresentation (name : List Char) : List Char × List Char :=
  if ['-', 't', 'e', 'x', 't'].isSuffixOf name then (name.take (name.length - 5), ['\uFE0E'])
  else if ['-', 'e', 'm', 'o', 'j', 'i'].isSuffixOf name then
    (name.take (name.length - 6), ['\uFE0F'])
  else (name, [])

/-- The emoji of a name. -/
def emojiOfName? (name : List Char) : Option (List Char) :=
  let (name, presentation) := splitPresentation name
  (emojiTable.lookup (name.map nameLetter)).map (· ++ presentation)

/-! ## Texts -/

/-- Whether a character can stand in a name. -/
def isNameChar (c : Char) : Bool := c != ':' && !isBlank c

/-- A text with emoji in place of their names. -/
def replaceEmoji : List Char → List Char
  | [] => []
  | c :: s =>
    if c = ':' then
      match _h : s.dropWhile isNameChar with
      | ':' :: rest =>
        let name := s.takeWhile isNameChar
        (emojiOfName? name).getD (':' :: name ++ [':']) ++ replaceEmoji rest
      | _ => c :: replaceEmoji s
    else c :: replaceEmoji s
termination_by s => s.length
decreasing_by
  · have := (List.dropWhile_sublist (l := s) isNameChar).length_le
    simp only [_h, List.length_cons] at this ⊢
    omega
  all_goals simp

end TagSearch.Text
