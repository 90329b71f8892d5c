import Gatehouse.Text.LetterCase
/-!
Lower case of whole texts. A capital sigma becomes a final sigma at the end of a word, and the
dotted capital I becomes two characters; every other letter is mapped by itself.
-/

namespace Gatehouse.Lowercase

open LetterCase

/-- Whether the first character that counts is a letter with case. -/
def meetsCased (cs : List Char) : Bool :=
  match cs.dropWhile isIgnorable with
  | c :: _ => isCased c
  | [] => false

/-- Lower case of one character, between what stands before it, nearest first, and what follows. -/
def lowerOne (before : List Char) (c : Char) (after : List Char) : List Char :=
  if c = 'Σ' then [if meetsCased before && !meetsCased after then 'ς' else 'σ']
  else if c = 'İ' then ['i', '\u0307']
  else [small c]

/-- Lower case of the rest of a text, after the characters `before`, nearest first. -/
def lowerFrom (before : List Char) : List Char → List Char
  | [] => []
  | c :: rest => lowerOne before c rest ++ lowerFrom (c :: before) rest

/-- Lower case of a text. -/
def lower (s : String) : String := String.ofList (lowerFrom [] s.toList)

end Gatehouse.Lowercase
