import RemoteConsole.Text.CaseTable
import RemoteConsole.Text.Pieces

namespace RemoteConsole.Text

def capitalSigma : Char := 'Σ'

def facesCased (cs : List Char) : Bool :=
  ((cs.dropWhile isCaseIgnorable).head?.map isCased).getD false

/-- A sigma that ends a word, with a letter before it and none behind, is written in its final
form; a dotted capital I keeps its dot. -/
def lowerStep (before : List Char) (c : Char) (behind : List Char) : List Char :=
  if c = capitalSigma then
    [if facesCased before && !facesCased behind then 'ς' else 'σ']
  else if c = 'İ' then ['i', '\u0307']
  else [smallLetter c]

/-- `before` holds the characters already passed, the nearest first; `lowered` the result so far,
last character first. -/
def lowerFrom (before lowered : List Char) : List Char → List Char
  | [] => lowered.reverse
  | c :: cs => lowerFrom (c :: before) ((lowerStep before c cs).reverse ++ lowered) cs

def lowerCase (s : String) : String :=
  .ofList (lowerFrom [] [] s.toList)

def mentions (name part : String) : Bool :=
  contains (lowerCase name) (lowerCase part)

end RemoteConsole.Text
