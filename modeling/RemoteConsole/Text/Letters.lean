namespace RemoteConsole.Text

def lowerAscii (s : String) : String :=
  .ofList (s.toList.map Char.toLower)

def sameLetters (a b : String) : Bool :=
  a.toList.map Char.toLower == b.toList.map Char.toLower

end RemoteConsole.Text
