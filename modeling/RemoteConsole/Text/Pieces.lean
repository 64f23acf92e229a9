namespace RemoteConsole.Text

variable {α : Type}

/-- The pieces between the separators: one more than there are separators. -/
def piecesOf [BEq α] (separator : α) (xs : List α) : List (List α) :=
  xs.foldr (fun x pieces =>
    if x == separator then [] :: pieces else (x :: pieces.headD []) :: pieces.tail) [[]]

def cutAt? (p : α → Bool) (xs : List α) : Option (List α × List α) :=
  match xs.dropWhile (!p ·) with
  | [] => none
  | _ :: rest => some (xs.takeWhile (!p ·), rest)

def occursIn [BEq α] (part : List α) : List α → Bool
  | [] => part.isEmpty
  | x :: xs => part.isPrefixOf (x :: xs) || occursIn part xs

def pieces (separator : Char) (s : String) : List String :=
  (piecesOf separator s.toList).map String.ofList

def splitOnce? (p : Char → Bool) (s : String) : Option (String × String) :=
  (cutAt? p s.toList).map fun (a, b) => (.ofList a, .ofList b)

def join (separator : String) (parts : List String) : String :=
  .ofList (List.intercalate separator.toList (parts.map String.toList))

def contains (s part : String) : Bool :=
  occursIn part.toList s.toList

def after? (start s : String) : Option String :=
  if start.toList.isPrefixOf s.toList then
    some (.ofList (s.toList.drop start.toList.length))
  else none

def dropAll (start s : List Char) : List Char :=
  if _shorter : start ≠ [] ∧ start.isPrefixOf s ∧ start.length ≤ s.length then
    dropAll start (s.drop start.length)
  else s
termination_by s.length
decreasing_by
  have := List.length_pos_iff.2 _shorter.1
  simp only [List.length_drop]
  omega

end RemoteConsole.Text
