namespace RemoteConsole.Text

/-- Whether a character is in one of the ranges, which hold both of their ends. They ascend, so the
search ends at the first that starts behind it. -/
def inRanges : List (Nat × Nat) → Char → Bool
  | [], _ => false
  | (first, last) :: others, c =>
    first ≤ c.toNat && (c.toNat ≤ last || inRanges others c)

end RemoteConsole.Text
