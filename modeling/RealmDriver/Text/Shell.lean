namespace RealmDriver.Shell

/-- Characters that a shell reads as themselves, wherever they stand in a word. -/
def isPlain (c : Char) : Bool := c.isAlphanum || "-_./+=:,@".toList.contains c

def quote : Char := Char.ofNat 0x27

/-- A character between single quotes. The quote itself can only stand outside them, escaped. -/
def quotedChar (c : Char) : List Char := if c = quote then [quote, '\\', quote, quote] else [c]

def quoted (word : List Char) : List Char :=
  if !word.isEmpty && word.all isPlain then word
  else quote :: word.flatMap quotedChar ++ [quote]

def line (words : List String) : String :=
  String.ofList ([' '].intercalate (words.map fun w ↦ quoted w.toList))

end RealmDriver.Shell
