namespace RealmDriver.Text

def occursIn (needle : List Char) : List Char → Bool
  | [] => needle.isEmpty
  | c :: cs => needle.isPrefixOf (c :: cs) || occursIn needle cs

/-- The lower case of a character, as far as ASCII letters go. Besides `A` to `Z` only the Kelvin
sign and the dotted capital I have an ASCII letter in their lower case. -/
def lowerAscii (c : Char) : List Char :=
  if c.toNat = 0x212A then ['k']
  else if c.toNat = 0x130 then ['i', Char.ofNat 0x307]
  else [c.toLower]

/-- Whether the lower case of a text has a phrase in it. The phrase is of lower-case ASCII
characters: no other character of the text can then match, whatever its lower case. -/
def mentions (phrase : String) (s : String) : Bool :=
  occursIn phrase.toList (s.toList.flatMap lowerAscii)

end RealmDriver.Text
