namespace CodeAtlas.Text

def lowerAscii (text : String) : String :=
  String.ofList (text.toList.map Char.toLower)

/-- Other characters than ASCII letters stand for themselves. -/
def eqIgnoringCase (a b : String) : Bool :=
  a.toList.map Char.toLower == b.toList.map Char.toLower

/-- The text without the points it begins with. -/
def withoutPoints (text : String) : String :=
  String.ofList (text.toList.dropWhile (· = '.'))

end CodeAtlas.Text
