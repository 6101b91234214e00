/-!
# Parts of a text
-/

namespace TriggerFlow.Text

/-- Whether `needle` occurs as a run of characters. -/
def occursIn (needle : List Char) : List Char → Bool
  | [] => needle.isEmpty
  | c :: rest => needle.isPrefixOf (c :: rest) || occursIn needle rest

def contains (haystack needle : String) : Bool := occursIn needle.toList haystack.toList

def startsWith (s start : String) : Bool := start.toList.isPrefixOf s.toList

def endsWith (s ending : String) : Bool := ending.toList.isSuffixOf s.toList

/-- The pieces between separators; there is always at least one. -/
def splitAt (separator : Char) : List Char → List (List Char)
  | [] => [[]]
  | c :: rest =>
    match splitAt separator rest with
    | piece :: pieces =>
      if c == separator then [] :: piece :: pieces else (c :: piece) :: pieces
    | [] => [[c]]

end TriggerFlow.Text
