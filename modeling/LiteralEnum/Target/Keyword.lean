/-! Reserved words of Python, which are names in form but cannot be used as names. -/

namespace LiteralEnum.Target

def keywords : List String :=
  ["False", "None", "True", "and", "as", "assert", "async", "await", "break", "class", "continue",
   "def", "del", "elif", "else", "except", "finally", "for", "from", "global", "if", "import", "in",
   "is", "lambda", "nonlocal", "not", "or", "pass", "raise", "return", "try", "while", "with",
   "yield"]

def isKeyword (word : String) : Bool := keywords.contains word

end LiteralEnum.Target
