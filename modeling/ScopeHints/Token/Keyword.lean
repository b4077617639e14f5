import ScopeHints.Token

/-! Words of the language itself, offered after the names of a file. -/
namespace ScopeHints

def keywords : List String := [
  "break", "case", "catch", "class", "const", "continue", "debugger", "default", "delete", "do",
  "else", "export", "extends", "finally", "for", "function", "if", "import", "in", "instanceof",
  "let", "new", "return", "super", "switch", "this", "throw", "try", "typeof", "var", "void",
  "while", "with", "yield", "async", "await", "null", "true", "false", "undefined"]

def keywordTokens : List HintToken := keywords.map fun w => { value := w, kind := .keyword }

end ScopeHints
