import Polyglot.Json.Encode
import Polyglot.Model.Basic

/-! # The packaged asset

The model that is used when no other one is asked for: the tokens and the languages in the order of
their ids, and the trees. Thresholds are frequencies per thousand tokens.
-/

namespace Polyglot.Model.Packaged

/-- The tokens of the vocabulary. -/
def tokens : List String :=
  ["def", "):", "return", "import", "self", "elif", "None", "package", "func", "package main", ":=",
  "fmt", "#", "include", "# include", "int", "printf", "std", "::", "cout", "<<", "namespace",
  "using", "public", "class", "static", "void", "System", "String", "Console", "WriteLine",
  "function", "var", "const", "=>", "console", "let", "fn", "mut", "->", "impl", "pub", "end",
  "puts", "require", "do", "$", "my", "sub", "use", "<?", "php", "<? php", "echo", "fi", "then",
  "if", "SELECT", "FROM", "WHERE", "defn", "defun", "setq", "interactive", "ns", "lambda", "\x7b",
  "\x7d", ":", ";", "<", ">", "</", "div", "html", "body", "xml", "<? xml", "\\", "begin",
  "\\ begin", "documentclass", "local", "nil", "~=", "<-", "library", "procedure", "is",
  "Put_Line", "BEGIN", "print", "subroutine", "program", "implicit", "open", "match", "with", "|",
  "module", "where", "- module", "io", "format", "fun", "object", "val", "extends", "println", "@",
  "interface", "NSString", "@ interface", "@ implementation", "implementation", "final", "Widget",
  "override", "disp", "zeros", "%", "NR", "Dim", "As", "Sub", "End", "End Sub", "unit", "uses",
  ":-", "Transcript", "show", "\":", "\",", "\x7b\"", "true", "px", "color", "margin", "case",
  "esac", "let mut", "!(", "Foundation", "UIKit", "guard", "printfn", "|>", "data", "Maybe", "IO",
  "main =", "CREATE", "TABLE", "CREATE TABLE", "PRIMARY KEY", "INSERT", "INSERT INTO",
  "using System", ". WriteLine", "Console .", "Vec", "fn main", "unwrap", "Some"]

/-- The languages. -/
def languages : List String :=
  ["ada", "awk", "c", "clojure", "cpp", "csharp", "css", "dart", "delphi", "emacslisp", "erlang",
  "fortran", "fsharp", "go", "groovy", "haskell", "html", "java", "javascript", "json", "latex",
  "lisp", "lua", "matlab", "objc", "perl", "php", "prolog", "python", "r", "ruby", "rust", "scala",
  "shell", "smalltalk", "sql", "swift", "visualbasic", "xml"]

/-- A leaf that votes for a language. -/
def vote (language : Nat) (weight : Float) : FloatTree := .leaf ⟨language, weight⟩

/-- A threshold on the frequency of a token. -/
def split (token : Nat) (threshold : Float) (left right : FloatTree) : FloatTree :=
  .branch token threshold left right

/-- The trees in the order in which they vote. -/
def forest : List FloatTree :=
  [split 1 20 (split 0 15 (split 5 5 (vote 28 0.0) (vote 28 0.8)) (split 42 10 (split 4 10
     (vote 28 0.55) (vote 28 0.75)) (vote 30 0.85))) (vote 28 0.9),
   split 8 25 (split 10 20 (vote 13 0.0) (split 79 10 (vote 13 0.6) (vote 8 0.8))) (split 7 15
     (split 36 10 (vote 13 0.5) (vote 36 0.8)) (vote 13 0.95)),
   split 9 30 (split 11 10 (vote 13 0.0) (vote 13 0.85)) (vote 13 0.9),
   split 23 20 (split 27 15 (split 7 40 (vote 17 0.0) (split 8 10 (vote 17 0.6) (vote 13 0.7)))
     (vote 17 0.8)) (split 25 10 (vote 17 0.6) (split 29 10 (vote 17 0.85) (vote 5 0.85))),
   split 29 15 (split 22 15 (vote 5 0.0) (split 21 10 (vote 4 0.5) (vote 5 0.8))) (vote 5 0.9),
   split 14 20 (split 16 20 (vote 2 0.0) (vote 2 0.7)) (split 18 15 (split 19 10 (vote 2 0.85)
     (vote 4 0.8)) (vote 4 0.9)),
   split 17 15 (split 20 30 (vote 4 0.0) (vote 4 0.6)) (vote 4 0.9),
   split 31 20 (split 34 15 (split 35 10 (vote 18 0.0) (vote 18 0.85)) (split 33 10 (vote 18 0.6)
     (vote 18 0.8))) (split 42 20 (split 82 10 (split 32 10 (vote 18 0.6) (vote 18 0.8))
     (vote 22 0.85)) (split 82 10 (vote 23 0.7) (vote 22 0.9))),
   split 37 20 (split 141 10 (split 40 10 (vote 31 0.0) (vote 31 0.8)) (vote 31 0.9))
     (split 39 10 (split 41 10 (vote 31 0.7) (vote 31 0.9)) (vote 31 0.9)),
   split 42 25 (split 43 15 (vote 30 0.0) (vote 30 0.8)) (split 0 10 (split 45 10 (vote 22 0.5)
     (vote 30 0.7)) (vote 30 0.9)),
   split 47 15 (split 48 15 (vote 25 0.0) (vote 25 0.75)) (split 46 20 (vote 25 0.6)
     (vote 25 0.9)),
   split 52 5 (split 53 20 (vote 26 0.0) (split 46 15 (vote 33 0.7) (vote 26 0.8)))
     (vote 26 0.95),
   split 54 10 (split 140 5 (split 53 25 (vote 33 0.0) (vote 33 0.6)) (vote 33 0.9)) (split 55 5
     (vote 33 0.7) (vote 33 0.9)),
   split 57 15 (split 59 15 (vote 35 0.0) (vote 35 0.7)) (split 58 10 (vote 35 0.6)
     (vote 35 0.95)),
   split 60 10 (split 64 10 (vote 3 0.0) (vote 3 0.8)) (vote 3 0.95),
   split 61 10 (split 62 10 (split 65 15 (vote 21 0.0) (vote 21 0.5)) (vote 9 0.8)) (split 63 5
     (split 62 10 (vote 21 0.8) (vote 9 0.75)) (vote 9 0.95)),
   split 72 30 (split 73 15 (vote 16 0.0) (vote 16 0.7)) (split 77 5 (split 74 5 (split 75 5
     (vote 38 0.8) (vote 16 0.85)) (vote 16 0.9)) (vote 38 0.95)),
   split 77 5 (split 76 10 (vote 38 0.0) (vote 38 0.7)) (vote 38 0.95),
   split 80 10 (split 81 5 (vote 20 0.0) (vote 20 0.9)) (vote 20 0.9),
   split 82 20 (split 84 5 (split 83 20 (vote 22 0.0) (vote 22 0.6)) (vote 22 0.9)) (split 42 10
     (vote 22 0.6) (vote 22 0.9)),
   split 85 20 (split 86 10 (vote 29 0.0) (vote 29 0.8)) (split 18 15 (split 31 10 (vote 29 0.7)
     (vote 29 0.85)) (vote 15 0.75)),
   split 89 5 (split 87 10 (vote 0 0.0) (split 88 10 (vote 8 0.7) (vote 0 0.85))) (vote 0 0.95),
   split 121 5 (split 90 10 (vote 1 0.0) (split 46 15 (vote 1 0.6) (vote 1 0.85))) (vote 1 0.9),
   split 92 5 (split 94 5 (split 93 10 (vote 11 0.0) (vote 11 0.6)) (vote 11 0.9))
     (vote 11 0.95),
   split 146 5 (split 147 15 (vote 12 0.0) (split 36 10 (vote 12 0.6) (vote 12 0.85)))
     (vote 12 0.95),
   split 100 10 (split 151 10 (split 149 5 (vote 15 0.0) (vote 15 0.8)) (vote 15 0.7))
     (split 99 10 (split 18 15 (vote 15 0.5) (vote 15 0.85)) (vote 15 0.9)),
   split 101 5 (split 102 15 (split 104 20 (vote 10 0.0) (vote 10 0.5)) (split 103 10
     (vote 10 0.5) (vote 10 0.8))) (vote 10 0.95),
   split 105 15 (split 108 15 (split 106 15 (vote 32 0.0) (vote 32 0.7)) (split 0 15
     (split 106 10 (vote 14 0.6) (vote 32 0.6)) (split 1 10 (vote 14 0.8) (vote 28 0.6))))
     (split 107 10 (split 106 10 (vote 32 0.6) (vote 32 0.85)) (vote 32 0.9)),
   split 108 20 (split 0 40 (vote 14 0.0) (split 1 15 (split 42 10 (vote 14 0.7) (vote 30 0.7))
     (vote 28 0.7))) (split 0 10 (vote 14 0.55) (vote 14 0.85)),
   split 112 5 (split 111 5 (split 113 5 (vote 24 0.0) (vote 24 0.9)) (vote 24 0.85))
     (vote 24 0.95),
   split 116 10 (split 109 15 (split 115 15 (vote 7 0.0) (vote 7 0.55)) (split 117 10
     (vote 17 0.6) (vote 7 0.7))) (vote 7 0.95),
   split 118 10 (split 119 10 (split 120 30 (vote 23 0.0) (vote 23 0.5)) (vote 23 0.85))
     (vote 23 0.9),
   split 126 5 (split 122 10 (vote 37 0.0) (split 123 10 (vote 37 0.7) (vote 37 0.9)))
     (vote 37 0.95),
   split 128 5 (split 79 15 (vote 8 0.0) (split 87 10 (vote 8 0.5) (split 88 10 (vote 8 0.85)
     (vote 0 0.8)))) (vote 8 0.9),
   split 129 10 (vote 27 0.0) (split 101 5 (vote 27 0.9) (vote 10 0.8)),
   split 130 5 (split 131 10 (vote 34 0.0) (vote 34 0.6)) (vote 34 0.95),
   split 132 40 (split 134 20 (vote 19 0.0) (vote 19 0.75)) (split 133 20 (split 66 10
     (vote 19 0.6) (vote 19 0.85)) (vote 19 0.95)),
   split 136 15 (split 137 10 (split 138 10 (vote 6 0.0) (vote 6 0.8)) (vote 6 0.75)) (split 66 5
     (vote 6 0.6) (vote 6 0.95)),
   split 8 25 (split 145 5 (split 144 5 (split 143 5 (vote 36 0.0) (vote 36 0.85)) (vote 36 0.9))
     (vote 36 0.85)) (split 7 10 (split 39 10 (split 36 10 (vote 36 0.55) (vote 36 0.8))
     (vote 36 0.85)) (vote 13 0.8)),
   split 3 30 (split 0 20 (split 6 10 (vote 28 0.0) (vote 28 0.7)) (split 66 10 (split 42 10
     (vote 28 0.8) (vote 30 0.8)) (vote 32 0.6))) (split 4 10 (split 7 10 (vote 28 0.5)
     (vote 17 0.7)) (vote 28 0.85)),
   split 15 20 (split 26 20 (split 16 10 (vote 2 0.0) (vote 2 0.8)) (split 24 10 (vote 2 0.6)
     (vote 17 0.6))) (split 14 5 (split 24 10 (vote 2 0.5) (vote 4 0.6)) (vote 2 0.85)),
   split 2 30 (split 32 20 (split 36 20 (vote 18 0.0) (vote 18 0.5)) (vote 18 0.7)) (split 1 15
     (split 69 20 (split 42 10 (vote 18 0.4) (vote 22 0.5)) (vote 17 0.45)) (vote 28 0.75)),
   split 162 5 (split 161 10 (split 163 10 (vote 31 0.0) (vote 31 0.8)) (vote 31 0.85))
     (vote 31 0.95),
   split 141 5 (split 164 10 (vote 31 0.0) (vote 31 0.8)) (split 37 10 (vote 31 0.7)
     (vote 31 0.9)),
   split 158 5 (split 160 5 (vote 5 0.0) (split 126 5 (vote 5 0.7) (vote 37 0.7))) (vote 5 0.95),
   split 159 5 (vote 5 0.0) (split 126 5 (vote 5 0.85) (vote 37 0.8)),
   split 154 5 (split 155 5 (split 157 5 (vote 35 0.0) (vote 35 0.9)) (vote 35 0.9))
     (vote 35 0.95),
   split 152 10 (split 156 10 (vote 35 0.0) (vote 35 0.8)) (split 153 10 (vote 35 0.6)
     (vote 35 0.9))]

/-- The packaged asset as a value. -/
def payload : Json := asset (tokens.map Text.ofString) (languages.map Text.ofString) forest

/-- The content of the packaged file. -/
def content : Bytes := Utf8.encode (Json.encode payload)

end Polyglot.Model.Packaged
