import SourceAtlas.FileType.Basic

/-!
# The table in force when none is given
-/

namespace SourceAtlas.FileTypes

def entry (label : String) (extensions : List String) (color : String) (code : Bool) :
    Text × FileType :=
  (label.toList, ⟨label.toList, extensions.map String.toList, color.toList, code⟩)

def builtinTypes : List (Text × FileType) :=
  [
    entry "C" ["c", "h"] "#555555" true,
    entry "C#" ["cs"] "#178600" true,
    entry "C++" ["cpp", "cc", "cxx", "hpp", "hh", "hxx"] "#F34B7D" true,
    entry "CSS" ["css", "scss", "sass"] "#563D7C" false,
    entry "Go" ["go"] "#00ADD8" true,
    entry "HTML" ["html", "htm"] "#E34C26" false,
    entry "Image" ["png", "jpg", "jpeg", "gif", "svg", "bmp", "ico"] "#A0A0A0" false,
    entry "JSON" ["json"] "#292929" false,
    entry "Java" ["java"] "#B07219" true,
    entry "JavaScript" ["js", "mjs", "cjs", "jsx"] "#F1E05A" true,
    entry "Kotlin" ["kt", "kts"] "#A97BFF" true,
    entry "Markdown" ["md", "markdown"] "#083FA1" false,
    entry "Python" ["py", "pyw"] "#3572A5" true,
    entry "Rust" ["rs"] "#DEA584" true,
    entry "Shell" ["sh", "bash", "zsh"] "#89E051" true,
    entry "TOML" ["toml"] "#9C4221" false,
    entry "Text" ["txt"] "#CCCCCC" false,
    entry "TypeScript" ["ts", "tsx"] "#3178C6" true,
    entry "XML" ["xml"] "#0060AC" false,
    entry "YAML" ["yml", "yaml"] "#CB171E" false
  ]

def builtin : Except Error FileTypes × List Notice := ofTypes builtinTypes

end SourceAtlas.FileTypes
