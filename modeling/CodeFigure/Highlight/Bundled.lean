/-
  CodeFigure/Highlight/Bundled.lean
  =================================
  **The highlighter that comes with the library.**

  It knows a fixed list of file types, by extension or by name, and letter case
  (ASCII only) does not matter in either.  A file type outside the list is an
  error, never a guess.  Since every listed token is plain ASCII and free of
  quotes and angle brackets, the file type of a successful answer can stand in
  an attribute as it was given.

  Highlighting classifies text by grammar.  What a grammar makes of code is not up to the
  highlighter, so it is a parameter (`Grammars`); the highlighter decides which file types
  have a grammar, and writes the element around the code.  The one grammar that is part of
  this library is the plain one, which puts the whole code into a single scope; the
  list names every file type that is accepted, and code of each of them is
  written in that scope.
-/
import CodeFigure.Highlight.Basic

namespace CodeFigure.Bundled

/-! ### Known file types -/

def plainTokens : List String := ["txt", "plain text"]

def languageTokens : List String :=
   [".bash_aliases", ".bash_completions", ".bash_functions", ".bash_login", ".bash_logout",
    ".bash_profile", ".bash_variables", ".bashrc", ".profile", ".textmate_init", "actionscript",
    "adp", "appfile", "applescript", "appraisals", "as", "asa", "asp", "bash", "bat",
    "batch file", "berksfile", "bib", "bibtex", "bourne again shell (bash)", "brewfile", "bsh",
    "build", "builder", "c", "c#", "c++", "camlp4", "capfile", "cargo build results", "cc", "cgi",
    "cheffile", "cl", "clisp", "clj", "clojure", "cls", "cmd", "commands-builtin-shell-bash",
    "config.ru", "cp", "cpp", "cpy", "cs", "css", "css.erb", "css.liquid", "csx", "cxx", "d",
    "ddl", "deliverfile", "di", "diff", "dml", "dot", "dpr", "dtml", "el", "emakefile", "erb",
    "erbsql", "erl", "erlang", "fasl", "fastfile", "fcgi", "fish", "gemfile", "gemspec",
    "gnumakefile", "go", "gradle", "graphviz (dot)", "groovy", "guardfile", "gv", "gvy", "gyp",
    "gypi", "h", "h++", "haml", "haskell", "hh", "hpp", "hrl", "hs", "htc", "htm", "html",
    "html (asp)", "html (erlang)", "html (rails)", "html (tcl)", "html.erb", "hxx", "inc", "inl",
    "ipp", "irbrc", "java", "java properties", "java server page (jsp)", "javadoc", "javascript",
    "javascript (rails)", "jbuilder", "js", "js.erb", "json", "jsp", "l", "latex", "latex log",
    "lhs", "lisp", "literate haskell", "lsp", "ltx", "lua", "m", "mak", "make", "make output",
    "makefile", "markdn", "markdown", "matlab", "md", "mdown", "mk", "ml", "mli", "mll", "mly",
    "mm", "mud", "multimarkdown", "nant build file", "objective-c", "objective-c++", "ocaml",
    "ocamllex", "ocamlmakefile", "ocamlyacc", "opml", "p", "pas", "pascal", "patch", "perl",
    "php", "php source", "php3", "php4", "php5", "php7", "phps", "phpt", "phtml", "pl", "pm",
    "pod", "podspec", "prawn", "properties", "pxd", "pxd.in", "pxi", "pxi.in", "py", "py3", "pyi",
    "python", "pyw", "pyx", "pyx.in", "r", "r console", "rabl", "rails", "rake", "rakefile",
    "rantfile", "rb", "rbx", "rd", "rd (r documentation)", "re", "regular expression",
    "regular expressions (javascript)", "regular expressions (python)", "rest",
    "restructuredtext", "rhtml", "rjs", "rprofile", "rpy", "rs", "rss", "rst", "ruby",
    "ruby haml", "ruby on rails", "ruby.rail", "rust", "rxml", "s", "sass", "sbt", "scala",
    "scanfile", "scm", "sconscript", "sconstruct", "script editor", "sh", "shell-unix-generic",
    "shtml", "simplecov", "snakefile", "snapfile", "sql", "sql (rails)", "sql.erb", "ss", "sty",
    "sublime-build", "sublime-color-scheme", "sublime-commands", "sublime-completions",
    "sublime-keymap", "sublime-macro", "sublime-menu", "sublime-mousemap", "sublime-project",
    "sublime-settings", "sublime-syntax", "sublime-theme", "svg", "t", "tcl", "tex", "textile",
    "thor", "thorfile", "tld", "tmpl", "tpl", "vagrantfile", "wscript", "xhtml", "xml", "xsd",
    "xslt", "yaml", "yaws", "yml", "zsh"]

def lowerAscii (s : String) : String := String.ofList (s.toList.map Char.toLower)

def knows (fileType : String) : Bool :=
  plainTokens.contains (lowerAscii fileType) || languageTokens.contains (lowerAscii fileType)

/-! ### Markup -/

/-- How `c` is written so that it means itself in markup and in attributes. -/
def escapeMarkup (c : Char) : List Char :=
  if c = '&' then "&amp;".toList
  else if c = '<' then "&lt;".toList
  else if c = '>' then "&gt;".toList
  else if c = '\x22' then "&quot;".toList
  else if c = '\x27' then "&#39;".toList
  else [c]

/-- `code` in the scope of the plain grammar; no code has no scope. -/
def inScope (code : String) : String :=
  match code.toList with
  | [] => ""
  | chars => "<span class=\"text plain\">" ++ String.ofList (chars.flatMap escapeMarkup) ++ "</span>"

/-- The grammars of the known file types: from code and the file type to the code with its
    scopes, unless the grammar fails on it. -/
abbrev Grammars := String → String → Except GrammarFailure String

def element (fileType marked : String) : String :=
  "<div class='highlight'><pre><code class='" ++ fileType ++ "'>" ++ marked ++ "</code></pre></div>"

/-- The highlighter over some grammars. -/
def highlightBy (grammars : Grammars) : Highlighter := fun code fileType =>
  if knows fileType then
    match grammars code fileType with
    | .ok marked => .ok (element fileType marked)
    | .error failure => .error (.grammar failure)
  else .error (.unknownFileType fileType)

def plainGrammar : Grammars := fun code _ => .ok (inScope code)

def highlight : Highlighter := highlightBy plainGrammar

theorem highlightBy_of_not_knows {fileType : String} (hfileType : knows fileType = false)
    (grammars : Grammars) (code : String) :
    highlightBy grammars code fileType = .error (.unknownFileType fileType) := by
  simp [highlightBy, hfileType]

/-- Only code of a known file type is highlighted. -/
theorem highlightBy_eq_ok_iff {grammars : Grammars} {code fileType markup : String} :
    highlightBy grammars code fileType = .ok markup ↔
      knows fileType = true ∧
        ∃ marked, grammars code fileType = .ok marked ∧ markup = element fileType marked := by
  unfold highlightBy
  cases knows fileType with
  | false => simp
  | true =>
    cases grammars code fileType with
    | error failure => simp
    | ok marked => simp [eq_comm]

end CodeFigure.Bundled
