import CiteSieve.Span

/-!
# Markup

A painted text as markup: every highlighted run stands in an element that carries the name of its
block, and what could be taken for markup is escaped.
-/

namespace CiteSieve.Markup

/-- A character as it is written outside tags and in attributes. -/
def escapeChar : Char → List Char
  | '&' => "&amp;".toList
  | '<' => "&lt;".toList
  | '>' => "&gt;".toList
  | '"' => "&quot;".toList
  | '\'' => "&#x27;".toList
  | c => [c]

/-- A text as it is written outside tags and in attributes. -/
def escape (s : String) : String :=
  String.ofList (s.toList.flatMap escapeChar)

/-- A run of text. -/
def ofSegment (tag : String) (s : Segment) : String :=
  match s.blockName with
  | none => escape s.text
  | some name =>
    "<" ++ tag ++ " data-block=\"" ++ escape name ++ "\">" ++ escape s.text ++ "</" ++ tag ++ ">"

/-- A text painted along its spans. -/
def paint (text : String) (ss : List Span) (tag : String) : String :=
  String.join ((segments text ss).map (ofSegment tag))

end CiteSieve.Markup
