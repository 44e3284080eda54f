/-!
# Quoted text

A quoted text stands between double quotes; backslash, double quote, line feed and tab are written as
escapes, so it never spans lines.
-/

namespace ShadeGraph.Text

inductive QuoteError
  | unquoted (text : String)
  | unknownEscape (letter : Char)
  | danglingEscape
  deriving DecidableEq, Repr

def QuoteError.message : QuoteError → String
  | .unquoted text => s!"expected a quoted string, found `{text}`"
  | .unknownEscape letter => "unknown escape `\\" ++ letter.toString ++ "`"
  | .danglingEscape => "dangling `\\` at end of string"

def escape : List Char → List Char
  | [] => []
  | c :: rest =>
    match c with
    | '\\' => '\\' :: '\\' :: escape rest
    | '"' => '\\' :: '"' :: escape rest
    | '\n' => '\\' :: 'n' :: escape rest
    | '\t' => '\\' :: 't' :: escape rest
    | _ => c :: escape rest

def unescape : List Char → Except QuoteError (List Char)
  | [] => .ok []
  | '\\' :: letter :: rest =>
    match letter with
    | '\\' => (unescape rest).map ('\\' :: ·)
    | '"' => (unescape rest).map ('"' :: ·)
    | 'n' => (unescape rest).map ('\n' :: ·)
    | 't' => (unescape rest).map ('\t' :: ·)
    | _ => .error (.unknownEscape letter)
  | ['\\'] => .error .danglingEscape
  | c :: rest => (unescape rest).map (c :: ·)

def quote (text : String) : String :=
  String.ofList ('"' :: escape text.toList ++ ['"'])

/-- What stands between an opening and a closing double quote. -/
def unwrap? : List Char → Option (List Char)
  | '"' :: rest => ['"'].isSuffixOf? rest
  | _ => none

def unquote (text : List Char) : Except QuoteError String :=
  match unwrap? text with
  | none => .error (.unquoted (String.ofList text))
  | some inner => (unescape inner).map String.ofList

end ShadeGraph.Text
