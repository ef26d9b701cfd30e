/-!
# Quoted regions of a command

A bracketed name runs from `[` to the next `]`. A string literal runs between single quotes, and a
quote inside it is written twice. `maskQuoted` blanks both out, so that what is left of a command
can be searched for keywords; a bracket or quote that nothing closes stays as it is.
-/

namespace ODataToSql.Text

/-- The length of a string literal without its opening quote. Inside the literal a quote is written
twice; at a literal that is never closed the last doubled quote counts as a closing one. -/
def literalLength? : List Char → Option Nat
  | [] => none
  | '\x27' :: '\x27' :: rest =>
    match literalLength? rest with
    | some length => some (length + 2)
    | none => some 1
  | '\x27' :: _ => some 1
  | _ :: rest => (literalLength? rest).map (· + 1)

/-- The length of a bracketed name without its opening bracket. -/
def bracketedLength? : List Char → Option Nat
  | [] => none
  | c :: rest => if c = ']' then some 1 else (bracketedLength? rest).map (· + 1)

/-- The length, less one, of the quoted region that starts the text, if there is one. -/
def quotedLength? : List Char → Option Nat
  | [] => none
  | c :: rest =>
    if c = '[' then bracketedLength? rest
    else if c = '\x27' then literalLength? rest
    else none

/-- The text with a space for every character of a quoted region, where the first `skipped`
characters are known to belong to one. -/
def maskQuotedAfter : Nat → List Char → List Char
  | _, [] => []
  | skipped + 1, _ :: rest => ' ' :: maskQuotedAfter skipped rest
  | 0, c :: rest =>
    match quotedLength? (c :: rest) with
    | some length => ' ' :: maskQuotedAfter length rest
    | none => c :: maskQuotedAfter 0 rest

/-- The text with a space for every character of a bracketed name or a string literal. -/
def maskQuoted (text : List Char) : List Char :=
  maskQuotedAfter 0 text

end ODataToSql.Text
