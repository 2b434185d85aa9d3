import Automation.Double.Decimal
import Automation.Text.Blank
import Automation.Text.Numeral
/-!
# Tokens of scripts

The scanner turns the characters of a script into tokens, each with the line and column where it
starts. Comments and blanks separate tokens. A fault, such as a string that does not end, becomes
the last token, so that it is reported only when the parser reaches it.
-/

namespace Automation.Script

open Text

/-- A place in a script, counted from one; the line zero stands for no place. -/
structure Position where
  line : Nat
  column : Nat
  deriving DecidableEq, Repr, Inhabited

/-- The place of what was not written. -/
def Position.nowhere : Position := ⟨0, 0⟩

/-- The place after a number of characters of the same line. -/
def Position.skip (p : Position) (n : Nat) : Position :=
  { p with column := p.column + n }

/-- The place after a character. -/
def Position.after (p : Position) (c : Char) : Position :=
  if c = '\n' then ⟨p.line + 1, 1⟩ else p.skip 1

/-- Why a text is no script. -/
inductive ParseFault where
  | incomplete
  | openString
  | stringTooLong (limit : Nat)
  | malformedEscape (text : String)
  | malformedNumber (text : String)
  | malformedChar (text : String)
  | malformedName (text : String)
  | unexpected (text : String)
  | advice (text : String)
  | reserved (text : String)
  | unknownOperator (text : String)
  | variableExpected
  | propertyExpected
  | expressionExpected (kind : String)
  | missing (token purpose : String)
  | mismatch (expected actual : String)
  | badIndex (text : String)
  | literalTooLarge (what : String) (limit : Nat)
  | duplicateProperty (name : String)
  | duplicateVariable (name : String)
  | constantTarget (name : String)
  | notAssignable
  | strayBreak
  | tooDeep
  deriving DecidableEq, Repr

/-- A character that may start a name. -/
def isNameStart (c : Char) : Bool :=
  isLetter c || c == '_'

/-- A character that may continue a name. -/
def isNamePart (c : Char) : Bool :=
  isNameStart c || isDigit c

/-- A name: underscores, then a letter, then letters, digits and underscores. -/
def isName (s : String) : Bool :=
  let body := s.toList.dropWhile (· == '_')
  body.head?.any isLetter && body.all isNamePart

/-- The wording of a fault. -/
def ParseFault.message : ParseFault → String
  | .incomplete => "Script is incomplete"
  | .openString => "Open string is not terminated"
  | .stringTooLong limit =>
    "Length of string exceeds the maximum limit (" ++ String.ofList (digits limit) ++ ")"
  | .malformedEscape text => "Invalid escape sequence: '" ++ text ++ "'"
  | .malformedNumber text => "Invalid number: '" ++ text ++ "'"
  | .malformedChar text => "Invalid character: '" ++ text ++ "'"
  | .malformedName text => "Variable name is not proper: '" ++ text ++ "'"
  | .unexpected text => "Unexpected '" ++ text ++ "'"
  | .advice text => text
  | .reserved text =>
    "'" ++ text ++ "' is a reserved " ++ (if isName text then "keyword" else "symbol")
  | .unknownOperator text => "Unknown operator: '" ++ text ++ "'"
  | .variableExpected => "Expecting name of a variable"
  | .propertyExpected => "Expecting name of a property"
  | .expressionExpected kind => "Expecting " ++ kind ++ " expression"
  | .missing token purpose => "Expecting '" ++ token ++ "' " ++ purpose
  | .mismatch expected actual => "Expecting " ++ expected ++ ", not " ++ actual
  | .badIndex text => text
  | .literalTooLarge what limit =>
    what ++ " exceeds the maximum limit (" ++ String.ofList (digits limit) ++ ")"
  | .duplicateProperty name => "Duplicated property for object map literal: " ++ name
  | .duplicateVariable name => "Duplicated variable name: " ++ name
  | .constantTarget "" => "Cannot assign to a constant value"
  | .constantTarget name => "Cannot assign to constant " ++ name
  | .notAssignable => "Expression cannot be assigned to"
  | .strayBreak => "Break statement should only be used inside a loop"
  | .tooDeep => "Expression exceeds maximum complexity"

/-- A token. A reserved token is a word or a symbol that has no meaning yet, or a word that is the
name of a function only. -/
inductive Token where
  | int (value : Int)
  | float (value : Double)
  | string (value : String)
  | char (value : Char)
  | name (text : String)
  | keyword (text : String)
  | reserved (text : String)
  | symbol (text : String)
  | fault (fault : ParseFault)
  | finish
  deriving DecidableEq, Repr, Inhabited

/-- The text of a token as messages show it. -/
def Token.text : Token → String
  | .int n => String.ofList (integer n)
  | .float _ => "float"
  | .string s => "\"" ++ s ++ "\""
  | .char c => "'" ++ String.singleton c ++ "'"
  | .name s | .keyword s | .reserved s | .symbol s => s
  | .fault _ => ""
  | .finish => "\x7bEOF\x7d"

/-- A token and the place where it starts. -/
structure Located where
  token : Token
  position : Position
  deriving Repr, Inhabited

/-- The words with a meaning of their own. -/
def keywords : List String :=
  ["true", "false", "let", "const", "if", "else", "switch", "do", "while", "until", "loop", "for",
    "in", "fn", "private", "continue", "break", "return", "throw", "try", "catch", "import",
    "export", "as"]

/-- The names of functions that are no names of variables. -/
def functionWords : List String :=
  ["print", "debug", "type_of", "eval", "Fn", "call", "curry", "is_shared", "is_def_var",
    "is_def_fn"]

/-- The function words that may follow a point. -/
def methodWords : List String :=
  ["type_of", "call", "curry", "is_shared"]

/-- The words that are kept for later. -/
def reservedWords : List String :=
  functionWords ++ ["this", "public", "protected", "super", "new", "use", "module", "package",
    "var", "static", "shared", "with", "is", "goto", "exit", "match", "case", "default", "void",
    "null", "nil", "spawn", "thread", "go", "sync", "async", "await", "yield"]

/-- The symbols that are kept for later. -/
def reservedSymbols : List String :=
  ["===", "!==", "->", "<-", ":=", ":;", "(*", "*)", "#!", "#", "@", "$", "++", "--", "...",
    "<|", "|>", "~", "!.", "?"]

/-- The symbols of several characters, longer ones first. -/
def longSymbols : List String :=
  ["..=", "...", "**=", "===", "!==", "<<=", ">>=", "&&", "||", "==", "!=", "<=", ">=", "+=",
    "-=", "*=", "/=", "%=", "&=", "|=", "^=", "..", "#\x7b", "#!", "**", "*)", "(*", "??", "?.",
    "?[", "=>", "->", "<-", "<<", ">>", "<|", "|>", "++", "--", "::", ":=", ":;", "!."]

/-- The symbol at the start of a text. -/
def symbolAt (c : Char) (cs : List Char) : String :=
  (longSymbols.find? fun s => s.toList.isPrefixOf (c :: cs)).getD (String.singleton c)

/-- What to write in place of a symbol that other languages have. -/
def adviceFor? (symbol : String) : Option String :=
  match symbol with
  | "===" => some "'===' is not a valid operator. This is not JavaScript! Should it be '=='?"
  | "!==" => some "'!==' is not a valid operator. This is not JavaScript! Should it be '!='?"
  | "->" => some "'->' is not a valid symbol. This is not C or C++!"
  | "<-" => some "'<-' is not a valid symbol. This is not Go! Should it be '<='?"
  | ":=" =>
    some ("':=' is not a valid assignment operator. This is not Go or Pascal! " ++
      "Should it be simply '='?")
  | ":;" => some "':;' is not a valid symbol. Should it be '::'?"
  | "(*" | "*)" =>
    some "'(* .. *)' is not a valid comment format. This is not Pascal! Should it be '/* .. */'?"
  | "#" => some "'#' is not a valid symbol. Should it be '#\x7b'?"
  | _ => none

/-- The token of a symbol; a character that is part of none is a fault. -/
def symbolToken (s : String) : Token :=
  match adviceFor? s with
  | some text => .fault (.advice text)
  | none =>
    if reservedSymbols.contains s then .reserved s
    else if s.length > 1 || "+-*/%=<>!&|^.,;:()[]\x7b\x7d".toList.contains (s.toList.headD ' ') then
      .symbol s
    else .fault (.unexpected s)

/-- The token of a word. -/
def wordToken (s : String) : Token :=
  if keywords.contains s then .keyword s
  else if s = "eval" then .fault (.advice "reserved keyword 'eval' is disabled")
  else if reservedWords.contains s then .reserved s
  else if isName s then .name s
  else .fault (.malformedName s)

/-- After this token a minus sign belongs to what follows it. -/
def Token.opensOperand : Token → Bool
  | .symbol s => !(s == ")" || s == "]" || s == "\x7d" || s == ".")
  | .keyword s => ["if", "while", "until", "in", "return", "throw"].contains s
  | .fault _ => true
  | _ => false

/-- The value of a hexadecimal digit. -/
def hexValue? (c : Char) : Option Nat :=
  if 'a' ≤ c ∧ c ≤ 'f' then some (c.toNat - 87)
  else if 'A' ≤ c ∧ c ≤ 'F' then some (c.toNat - 55)
  else digitValue? c

/-- A part of a text that the scanner read: what it stands for, the place after it and the rest. -/
structure Piece (α : Type) where
  value : α
  position : Position
  rest : List Char

/-- A result of the scanner, or a fault and its place. -/
abbrev Scan (α : Type) := Except (ParseFault × Position) (Piece α)

/-- Reads hexadecimal digits of an escape; `seen` is the escape so far. -/
def scanHex : Nat → List Char → Nat → Position → List Char → Scan Nat
  | 0, seen, n, p, cs =>
    if n.isValidChar then .ok ⟨n, p, cs⟩
    else .error (.malformedEscape (String.ofList seen), ⟨p.line, p.column - 1⟩)
  | _ + 1, seen, _, p, [] =>
    .error (.malformedEscape (String.ofList seen), ⟨p.line, p.column - 1⟩)
  | count + 1, seen, n, p, c :: cs =>
    match hexValue? c with
    | some d => scanHex count (seen ++ [c]) (16 * n + d) (p.skip 1) cs
    | none => .error (.malformedEscape (String.ofList (seen ++ [c])), p)

/-- The character that a letter stands for after a backslash. -/
def escaped? (c : Char) : Option Char :=
  match c with
  | 'n' => some '\n'
  | 'r' => some '\r'
  | 't' => some '\t'
  | '\\' => some '\\'
  | _ => none

/-- The number of hexadecimal digits after a letter behind a backslash. -/
def escapeWidth? (c : Char) : Option Nat :=
  match c with
  | 'x' => some 2
  | 'u' => some 4
  | 'U' => some 8
  | _ => none

/-- A text between quotes, read after the opening quote. -/
structure Quotes where
  /-- The most bytes of the text; zero sets no limit. -/
  limit : Nat
  /-- The quote. -/
  close : Char
  /-- The place of the opening quote. -/
  start : Position

/-- Reads the characters up to the closing quote, which stands for itself where it is doubled. A
backslash at the end of a line goes on in the next one, whose indentation up to the column `indent`
does not count. `read` are the characters so far, the last first, and `size` is their number of
bytes. -/
def Quotes.scan (q : Quotes) : Nat → List Char → Nat → Nat → Position → List Char → Scan (List Char)
  | 0, _, _, _, _, _ => .error (.openString, q.start)
  | _, _, _, _, _, [] => .error (.openString, q.start)
  | fuel + 1, read, size, indent, p, c :: cs =>
    let take (x : Char) (p : Position) (cs : List Char) : Scan (List Char) :=
      q.scan fuel (x :: read) (size + x.utf8Size) 0 p cs
    if q.limit ≠ 0 ∧ size > q.limit then .error (.stringTooLong q.limit, q.start)
    else if c = q.close then
      if cs.head? = some q.close then take c (p.skip 2) cs.tail
      else .ok ⟨read.reverse, p.skip 1, cs⟩
    else if c = '\r' ∧ cs.head? = some '\n' then .error (.openString, q.start)
    else if c = '\n' then .error (.openString, q.start)
    else if c = '\\' then
      match cs with
      | [] => .error (.openString, q.start)
      | '\r' :: '\n' :: rest | '\n' :: rest =>
        if q.close = '"' then
          q.scan fuel read size (q.start.column + 1) ⟨p.line + 1, 1⟩ rest
        else .error (.openString, q.start)
      | e :: rest =>
        match escaped? e, escapeWidth? e with
        | some x, _ => take x (p.skip 2) rest
        | none, some width =>
          match scanHex width ['\\', e] 0 (p.skip 2) rest with
          | .ok hex => take (Char.ofNat hex.value) hex.position hex.rest
          | .error fault => .error fault
        | none, none =>
          if e = q.close then take e (p.skip 2) rest
          else .error (.malformedEscape (String.ofList ['\\', e]), p.skip 1)
    else if p.column < indent ∧ isBlank c then q.scan fuel read size indent (p.skip 1) cs
    else take c (p.skip 1) cs

/-- The text between quotes. -/
def Quotes.read (q : Quotes) (cs : List Char) : Scan (List Char) :=
  q.scan (cs.length + 1) [] 0 0 (q.start.skip 1) cs

/-- The digits at the start of a text, underscores between them left out, the number of characters
read and the rest. -/
def scanDigits (accepts : Char → Bool) : List Char → List Char × Nat × List Char
  | [] => ([], 0, [])
  | c :: cs =>
    if accepts c then
      let (ds, n, rest) := scanDigits accepts cs
      (c :: ds, n + 1, rest)
    else if c = '_' then
      let (ds, n, rest) := scanDigits accepts cs
      (ds, n + 1, rest)
    else ([], 0, c :: cs)

/-- The fraction at the start of a text. A point that no digit follows still belongs to the number,
unless it could start a range or the name of a property. -/
def scanFraction (cs : List Char) : List Char × Nat × List Char :=
  match cs with
  | '.' :: c :: more =>
    if isDigit c then
      let (ds, n, rest) := scanDigits isDigit (c :: more)
      ('.' :: ds, n + 1, rest)
    else if c = '.' ∨ isNameStart c then ([], 0, cs)
    else (['.', '0'], 1, c :: more)
  | _ => ([], 0, cs)

/-- The exponent at the start of a text. -/
def scanExponent (cs : List Char) : List Char × Nat × List Char :=
  match cs with
  | e :: c :: more =>
    if e ≠ 'e' ∧ e ≠ 'E' then ([], 0, cs)
    else if isDigit c then
      let (ds, n, rest) := scanDigits isDigit (c :: more)
      ('e' :: ds, n + 1, rest)
    else if c = '+' ∨ c = '-' then
      let (ds, n, rest) := scanDigits isDigit more
      ('e' :: c :: ds, n + 2, rest)
    else ([], 0, cs)
  | _ => ([], 0, cs)

/-- A whole number that fits into 64 bits with its sign. -/
def fitsWord (n : Int) : Bool :=
  -(Nat.pow 2 63 : Nat) ≤ n && n < (Nat.pow 2 63 : Nat)

/-- The number of a decimal text: an integer if it is whole and fits, else a float. -/
def numberToken (text : List Char) : Token :=
  let (sign, body) : Int × List Char := match text with
    | '-' :: ds => (-1, ds)
    | ds => (1, ds)
  match (readDigits? body).map fun (n : Nat) => sign * n with
  | some n =>
    if fitsWord n then .int n
    else match Double.ofText? text with
      | some d => .float d
      | none => .fault (.malformedNumber (String.ofList text))
  | none =>
    match Double.ofText? text with
    | some d => .float d
    | none => .fault (.malformedNumber (String.ofList text))

/-- The base that a letter after a leading zero announces. -/
def baseOf? (c : Char) : Option Nat :=
  match c with
  | 'x' | 'X' => some 16
  | 'o' | 'O' => some 8
  | 'b' | 'B' => some 2
  | _ => none

/-- The token of digits in a base: a word of 64 bits, whose first bit is the sign. -/
def wordOfDigits (base : Nat) (ds : List Char) : Token :=
  let n := ds.foldl (fun n c => base * n + (hexValue? c).getD 0) 0
  if ds.isEmpty ∨ n ≥ Nat.pow 2 64 then .fault (.malformedNumber (String.ofList ds))
  else .int (if n < Nat.pow 2 63 then n else (n : Int) - (Nat.pow 2 64 : Nat))

/-- The number at the start of a text, after its sign. -/
def scanNumber (sign : List Char) (cs : List Char) : Token × Nat × List Char :=
  let decimal : Token × Nat × List Char :=
    let (whole, n, rest) := scanDigits isDigit cs
    let (fraction, k, rest) := scanFraction rest
    let (exponent, l, rest) := scanExponent rest
    (numberToken (sign ++ whole ++ fraction ++ exponent), n + k + l, rest)
  match cs with
  | '0' :: c :: more =>
    match baseOf? c with
    | some base =>
      let (ds, n, rest) := scanDigits (fun d => (hexValue? d).any (· < base)) more
      (wordOfDigits base ds, n + 2, rest)
    | none => decimal
  | _ => decimal

/-- The rest of a text after a block comment, and the place after it. Block comments nest. -/
def skipBlockComment : Nat → Position → List Char → Position × List Char
  | _, p, [] => (p, [])
  | depth, p, '*' :: '/' :: rest =>
    if depth = 0 then (p.skip 2, rest) else skipBlockComment (depth - 1) (p.skip 2) rest
  | depth, p, '/' :: '*' :: rest => skipBlockComment (depth + 1) (p.skip 2) rest
  | depth, p, c :: rest => skipBlockComment depth (p.after c) rest

/-- The tokens of a text that starts at a place; `operand` tells whether a minus sign would belong
to a number, and `limit` is the most bytes of a string. `fuel` is at least the number of characters.
-/
def scanFrom (limit : Nat) : Nat → Position → Bool → List Char → List Located
  | 0, p, _, _ => [⟨.finish, p⟩]
  | _, p, _, [] => [⟨.finish, p⟩]
  | fuel + 1, p, operand, c :: cs =>
    let continueAt (token : Token) (after : Position) (rest : List Char) : List Located :=
      match token with
      | .fault _ => [⟨token, p⟩]
      | _ => ⟨token, p⟩ :: scanFrom limit fuel after token.opensOperand rest
    if isBlank c then scanFrom limit fuel (p.after c) operand cs
    else if c = '/' ∧ cs.head? = some '/' then
      scanFrom limit fuel (p.skip (1 + (cs.takeWhile (· != '\n')).length)) operand
        (cs.dropWhile (· != '\n'))
    else if c = '/' ∧ cs.head? = some '*' then
      let (after, rest) := skipBlockComment 0 (p.skip 2) cs.tail
      scanFrom limit fuel after operand rest
    else if c = '"' then
      match Quotes.read ⟨limit, '"', p⟩ cs with
      | .ok s =>
        if limit ≠ 0 ∧ (String.ofList s.value).utf8ByteSize > limit then
          [⟨.fault (.stringTooLong limit), p⟩]
        else continueAt (.string (String.ofList s.value)) s.position s.rest
      | .error (fault, at_) => [⟨.fault fault, at_⟩]
    else if c = '\'' then
      if cs.head? = some '\'' then [⟨.fault (.malformedChar ""), p⟩]
      else
        match Quotes.read ⟨limit, '\'', p⟩ cs with
        | .ok s =>
          match s.value with
          | [x] => continueAt (.char x) s.position s.rest
          | xs => [⟨.fault (.malformedChar (String.ofList xs)), p⟩]
        | .error (fault, at_) => [⟨.fault fault, at_⟩]
    else if isDigit c then
      let (token, n, rest) := scanNumber [] (c :: cs)
      continueAt token (p.skip n) rest
    else if c = '-' ∧ operand ∧ cs.head?.any isDigit then
      let (token, n, rest) := scanNumber ['-'] cs
      continueAt token (p.skip (n + 1)) rest
    else if isNameStart c then
      let name := c :: cs.takeWhile isNamePart
      continueAt (wordToken (String.ofList name)) (p.skip name.length) (cs.dropWhile isNamePart)
    else
      let s := symbolAt c cs
      continueAt (symbolToken s) (p.skip s.length) (cs.drop (s.length - 1))

/-- The tokens of a script. -/
def scan (limit : Nat) (source : String) : List Located :=
  let cs := source.toList
  scanFrom limit (cs.length + 1) ⟨1, 1⟩ true cs

end Automation.Script
