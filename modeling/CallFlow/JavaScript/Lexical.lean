/-!
# Lexical grammar of JavaScript

Character classes, blanks and comments, the rule for omitted semicolons, and the extent of each kind
of token, all as recursions on the remaining characters. Which token may stand at a place (a regular
expression or a division, say) is the grammar's business, not decided here.
-/

namespace CallFlow.JavaScript.Lexical

/-! ## Character classes -/

/-- Characters that separate tokens. -/
def isBlank (c : Char) : Bool :=
  let n := c.toNat
  (9 ≤ n && n ≤ 13) || n == 0x20 || n == 0x85 || n == 0xA0 || n == 0x1680 ||
    (0x2000 ≤ n && n ≤ 0x200B) || n == 0x2028 || n == 0x2029 || n == 0x202F || n == 0x205F ||
    n == 0x2060 || n == 0x3000 || n == 0xFEFF

/-- Characters that end a line comment. -/
def isLineEnd (c : Char) : Bool :=
  c == '\n' || c == '\r' || c.toNat == 0x2028 || c.toNat == 0x2029

/-- Characters after which an omitted semicolon may be supplied. -/
def isBreak (c : Char) : Bool :=
  c == '\n' || c.toNat == 0x2028 || c.toNat == 0x2029

/-- Punctuation that can be no part of a name. -/
def isNamePunctuation (c : Char) : Bool :=
  ":;\x60\"'@#.,|^&<=>+-*/\\%?!~()[]\x7b\x7d".toList.contains c

/-- Characters that may stand anywhere in a name. -/
def isNameStart (c : Char) : Bool :=
  c.toNat > 0x1F && !isBlank c && !c.isDigit && !isNamePunctuation c

/-- Characters that may stand in a name after its first. -/
def isNamePart (c : Char) : Bool :=
  isNameStart c || c.isDigit

def isHexDigit (c : Char) : Bool :=
  c.isDigit || ('a' ≤ c && c ≤ 'f') || ('A' ≤ c && c ≤ 'F')

/-- Words that name no variable. -/
def reservedWords : List String :=
  ["break", "case", "catch", "class", "const", "continue", "debugger", "default", "delete", "do",
    "else", "export", "extends", "false", "finally", "for", "function", "if", "import", "in",
    "instanceof", "new", "null", "return", "super", "switch", "this", "throw", "true", "try",
    "typeof", "var", "void", "while", "with"]

def isReserved (word : String) : Bool :=
  reservedWords.contains word

/-! ## Blanks and comments -/

/-- Where between two tokens the reader is. -/
inductive Trivia where
  /-- Outside comments. -/
  | blank
  /-- In a comment that ends with its line. -/
  | line
  /-- In a comment that ends with a star and a slash. -/
  | block

/-- The characters after blanks and comments, with the number of bytes passed over. Where a statement
may begin, the two marks that once hid scripts in markup also open a comment up to the line's end
(`markup`). -/
def skipTrivia (markup : Bool) : Trivia → Nat → List Char → List Char × Nat
  | _, n, [] => ([], n)
  | .blank, n, '/' :: '/' :: cs => skipTrivia markup .line (n + 2) cs
  | .blank, n, '/' :: '*' :: cs => skipTrivia markup .block (n + 2) cs
  | .blank, n, c :: cs =>
    if isBlank c then skipTrivia markup .blank (n + c.utf8Size) cs
    else if markup && ("<!--".toList.isPrefixOf (c :: cs) || "-->".toList.isPrefixOf (c :: cs)) then
      skipTrivia markup .line (n + c.utf8Size) cs
    else (c :: cs, n)
  | .line, n, c :: cs =>
    skipTrivia markup (if isLineEnd c then .blank else .line) (n + c.utf8Size) cs
  | .block, n, '*' :: '/' :: cs => skipTrivia markup .blank (n + 2) cs
  | .block, n, c :: cs => skipTrivia markup .block (n + c.utf8Size) cs

/-! ## Omitted semicolons -/

/-- Progress of the search for the place of an omitted semicolon. -/
inductive Search where
  /-- On the line of the last token. -/
  | sameLine
  /-- In a line comment on that line. -/
  | lineComment
  /-- In a block comment on that line, with or without a line break in it. -/
  | blockComment (broken : Bool)
  /-- On a later line, before the next token. -/
  | below
  /-- In a comment there. -/
  | belowLine
  | belowBlock
  /-- Past a comment that ended the line of a bare keyword. -/
  | afterKeyword
  | afterKeywordLine
  | afterKeywordBlock

/-- May a statement end before this text, which starts a new line? Not if the text continues an
expression: an operator, a bracket, or the words `in` and `instanceof`. -/
def breaksBefore : List Char → Bool
  | [] => true
  | '.' :: c :: _ => c.isDigit
  | '.' :: [] => false
  | '+' :: cs => cs.head? == some '+'
  | '-' :: cs => cs.head? == some '-'
  | '!' :: cs => cs.head? != some '='
  | 'i' :: 'n' :: cs =>
    if cs.head?.any isLetter then
      !("stanceof".toList.isPrefixOf cs && !(cs.drop 8).head?.any isLetter)
    else false
  | c :: _ => !"\x60,:;*%><=[(?^|&/".toList.contains c
where
  isLetter (c : Char) : Bool := c.isAlpha || c.toNat > 0x7F

/-- Is a semicolon supplied after the token that this text follows? It is at the end of the text,
before a closing brace, and at a line break unless the next line continues the expression. A comment
that breaks the line counts as a break only after a bare keyword such as `return`
(`keyword`). -/
def suppliesSemicolon (keyword : Bool) : Search → List Char → Bool
  | .blockComment _, [] => false
  | _, [] => true
  | .sameLine, '/' :: '/' :: cs => suppliesSemicolon keyword .lineComment cs
  | .sameLine, '/' :: '*' :: cs => suppliesSemicolon keyword (.blockComment false) cs
  | .sameLine, c :: cs =>
    if c == '\x7d' then true
    else if isBreak c then suppliesSemicolon keyword .below cs
    else if isBlank c then suppliesSemicolon keyword .sameLine cs
    else false
  | .lineComment, c :: cs =>
    if isLineEnd c then
      if keyword then suppliesSemicolon keyword .afterKeyword cs
      else suppliesSemicolon keyword .below cs
    else suppliesSemicolon keyword .lineComment cs
  | .blockComment broken, '*' :: '/' :: cs =>
    if keyword && broken && !(cs.head? == some ',' || cs.head? == some '=') then true
    else suppliesSemicolon keyword .sameLine cs
  | .blockComment broken, c :: cs => suppliesSemicolon keyword (.blockComment (broken || isBreak c)) cs
  | .below, '/' :: '/' :: cs => suppliesSemicolon keyword .belowLine cs
  | .below, '/' :: '*' :: cs => suppliesSemicolon keyword .belowBlock cs
  | .below, c :: cs =>
    if isBlank c then suppliesSemicolon keyword .below cs else breaksBefore (c :: cs)
  | .belowLine, c :: cs =>
    suppliesSemicolon keyword (if isLineEnd c then .below else .belowLine) cs
  | .belowBlock, '*' :: '/' :: cs => suppliesSemicolon keyword .below cs
  | .belowBlock, _ :: cs => suppliesSemicolon keyword .belowBlock cs
  | .afterKeyword, '/' :: '/' :: cs => suppliesSemicolon keyword .afterKeywordLine cs
  | .afterKeyword, '/' :: '*' :: cs => suppliesSemicolon keyword .afterKeywordBlock cs
  | .afterKeyword, c :: cs =>
    if isBlank c then suppliesSemicolon keyword .afterKeyword cs
    else !(c == ',' || c == '=' || c == '/')
  | .afterKeywordLine, c :: cs =>
    suppliesSemicolon keyword (if isLineEnd c then .afterKeyword else .afterKeywordLine) cs
  | .afterKeywordBlock, '*' :: '/' :: cs => suppliesSemicolon keyword .afterKeyword cs
  | .afterKeywordBlock, _ :: cs => suppliesSemicolon keyword .afterKeywordBlock cs

/-! ## Tokens -/

/-- Progress through a name that may hold escapes. -/
inductive NameState where
  | plain
  /-- So many hexadecimal digits are still to come. -/
  | digits (n : Nat)
  /-- Between the braces of a long escape. -/
  | braced

/-- Number of characters of a name that go on from the given state. -/
def namePartLength : NameState → List Char → Nat
  | _, [] => 0
  | .plain, '\\' :: 'u' :: '\x7b' :: cs => 3 + namePartLength .braced cs
  | .plain, '\\' :: 'u' :: cs => 2 + namePartLength (.digits 4) cs
  | .plain, c :: cs => if isNamePart c then 1 + namePartLength .plain cs else 0
  | .digits 0, c :: cs => if isNamePart c then 1 + namePartLength .plain cs else 0
  | .digits (n + 1), c :: cs => if isHexDigit c then 1 + namePartLength (.digits n) cs else 0
  | .braced, c :: cs =>
    if isHexDigit c then 1 + namePartLength .braced cs
    else if c == '\x7d' then 1 + namePartLength .plain cs
    else 0

/-- Number of characters of the name that the text starts with, 0 if it starts with none. -/
def nameLength : List Char → Nat
  | '\\' :: 'u' :: cs => namePartLength .plain ('\\' :: 'u' :: cs)
  | c :: cs => if isNameStart c then 1 + namePartLength .plain cs else 0
  | [] => 0

/-- All operators and brackets, those that begin with another one before it. -/
def punctuators : List String :=
  [">>>=", "...", "===", "!==", "**=", "<<=", ">>=", ">>>", "&&=", "||=", "??=",
    "=>", "==", "!=", "<=", ">=", "&&", "||", "??", "?.", "++", "--", "+=", "-=", "*=", "/=",
    "%=", "&=", "|=", "^=", "<<", ">>", "**",
    "\x7b", "\x7d", "(", ")", "[", "]", ";", ",", "<", ">", "+", "-", "*", "/", "%", "&", "|",
    "^", "!", "~", "?", ":", "=", ".", "@", "#"]

/-- The longest operator that the text starts with. A question mark before a decimal fraction is an
operator of its own. -/
def punctuator? (cs : List Char) : Option String :=
  match cs with
  | '?' :: '.' :: c :: _ => if c.isDigit then some "?" else some "?."
  | _ => punctuators.find? (·.toList.isPrefixOf cs)

/-- Number of characters of a quoted literal after its opening quote, closing quote included. A line
end must be escaped unless `multiline`; a backslash escapes nothing in `multiline` text. -/
def quotedLength (quote : Char) (multiline : Bool) : List Char → Option Nat
  | [] => none
  | '\\' :: c :: cs =>
    if multiline then (quotedLength quote multiline (c :: cs)).map (· + 1)
    else (quotedLength quote multiline cs).map (· + 2)
  | c :: cs =>
    if c == quote then some 1
    else if !multiline && (c == '\n' || c == '\r') then none
    else (quotedLength quote multiline cs).map (· + 1)

/-- Number of characters of template text up to its closing quote or the next substitution. -/
def templateTextLength : List Char → Nat
  | [] => 0
  | '\\' :: _ :: cs => 2 + templateTextLength cs
  | '$' :: '\x7b' :: _ => 0
  | c :: cs => if c == '\x60' then 0 else 1 + templateTextLength cs

/-- Number of characters of a regular expression after its opening slash, closing slash included.
`inClass` holds between square brackets, where a slash is plain. -/
def regexLength (inClass : Bool) : List Char → Option Nat
  | [] => none
  | '\\' :: c :: cs => if isLineEnd c then none else (regexLength inClass cs).map (· + 2)
  | c :: cs =>
    if isLineEnd c then none
    else if c == '/' && !inClass then some 1
    else (regexLength ((inClass || c == '[') && c != ']') cs).map (· + 1)

/-- Number of leading characters in a class. -/
def runLength (p : Char → Bool) (cs : List Char) : Nat :=
  (cs.takeWhile p).length

/-- Digits with separators between them. -/
def isDigitOrSeparator (c : Char) : Bool :=
  c.isDigit || c == '_'

/-- Number of characters of the exponent that a decimal literal may end with. -/
def exponentLength (cs : List Char) : Nat :=
  match cs with
  | e :: s :: d :: r =>
    if e == 'e' || e == 'E' then
      if (s == '+' || s == '-') && d.isDigit then 2 + runLength isDigitOrSeparator (d :: r)
      else if s.isDigit then 1 + runLength isDigitOrSeparator (s :: d :: r)
      else 0
    else 0
  | [e, s] => if (e == 'e' || e == 'E') && s.isDigit then 2 else 0
  | _ => 0

/-- Number of characters of the number that the text starts with. -/
def numberLength (cs : List Char) : Nat :=
  match cs with
  | '0' :: x :: _ =>
    if x.isAlpha && x != 'e' && x != 'E' then runLength (fun c => c.isAlphanum || c == '_') cs
    else decimal
  | _ => decimal
where
  decimal : Nat :=
    let whole := runLength isDigitOrSeparator cs
    let afterWhole := cs.drop whole
    let fraction :=
      if afterWhole.head? == some '.' then 1 + runLength isDigitOrSeparator (afterWhole.drop 1)
      else 0
    let afterFraction := afterWhole.drop fraction
    let exponent := exponentLength afterFraction
    let suffix := if (afterFraction.drop exponent).head? == some 'n' then 1 else 0
    whole + fraction + exponent + suffix

/-- Does the text start with a number? -/
def startsNumber : List Char → Bool
  | '.' :: c :: _ => c.isDigit
  | c :: _ => c.isDigit
  | [] => false

end CallFlow.JavaScript.Lexical
