import CardLedger.Value.Json.Reader

/-!
# Texts in TOML

What stands between the values of a TOML text, and its strings: basic ones with escapes and raw ones
without, each on one line or, between tripled quotes, on several. Line ends in a string are single
characters, however they are written.
-/

namespace CardLedger.Value.Toml

/-! ## Layout -/

/-- Skip blanks and tabs. -/
def skipSpace (cs : List Char) : List Char :=
  cs.dropWhile fun c => c = ' ' || c = '\t'

/-- Whether a character may stand in a comment or in a string. -/
def isPlain (c : Char) : Bool :=
  c = '\t' || (decide (0x20 ≤ c.toNat) && c.toNat != 0x7F)

/-- Skip a comment, if one begins here. -/
def skipComment : List Char → List Char
  | '#' :: rest => rest.dropWhile isPlain
  | cs => cs

/-- Read the end of a line, or find the end of the text. -/
def readLineEnd? : List Char → Option (List Char)
  | [] => some []
  | '\n' :: rest => some rest
  | '\r' :: '\n' :: rest => some rest
  | _ => none

/-- Skip blanks, comments and line ends between the items of an array. -/
def skipLines : Nat → List Char → List Char
  | 0, cs => cs
  | fuel + 1, cs =>
      match skipComment (skipSpace cs) with
      | [] => []
      | rest =>
          match readLineEnd? rest with
          | some rest => skipLines fuel rest
          | none => rest

/-- Skip blanks and line ends. -/
def skipBlankLines : List Char → List Char
  | '\r' :: '\n' :: rest => skipBlankLines rest
  | c :: rest => if c = ' ' ∨ c = '\t' ∨ c = '\n' then skipBlankLines rest else c :: rest
  | [] => []

/-! ## Strings -/

/-- Read so many hexadecimal digits as the code point of a character. -/
def readCode? (width : Nat) (cs : List Char) : Option (Char × List Char) := do
  if cs.length < width then none
  else
    let code ← ofHexDigits? (cs.take width)
    let c ← charOfCode? code
    some (c, cs.drop width)

/-- Read what stands behind a backslash. -/
def readEscape? : List Char → Option (Char × List Char)
  | 'u' :: rest => readCode? 4 rest
  | 'U' :: rest => readCode? 8 rest
  | '/' :: _ => none
  | c :: rest => (escaped? c).map (·, rest)
  | [] => none

/-- Read the rest of a basic string; `done` holds what was read, reversed. -/
def readBasic? : Nat → List Char → List Char → Option (String × List Char)
  | 0, _, _ => none
  | _ + 1, _, [] => none
  | _ + 1, done, '"' :: rest => some (String.ofList done.reverse, rest)
  | fuel + 1, done, '\\' :: rest => do
      let (c, rest) ← readEscape? rest
      readBasic? fuel (c :: done) rest
  | fuel + 1, done, c :: rest =>
      if isPlain c then readBasic? fuel (c :: done) rest else none

/-- Read the rest of a literal string. -/
def readRaw? (cs : List Char) : Option (String × List Char) :=
  let body := cs.takeWhile fun c => isPlain c && c != '\''
  match cs.drop body.length with
  | '\'' :: rest => some (String.ofList body, rest)
  | _ => none

/-- Read the rest of a string between tripled quotes. One or two quotes more in front of the last
three belong to it. Between double quotes there are escapes, and a backslash at the end of a line
takes the blanks and line ends behind it away. -/
def readLong? (quote : Char) : Nat → List Char → List Char → Option (String × List Char)
  | 0, _, _ => none
  | _ + 1, _, [] => none
  | fuel + 1, done, c :: rest =>
      if [quote, quote, quote].isPrefixOf (c :: rest) then
        let more := ((rest.drop 2).take 2).takeWhile (· = quote)
        some (String.ofList (done.reverse ++ more), rest.drop (2 + more.length))
      else if c = '\\' ∧ quote = '"' then
        match readLineEnd? (skipSpace rest) with
        | some rest => readLong? quote fuel done (skipBlankLines rest)
        | none => do
            let (c, rest) ← readEscape? rest
            readLong? quote fuel (c :: done) rest
      else
        match readLineEnd? (c :: rest) with
        | some rest => readLong? quote fuel ('\n' :: done) rest
        | none => if isPlain c then readLong? quote fuel (c :: done) rest else none

/-- Read a string between tripled quotes behind the first three; a line end there is skipped. -/
def readLines? (quote : Char) (cs : List Char) : Option (String × List Char) :=
  readLong? quote (cs.length + 1) [] ((readLineEnd? cs).getD cs)

/-- Read a string; nothing if none begins here. -/
def readText? : List Char → Option (String × List Char)
  | '"' :: '"' :: '"' :: rest => readLines? '"' rest
  | '\'' :: '\'' :: '\'' :: rest => readLines? '\'' rest
  | '"' :: rest => readBasic? (rest.length + 1) [] rest
  | '\'' :: rest => readRaw? rest
  | _ => none

end CardLedger.Value.Toml
