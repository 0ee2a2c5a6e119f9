import Phrasebook.Json.Basic

/-!
Reading of JSON texts. Of two members with one name the later counts. Arrays and objects may
be nested up to a fixed depth. Numbers without fraction and exponent stay exact while they fit
into 64 bits; digits beyond that are only counted.
-/

namespace Phrasebook.Json

open Text

def depthLimit : Nat := 128

def negativeLimit : Nat := limit64 / 2

def isSpace (c : Char) : Bool := c == ' ' || c == '\n' || c == '\t' || c == '\r'

def skipSpace (t : Text) : Text := t.dropWhile isSpace

def expect (word : Text) (t : Text) : Option Text :=
  if word.isPrefixOf t then some (t.drop word.length) else none

/-! Numbers -/

/-- Digits taken in as long as they fit: the number, and how many were left out. -/
def takeDigits (value : Nat) : Text → Nat × Nat
  | [] => (value, 0)
  | c :: rest =>
    let next := value * 10 + (c.toNat - '0'.toNat)
    if next < limit64 then takeDigits next rest else (value, rest.length + 1)

def readExponent : Text → Option (Int × Text)
  | [] => none
  | c :: rest =>
    let digits := if c = '+' ∨ c = '-' then rest else c :: rest
    let taken := digits.takeWhile Char.isDigit
    if taken.isEmpty then none
    else
      let n : Int := (readDigitsFrom 10 0 taken).getD 0
      some (if c = '-' then -n else n, digits.drop taken.length)

def readNumber (minus : Bool) (t : Text) : Option (Json × Text) := do
  let whole := t.takeWhile Char.isDigit
  let rest := t.drop whole.length
  if whole.isEmpty || (1 < whole.length && whole.head? == some '0') then failure
  let (value, left) := takeDigits 0 whole
  let (value, places, rest) ← match rest with
    | '.' :: rest =>
      let fraction := rest.takeWhile Char.isDigit
      if fraction.isEmpty then none
      else
        let (value, dropped) := takeDigits value fraction
        some (value, some ((left : Int) - (fraction.length - dropped)),
          rest.drop fraction.length)
    | rest => some (value, if left = 0 then none else some (left : Int), rest)
  let (places, rest) ← match rest with
    | 'e' :: rest => do
      let (e, rest) ← readExponent rest
      pure (some (places.getD 0 + e), rest)
    | 'E' :: rest => do
      let (e, rest) ← readExponent rest
      pure (some (places.getD 0 + e), rest)
    | rest => pure (places, rest)
  match places with
  | some places =>
    if value = 0 then pure (.real minus .zero, rest)
    else pure (.real minus (← Binary64.ofDecimal? value places), rest)
  | none =>
    if !minus then pure (.natural (.ofNat value), rest)
    else if value = 0 ∨ negativeLimit < value then
      pure (.real true (← Binary64.ofNat? value), rest)
    else pure (.negative value, rest)

/-! Strings -/

def readUnit : Text → Option (Nat × Text)
  | a :: b :: c :: d :: rest => do
    let n ← [a, b, c, d].foldlM (fun n c => (digitValue? c).map (n * 16 + ·)) 0
    pure (n, rest)
  | _ => none

/-- The character of an escape by number. A code above the first plane takes two of them, and
half of such a pair is refused. -/
def readCode (t : Text) : Option (Char × Text) := do
  let (n, rest) ← readUnit t
  if 0xDC00 ≤ n ∧ n < 0xE000 then failure
  else if 0xD800 ≤ n ∧ n < 0xDC00 then
    let (low, rest) ← readUnit (← expect ['\\', 'u'] rest)
    if 0xDC00 ≤ low ∧ low < 0xE000 then
      pure (Char.ofNat (0x10000 + (n - 0xD800) * 0x400 + (low - 0xDC00)), rest)
    else failure
  else pure (Char.ofNat n, rest)

def readEscape : Text → Option (Char × Text)
  | '"' :: rest => some ('"', rest)
  | '\\' :: rest => some ('\\', rest)
  | '/' :: rest => some ('/', rest)
  | 'b' :: rest => some ('\x08', rest)
  | 'f' :: rest => some ('\x0c', rest)
  | 'n' :: rest => some ('\n', rest)
  | 'r' :: rest => some ('\r', rest)
  | 't' :: rest => some ('\t', rest)
  | 'u' :: rest => readCode rest
  | _ => none

/-- A string behind its first quote; `fuel` bounds the number of its characters. -/
def readString : Nat → Text → Option (Text × Text)
  | 0, _ => none
  | _ + 1, [] => none
  | _ + 1, '"' :: rest => some ([], rest)
  | fuel + 1, '\\' :: rest => do
    let (c, rest) ← readEscape rest
    let (t, rest) ← readString fuel rest
    pure (c :: t, rest)
  | fuel + 1, c :: rest =>
    if c.toNat < 0x20 then none
    else (readString fuel rest).map fun (t, rest) => (c :: t, rest)

/-! Values -/

mutual

/-- A value behind white space. `fuel` bounds the number of calls, `depth` the nesting. -/
def readValue : Nat → Nat → Text → Option (Json × Text)
  | 0, _, _ => none
  | fuel + 1, depth, t =>
    match skipSpace t with
    | '"' :: rest => (readString (rest.length + 1) rest).map fun (t, rest) => (.text t, rest)
    | '[' :: rest =>
      if depth ≤ 1 then none
      else
        match skipSpace rest with
        | ']' :: rest => some (.array [], rest)
        | rest => (readItems fuel (depth - 1) rest).map fun (l, rest) => (.array l, rest)
    | '{' :: rest =>
      if depth ≤ 1 then none
      else
        match skipSpace rest with
        | '}' :: rest => some (.object [], rest)
        | rest => (readMembers fuel (depth - 1) [] rest).map fun (l, rest) => (.object l, rest)
    | '-' :: rest => readNumber true rest
    | 'n' :: rest => (expect "ull".toList rest).map fun rest => (.null, rest)
    | 't' :: rest => (expect "rue".toList rest).map fun rest => (.bool true, rest)
    | 'f' :: rest => (expect "alse".toList rest).map fun rest => (.bool false, rest)
    | rest => readNumber false rest

def readItems : Nat → Nat → Text → Option (List Json × Text)
  | 0, _, _ => none
  | fuel + 1, depth, t => do
    let (v, rest) ← readValue fuel depth t
    match skipSpace rest with
    | ',' :: rest => do
      let (l, rest) ← readItems fuel depth rest
      pure (v :: l, rest)
    | ']' :: rest => pure ([v], rest)
    | _ => none

/-- The members of an object up to its closing brace, put among those before them. -/
def readMembers : Nat → Nat → List (Text × Json) → Text → Option (List (Text × Json) × Text)
  | 0, _, _, _ => none
  | fuel + 1, depth, members, t => do
    let rest ← expect ['"'] (skipSpace t)
    let (name, rest) ← readString (rest.length + 1) rest
    let rest ← expect [':'] (skipSpace rest)
    let (v, rest) ← readValue fuel depth rest
    let members := insertMember name v members
    match skipSpace rest with
    | ',' :: rest => readMembers fuel depth members rest
    | '}' :: rest => pure (members, rest)
    | _ => none

end

def read? (t : Text) : Option Json := do
  let (v, rest) ← readValue (2 * t.length + 2) depthLimit t
  if (skipSpace rest).isEmpty then pure v else failure

end Phrasebook.Json
