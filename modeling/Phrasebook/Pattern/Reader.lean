import Phrasebook.Pattern.Bracket

/-!
Reading of patterns, one character at a time. The reader is a stack machine: its inner part
knows the options, the branch being built and what kind of token it stands in; the open
groups are a stack which only two motions touch, so that reading inside a group goes as it
would outside. Where the extended option holds, white space and comments between the parts
of a token are passed over.
-/

namespace Phrasebook.Pattern

open Text

/-- The alternatives of a group so far, latest first. An option switch is kept as none: it
takes no text and cannot be repeated, but it counts as a member of the sequence. -/
structure Frame where
  alts : List Expr := []
  items : List (Option Expr) := []
deriving DecidableEq, Repr

def Frame.branch (f : Frame) : Expr := .ofSeq (f.items.reverse.map (·.getD .empty))

def Frame.expr (f : Frame) : Expr := .ofAlts (f.branch :: f.alts).reverse

def Frame.add (f : Frame) (e : Expr) : Frame := { f with items := some e :: f.items }

def Frame.addSwitch (f : Frame) : Frame := { f with items := none :: f.items }

def Frame.bar (f : Frame) : Frame := { alts := f.branch :: f.alts, items := [] }

def Frame.mapLast (f : Frame) (change : Expr → Expr) : Except Fault Frame :=
  match f.items with
  | some e :: rest => .ok { f with items := some (change e) :: rest }
  | _ => .error .nothingToRepeat

/-- Where the character or set that an escape stands for is wanted. -/
inductive Place where
  | outside
  | item
  | rangeEnd (first : Item)
deriving DecidableEq, Repr

inductive Count where
  | fresh
  | spaced
  | digits (n : Nat)
  | closed (n : Nat)
deriving DecidableEq, Repr

def Count.value? : Count → Option Nat
  | .digits n => some n
  | .closed n => some n
  | _ => none

inductive Mode where
  /-- Between two tokens. -/
  | plain
  /-- After a repetition that a question mark makes reluctant. -/
  | repeated
  /-- The same after a closing brace, where white space may come between. -/
  | counted
  /-- In the first number of a count, or in the second one. -/
  | least (n : Count)
  | most (least : Nat) (n : Count)
  /-- After an opening parenthesis, and after the question mark behind it. -/
  | opened
  | question
  | questionP
  | angle
  | groupName (reversed : Text)
  | switches (seen : Text) (on : Bool) (flags : Flags)
  /-- After a backslash. -/
  | escape (place : Place)
  | code (place : Place) (digits : Nat)
  | codeDigits (place : Place) (short : Bool) (missing : Nat) (value : Nat)
  | codeBrace (place : Place) (value : Option Nat)
  | property (place : Place) (negated : Bool)
  | propertyName (place : Place) (negated : Bool) (reversed : Text)
  /-- After the escape for a word edge, and in the name behind it. -/
  | edge
  | edgeName (reversed : Text)
  /-- At the start of a class, where a caret, hyphens and a bracket are special. -/
  | classStart (caret : Bool) (hyphens : Bool)
  | classItems
  | classOperator (c : Char)
  | classItem (item : Item)
  | classHyphen (item : Item) (spaced : Bool)
  | classBracket
  | className (negated : Bool) (reversed : Text)
  | classNameEnd (negated : Bool) (reversed : Text)
deriving DecidableEq, Repr

structure Core where
  flags : Flags := {}
  frame : Frame := {}
  /-- The open classes, innermost first. -/
  brackets : List Bracket := []
  groups : Nat := 0
  names : List (Text × Nat) := []
  mode : Mode := .plain
  comment : Bool := false
deriving DecidableEq, Repr

inductive Motion where
  | stay
  | opens (number : Option Nat) (frame : Frame) (flags : Flags)
  | closes
deriving DecidableEq, Repr

abbrev Reading := Except Fault (Core × Motion)

namespace Core

def stay (k : Core) : Reading := .ok (k, .stay)

def fail (fault : Fault) : Reading := .error fault

def enter (k : Core) (mode : Mode) : Core := { k with mode := mode }

def add (k : Core) (e : Expr) : Core := { k with frame := k.frame.add e, mode := .plain }

def openGroup (k : Core) (number : Option Nat) (flags : Flags) : Core × Motion :=
  ({ k with frame := {}, flags := flags, mode := .plain }, .opens number k.frame k.flags)

def countGroup (k : Core) : Core := { k with groups := k.groups + 1 }

/-- The extended option lets this character pass between the parts of a token. -/
def skips (k : Core) (c : Char) : Bool := k.flags.extended && (isBlank c || c == '#')

/-- Passes over white space, or into a comment. -/
def skip (k : Core) (c : Char) : Core := { k with comment := c == '#' }

/-! Classes -/

def mapBracket (k : Core) (change : Bracket → Bracket) : Core :=
  match k.brackets with
  | b :: rest => { k with brackets := change b :: rest }
  | [] => k

def openBracket (k : Core) : Core :=
  { k with brackets := {} :: k.brackets, mode := .classStart true false }

def addItem (k : Core) (item : Item) : Except Fault Core := do
  let s ← k.flags.checked item.members
  pure (k.mapBracket (·.add s))

/-- Ends the innermost class: an item of the class around it, or a part of the branch. -/
def closeBracket (k : Core) : Except Fault Core :=
  match k.brackets with
  | b :: rest => do
    let s ← b.close k.flags
    match rest with
    | [] =>
      pure { k with
        brackets := [], frame := k.frame.add (.set s (b.levels + 1)), mode := .plain }
    | around :: rest =>
      pure { k with brackets := around.add s (b.levels + 1) :: rest, mode := .classItems }
  | [] => .error .badClass

def operator (k : Core) (op : SetOp) : Core :=
  (k.mapBracket (·.operator k.flags op)).enter .classItems

/-- A character inside a class, between two items. -/
def classStep (k : Core) (c : Char) : Except Fault Core :=
  if c = '[' then pure (k.enter .classBracket)
  else if c = ']' then k.closeBracket
  else if c = '&' ∨ c = '~' ∨ c = '-' then pure (k.enter (.classOperator c))
  else if c = '\\' then pure (k.enter (.escape .item))
  else pure (k.enter (.classItem (.char c)))

def itemStep (k : Core) (item : Item) (c : Char) : Except Fault Core :=
  if k.skips c then pure ((k.enter (.classItem item)).skip c)
  else if c = '-' then pure (k.enter (.classHyphen item false))
  else do (← k.addItem item).classStep c

def startStep (k : Core) (caret hyphens : Bool) (c : Char) : Except Fault Core :=
  if c = '^' ∧ caret then
    pure ((k.mapBracket ({ · with negated := true })).enter (.classStart false false))
  else if c = '-' then do
    pure ((← k.addItem (.char '-')).enter (.classStart false true))
  else if c = ']' ∧ !hyphens then do
    pure ((← k.addItem (.char ']')).enter .classItems)
  else k.classStep c

/-- What looked like a named set was the start of a class with these characters. -/
def reopen (k : Core) (chars : Text) (c : Char) : Except Fault Core :=
  match chars.reverse with
  | [] => k.openBracket.startStep true false c
  | last :: earlier => do
    let k ← earlier.reverse.foldlM (fun k c => k.addItem (.char c)) k.openBracket
    k.itemStep (.char last) c

/-! Results of escapes -/

def deliverChar (k : Core) (place : Place) (c : Char) : Except Fault Core :=
  match place with
  | .outside => pure (k.add (.set (k.flags.fold (.single c))))
  | .item => pure (k.enter (.classItem (.char c)))
  | .rangeEnd first => do
    let s ← first.range (.char c)
    pure ((← k.addItem (.set s)).enter .classItems)

def deliverSet (k : Core) (place : Place) (s : CharSet) : Except Fault Core :=
  match place with
  | .outside => pure (k.add (.set s))
  | .item => pure (k.enter (.classItem (.set s)))
  | .rangeEnd _ => .error .badClass

def deliverLook (k : Core) (place : Place) (l : Look) : Except Fault Core :=
  match place with
  | .outside => pure (k.add (.look l))
  | _ => .error .badClass

/-- The character with a given code. A two-digit code counts as a byte without Unicode. -/
def deliverCode (k : Core) (place : Place) (short : Bool) (code : Nat) : Except Fault Core :=
  if !code.isValidChar then .error .badCode
  else if short && !k.flags.unicode && 0x80 ≤ code then .error .notUtf8
  else k.deliverChar place (Char.ofNat code)

def deliverProperty (k : Core) (place : Place) (negated : Bool) (found : Option CharSet) :
    Except Fault Core :=
  if !k.flags.unicode then .error .notUtf8
  else
    match found with
    | none => .error .unknownProperty
    | some s => do k.deliverSet place (← k.flags.foldNegate negated s)

def cutAt? (sign : Text) (t : Text) : Option (Text × Text) :=
  (List.range t.length).findSome? fun n =>
    if sign.isPrefixOf (t.drop n) then some (t.take n, t.drop (n + sign.length)) else none

/-- A property written out: a name, or a name and a value. The three signs that may stand
between them mean the same. -/
def deliverPropertyName (k : Core) (place : Place) (negated : Bool) (name : Text) :
    Except Fault Core :=
  match (cutAt? ['!', '='] name).or ((cutAt? [':'] name).or (cutAt? ['='] name)) with
  | some (property, value) => k.deliverProperty place negated (Unicode.valued? property value)
  | none => k.deliverProperty place negated (Unicode.bare? name)

def escapable (c : Char) : Bool :=
  c.toNat < 0x80 && !c.isAlphanum && c != '<' && c != '>'

def escapeStep (k : Core) (place : Place) (c : Char) : Except Fault Core :=
  let ascii := !k.flags.unicode
  if c.isDigit then .error .backreference
  else if c = 'x' then pure (k.enter (.code place 2))
  else if c = 'u' then pure (k.enter (.code place 4))
  else if c = 'U' then pure (k.enter (.code place 8))
  else if c = 'p' ∨ c = 'P' then pure (k.enter (.property place (c == 'P')))
  else
    match k.flags.shorthand? c.toLower with
    | some s => do k.deliverSet place (← k.flags.checked (if c.isUpper then s.complement else s))
    | none =>
      if escapable c then k.deliverChar place c
      else
        match c with
        | 'a' => k.deliverChar place '\x07'
        | 'f' => k.deliverChar place '\x0c'
        | 't' => k.deliverChar place '\t'
        | 'n' => k.deliverChar place '\n'
        | 'r' => k.deliverChar place '\r'
        | 'v' => k.deliverChar place '\x0b'
        | 'A' => k.deliverLook place .textStart
        | 'z' => k.deliverLook place .textEnd
        | 'B' => k.deliverLook place (.notWordEdge ascii)
        | '<' => k.deliverLook place (.wordStart ascii)
        | '>' => k.deliverLook place (.wordEnd ascii)
        | 'b' => do pure ((← k.deliverLook place (.wordEdge ascii)).enter .edge)
        | _ => .error .badEscape

/-! Repetitions -/

def repeatLast (k : Core) (least : Nat) (extra : Option Nat) (mode : Mode) :
    Except Fault Core := do
  let frame ← k.frame.mapLast (.times least extra (!k.flags.swapGreed))
  pure { k with frame := frame, mode := mode }

/-- A question mark behind a repetition turns its preference round. -/
def turnLast (k : Core) : Except Fault Core := do
  let frame ← k.frame.mapLast fun
    | .times least extra greedy body => .times least extra (!greedy) body
    | e => e
  pure { k with frame := frame, mode := .plain }

def dot (k : Core) : Except Fault CharSet :=
  if !k.flags.unicode then .error .notUtf8
  else if k.flags.dotAll then .ok .full
  else if k.flags.anyLine then .ok (CharSet.ofChars ['\n', '\r']).complement
  else .ok (CharSet.single '\n').complement

def caret (k : Core) : Look :=
  if !k.flags.multiline then .textStart
  else if k.flags.anyLine then .anyLineStart else .lineStart

def dollar (k : Core) : Look :=
  if !k.flags.multiline then .textEnd
  else if k.flags.anyLine then .anyLineEnd else .lineEnd

/-- A character between two tokens, parentheses apart. -/
def tokenStep (k : Core) (c : Char) : Except Fault Core :=
  match c with
  | '|' => pure { k with frame := k.frame.bar, mode := .plain }
  | '[' => pure k.openBracket
  | '?' => k.repeatLast 0 (some 1) .repeated
  | '*' => k.repeatLast 0 none .repeated
  | '+' => k.repeatLast 1 none .repeated
  | '{' => do pure { k with frame := ← k.frame.mapLast id, mode := .least .fresh }
  | '\\' => pure (k.enter (.escape .outside))
  | '.' => do pure (k.add (.set (← k.dot)))
  | '^' => pure (k.add (.look k.caret))
  | '$' => pure (k.add (.look k.dollar))
  | c => pure (k.add (.set (k.flags.fold (.single c))))

def plainStep (k : Core) (c : Char) : Reading :=
  if k.skips c then (k.enter .plain |>.skip c).stay
  else if c = '(' then (k.enter .opened).stay
  else if c = ')' then .ok (k, .closes)
  else do (← k.tokenStep c).stay

/-! Counts -/

def countDigit (n : Count) (d : Nat) : Except Fault Count :=
  let more (value : Nat) : Except Fault Count :=
    if value < limit32 then .ok (.digits value) else .error .badCount
  match n with
  | .fresh => more d
  | .spaced => more d
  | .digits n => more (n * 10 + d)
  | .closed _ => .error .badCount

/-- White space in a count; without the extended option no digits may follow it. -/
def countBlank (k : Core) (n : Count) : Count :=
  if k.flags.extended then n
  else
    match n with
    | .digits n => .closed n
    | .fresh => .spaced
    | n => n

def countStep (k : Core) (n : Count) (c : Char) (mode : Count → Mode) : Reading :=
  if k.skips c then (k.skip c).stay
  else if isBlank c then (k.enter (mode (k.countBlank n))).stay
  else if c.isDigit then do (k.enter (mode (← countDigit n (c.toNat - '0'.toNat)))).stay
  else fail .badCount

def leastStep (k : Core) (n : Count) (c : Char) : Reading :=
  match c, n.value? with
  | ',', some least => (k.enter (.most least .fresh)).stay
  | '}', some least => do (← k.repeatLast least (some 0) .counted).stay
  | _, _ => k.countStep n c .least

def mostStep (k : Core) (least : Nat) (n : Count) (c : Char) : Reading :=
  match c, n with
  | '}', .fresh => do (← k.repeatLast least none .counted).stay
  | '}', n =>
    match n.value? with
    | some most =>
      if least ≤ most then do (← k.repeatLast least (some (most - least)) .counted).stay
      else fail .badCount
    | none => fail .badCount
  | _, _ => k.countStep n c (.most least)

/-! Groups -/

def nameChar (first : Bool) (c : Char) : Bool :=
  c == '_' || (Unicode.property "alpha").contains c ||
    (!first && (c == '.' || c == '[' || c == ']' ||
      (Unicode.categoryUnion ["nd", "nl", "no"]).contains c))

def groupNameStep (k : Core) (reversed : Text) (c : Char) : Reading :=
  if c = '>' then
    let name := reversed.reverse
    if name.isEmpty then fail .badGroupName
    else if (k.names.lookup name).isSome then fail .duplicateGroupName
    else
      let k := k.countGroup
      let k := { k with names := (name, k.groups) :: k.names }
      .ok (k.openGroup (some k.groups) k.flags)
  else if nameChar reversed.isEmpty c then (k.enter (.groupName (c :: reversed))).stay
  else fail .badGroupName

/-- A character among option switches; `seen` has the latest first. -/
def switchStep (k : Core) (seen : Text) (on : Bool) (flags : Flags) (c : Char) : Reading :=
  if c = ':' ∨ c = ')' then
    if seen.head? = some '-' then fail .badFlags
    else if c = ':' then .ok (k.openGroup none flags)
    else if seen.isEmpty then fail .nothingToRepeat
    else { k with frame := k.frame.addSwitch, flags := flags, mode := .plain }.stay
  else if seen.contains c then fail .badFlags
  else if c = '-' then (k.enter (.switches (c :: seen) false flags)).stay
  else
    match flags.set? c on with
    | some flags => (k.enter (.switches (c :: seen) on flags)).stay
    | none => fail .badFlags

/-- The first character of a group. Without a question mark the group is numbered. -/
def openedStep (k : Core) (c : Char) : Reading :=
  if k.skips c then (k.skip c).stay
  else if c = '?' then (k.enter .question).stay
  else
    let k := k.countGroup
    if c = ')' then (k.add (.group (some k.groups) .empty)).stay
    else do
      let (inner, motion) := k.openGroup (some k.groups) k.flags
      let (inner, _) ← inner.plainStep c
      pure (inner, motion)

def questionStep (k : Core) (c : Char) : Reading :=
  match c with
  | 'P' => (k.enter .questionP).stay
  | '<' => (k.enter .angle).stay
  | '=' => fail .lookaround
  | '!' => fail .lookaround
  | c => k.switchStep [] true k.flags c

/-! Codes and names -/

def hexDigit? (c : Char) : Option Nat := digitValue? c

def codeStep (k : Core) (place : Place) (digits : Nat) (c : Char) : Except Fault Core :=
  if c = '{' then pure (k.enter (.codeBrace place none))
  else
    match hexDigit? c with
    | some d => pure (k.enter (.codeDigits place (digits == 2) (digits - 2) d))
    | none => .error .badCode

def codeDigitsStep (k : Core) (place : Place) (short : Bool) (missing value : Nat) (c : Char) :
    Except Fault Core :=
  match hexDigit? c, missing with
  | some d, 0 => k.deliverCode place short (value * 16 + d)
  | some d, missing + 1 => pure (k.enter (.codeDigits place short missing (value * 16 + d)))
  | none, _ => .error .badCode

def codeBraceStep (k : Core) (place : Place) (value : Option Nat) (c : Char) :
    Except Fault Core :=
  if c = '}' then
    match value with
    | some code => k.deliverCode place false code
    | none => .error .badCode
  else
    match hexDigit? c with
    | some d => pure (k.enter (.codeBrace place (some (value.getD 0 * 16 + d))))
    | none => .error .badCode

def propertyStep (k : Core) (place : Place) (negated : Bool) (c : Char) : Except Fault Core :=
  if c = '{' then pure (k.enter (.propertyName place negated []))
  else if c = '\\' then .error .unknownProperty
  else k.deliverProperty place negated (Unicode.bare? [c])

def namedEdge? (name : Text) (ascii : Bool) : Option Look :=
  if name = "start".toList then some (.wordStart ascii)
  else if name = "end".toList then some (.wordEnd ascii)
  else if name = "start-half".toList then some (.noWordBefore ascii)
  else if name = "end-half".toList then some (.noWordAfter ascii)
  else none

/-- A character in the braces behind a word edge. If it cannot belong to a name, the braces
hold a count. -/
def edgeNameStep (k : Core) (reversed : Text) (c : Char) : Reading :=
  if k.skips c then (k.skip c).stay
  else if c.isAlpha || c == '-' then (k.enter (.edgeName (c :: reversed))).stay
  else if reversed.isEmpty then (k.enter (.least .fresh)).leastStep .fresh c
  else
    match c, namedEdge? reversed.reverse (!k.flags.unicode) with
    | '}', some l => do
      let frame ← k.frame.mapLast fun _ => .look l
      { k with frame := frame, mode := .plain }.stay
    | _, _ => fail .badEscape

/-! Classes, continued -/

/-- A character that may belong to the name of an ASCII set; `reversed` has the colon and the
caret too, so that a class can be made of it if there is no such name. -/
def classNameStep (k : Core) (negated : Bool) (reversed : Text) (c : Char) : Except Fault Core :=
  if c = ':' then pure (k.enter (.classNameEnd negated reversed))
  else if c.isLower then pure (k.enter (.className negated (c :: reversed)))
  else if c = '^' ∧ reversed.length = 1 then pure (k.enter (.className true (c :: reversed)))
  else k.reopen reversed.reverse c

def classNameEndStep (k : Core) (negated : Bool) (reversed : Text) (c : Char) :
    Except Fault Core :=
  let name := reversed.reverse.filter Char.isLower
  match c, asciiNamed.lookup (String.ofList name) with
  | ']', some s => do
    let s ← k.flags.foldNegate negated s
    pure ((← k.addItem (.set s)).enter .classItems)
  | _, _ => k.reopen (reversed.reverse ++ [':']) c

def hyphenStep (k : Core) (item : Item) (spaced : Bool) (c : Char) : Except Fault Core :=
  if c = ']' then do
    (← (← k.addItem item).addItem (.char '-')).closeBracket
  else if c = '-' then do
    let k ← k.addItem item
    if spaced then pure (k.enter (.classHyphen (.char '-') false)) else pure (k.operator .diff)
  else if c = '\\' then pure (k.enter (.escape (.rangeEnd item)))
  else k.deliverChar (.rangeEnd item) c

def operatorStep (k : Core) (first : Char) (c : Char) : Except Fault Core :=
  if c = first then
    pure (k.operator (if c = '&' then .inter else if c = '~' then .symmDiff else .diff))
  else k.itemStep (.char first) c

/-- A mode in which white space and comments are passed over if the option is on. -/
def passes : Mode → Bool
  | .counted => true
  | .code _ _ => true
  | .codeDigits _ _ _ _ => true
  | .codeBrace _ _ => true
  | .property _ _ => true
  | .propertyName _ _ _ => true
  | .classStart _ _ => true
  | .classItems => true
  | .classItem _ => true
  | .classHyphen _ _ => true
  | _ => false

def passed : Mode → Mode
  | .classHyphen item _ => .classHyphen item true
  | mode => mode

def step (k : Core) (c : Char) : Reading :=
  if k.comment then { k with comment := c != '\n' }.stay
  else if passes k.mode && k.skips c then ((k.enter (passed k.mode)).skip c).stay
  else
    match k.mode with
    | .plain => k.plainStep c
    | .repeated => if c = '?' then do (← k.turnLast).stay else k.plainStep c
    | .counted => if c = '?' then do (← k.turnLast).stay else k.plainStep c
    | .least n => k.leastStep n c
    | .most least n => k.mostStep least n c
    | .opened => k.openedStep c
    | .question => k.questionStep c
    | .questionP => if c = '<' then (k.enter (.groupName [])).stay else fail .badFlags
    | .angle => if c = '=' ∨ c = '!' then fail .lookaround else k.groupNameStep [] c
    | .groupName reversed => k.groupNameStep reversed c
    | .switches seen on flags => k.switchStep seen on flags c
    | .escape place => do (← k.escapeStep place c).stay
    | .code place digits => do (← k.codeStep place digits c).stay
    | .codeDigits place short missing value => do
      (← k.codeDigitsStep place short missing value c).stay
    | .codeBrace place value => do (← k.codeBraceStep place value c).stay
    | .property place negated => do (← k.propertyStep place negated c).stay
    | .propertyName place negated reversed =>
      if c = '}' then do (← k.deliverPropertyName place negated reversed.reverse).stay
      else (k.enter (.propertyName place negated (c :: reversed))).stay
    | .edge => if c = '{' then (k.enter (.edgeName [])).stay else k.plainStep c
    | .edgeName reversed => k.edgeNameStep reversed c
    | .classStart caret hyphens => do (← k.startStep caret hyphens c).stay
    | .classItems => do (← k.classStep c).stay
    | .classOperator first => do (← k.operatorStep first c).stay
    | .classItem item => do (← k.itemStep item c).stay
    | .classHyphen item spaced => do (← k.hyphenStep item spaced c).stay
    | .classBracket =>
      if c = ':' then (k.enter (.className false [c])).stay
      else if k.skips c then (k.openBracket.skip c).stay
      else do (← k.openBracket.startStep true false c).stay
    | .className negated reversed => do (← k.classNameStep negated reversed c).stay
    | .classNameEnd negated reversed => do (← k.classNameEndStep negated reversed c).stay

def atEnd : Mode → Bool
  | .plain => true
  | .repeated => true
  | .counted => true
  | .edge => true
  | _ => false

end Core

/-- A group that is still open: its number, and the branch and options to go back to. -/
structure Enclosing where
  number : Option Nat
  frame : Frame
  flags : Flags
deriving DecidableEq, Repr

structure Reader where
  core : Core := {}
  enclosing : List Enclosing := []
deriving DecidableEq, Repr

namespace Reader

def move (r : Reader) (k : Core) : Motion → Except Fault Reader
  | .stay => .ok { r with core := k }
  | .opens number frame flags => .ok ⟨k, ⟨number, frame, flags⟩ :: r.enclosing⟩
  | .closes =>
    match r.enclosing with
    | [] => .error .unopenedGroup
    | e :: rest =>
      .ok ⟨{ k with
        frame := e.frame.add (.group e.number k.frame.expr), flags := e.flags,
        mode := .plain }, rest⟩

def step (r : Reader) (c : Char) : Except Fault Reader := do
  let (k, motion) ← r.core.step c
  r.move k motion

def finish (r : Reader) : Except Fault Core :=
  if !Core.atEnd r.core.mode then .error .unfinished
  else if !r.enclosing.isEmpty then .error .unclosedGroup
  else .ok r.core

end Reader

def read (source : Text) : Except Fault Core := do
  (← source.foldlM Reader.step {}).finish

end Phrasebook.Pattern
