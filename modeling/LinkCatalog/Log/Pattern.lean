import LinkCatalog.Text.Blank
import LinkCatalog.Text.Digits
import LinkCatalog.Text.WordChar

/-!
# Patterns of field values

Which texts are patterns, that is, regular expressions. A pattern is only checked here: it says
something about the fields of an activity, and no event is logged within one.

A pattern is read from the front. The reader keeps the open groups and the open classes, and of what
is complete only the height, since patterns may be nested up to a limit.

## Main definitions

- `Pattern.Mode` — how the text of a pattern is taken
- `Pattern.escape?` — what a backslash and the characters behind it stand for
- `Pattern.Reader.step?` — what one part of a pattern does
- `Pattern.check` — whether a text is a pattern

## Design notes

A pattern stands within braces, between commas and behind an equals sign, so it has none of the
characters that end there. Hence a count in braces is never complete, nor is a name or a number in
braces behind a backslash, and a brace that would open one is refused.
-/

namespace LinkCatalog.Pattern

/-- Why a text cannot be used as a pattern. -/
inductive Error where
  | malformed
  /-- It asks for the boundary of a word of any script. -/
  | wordBoundary
deriving DecidableEq, Repr

/-- The wording of an error. -/
def Error.message : Error → String
  | .malformed => "error building NFA"
  | .wordBoundary => "unsupported regex feature for DFAs: cannot build DFAs for regexes with " ++
      "Unicode word boundaries; switch to ASCII word boundaries, or heuristically enable " ++
      "Unicode word boundaries or use a different regex engine"

/-- How deep a pattern may be nested. -/
def maxHeight : Nat := 250

/-- How the text of a pattern is taken. -/
structure Mode where
  /-- Characters of all scripts are told apart. Otherwise a pattern is about bytes, and those
      beyond ASCII must not be matched one by one. -/
  unicode : Bool := true
  /-- White space and comments between the parts have no meaning. -/
  spaced : Bool := false
deriving DecidableEq, Repr

/-- A text without the white space and the comments in front of it. -/
def skipSpace (inComment : Bool) : List Char → List Char
  | [] => []
  | c :: cs =>
    if inComment then skipSpace (c != '\n') cs
    else if c = '#' then skipSpace true cs
    else if Text.isBlank c then skipSpace false cs
    else c :: cs

/-- A text without what has no meaning in front of it. -/
def Mode.skip (mode : Mode) (cs : List Char) : List Char :=
  if mode.spaced then skipSpace false cs else cs

-- ════════════════════════════════════════════════════════════════════════
-- Escapes
-- ════════════════════════════════════════════════════════════════════════

/-- What a backslash and the characters behind it stand for. -/
inductive Atom where
  | char (c : Char)
  /-- Any character of a set. -/
  | set
  /-- An end of the text. -/
  | textEnd
  /-- The boundary of a word. -/
  | boundary
deriving DecidableEq, Repr

/-- As many characters as asked for, without what has no meaning between them, and the text behind
    them. -/
def digits? (mode : Mode) : (width : Nat) → List Char → Option (List Char × List Char)
  | 0, cs => some ([], cs)
  | width + 1, cs =>
    match mode.skip cs with
    | c :: cs => (digits? mode width cs).map fun (digits, rest) => (c :: digits, rest)
    | [] => none

/-- The character whose number is given by hexadecimal digits. Two digits may also give a byte,
    which must be ASCII then. -/
def hexChar? (mode : Mode) (width : Nat) (cs : List Char) : Option (Atom × List Char) := do
  let (digits, rest) ← digits? mode width cs
  let n ← Digits.ofHex? digits
  if n.isValidChar ∧ (mode.unicode ∨ width ≠ 2 ∨ n < 0x80) then
    return (.char (Char.ofNat n), rest)
  else none

/-- A general category, given by its letter. -/
def category? (mode : Mode) (cs : List Char) : Option (Atom × List Char) :=
  match mode.skip cs with
  | c :: rest =>
    if mode.unicode && "clmnpsz".toList.contains c.toLower then some (.set, rest) else none
  | [] => none

/-- What the characters behind a backslash stand for, and the text behind them. -/
def escape? (mode : Mode) : List Char → Option (Atom × List Char)
  | 'x' :: cs => hexChar? mode 2 cs
  | 'u' :: cs => hexChar? mode 4 cs
  | 'U' :: cs => hexChar? mode 8 cs
  | 'p' :: cs | 'P' :: cs => category? mode cs
  | 'd' :: cs | 's' :: cs | 'w' :: cs => some (.set, cs)
  | 'D' :: cs | 'S' :: cs | 'W' :: cs => if mode.unicode then some (.set, cs) else none
  | 'A' :: cs | 'z' :: cs => some (.textEnd, cs)
  | 'b' :: cs | 'B' :: cs | '<' :: cs | '>' :: cs => some (.boundary, cs)
  | 'a' :: cs => some (.char '\x07', cs)
  | 'f' :: cs => some (.char '\x0c', cs)
  | 'n' :: cs => some (.char '\n', cs)
  | 'r' :: cs => some (.char '\r', cs)
  | 't' :: cs => some (.char '\t', cs)
  | 'v' :: cs => some (.char '\x0b', cs)
  | c :: cs => if c.toNat < 0x80 && !c.isAlphanum then some (.char c, cs) else none
  | [] => none

-- ════════════════════════════════════════════════════════════════════════
-- Groups and classes
-- ════════════════════════════════════════════════════════════════════════

/-- The height of parts next to each other. A single part stands for itself. -/
def joinHeights : List Nat → Nat
  | [] => 0
  | [height] => height
  | heights => heights.foldl max 0 + 1

/-- A part of an alternative. -/
inductive Item where
  /-- A change of the mode, which cannot be repeated. -/
  | modeChange
  | expression (height : Nat)
deriving DecidableEq, Repr

/-- The height of an item. -/
def Item.height : Item → Nat
  | .modeChange => 0
  | .expression height => height

/-- A group that is open, or the whole pattern. -/
structure Group where
  /-- The mode around the group. -/
  outer : Mode := {}
  /-- The heights of the alternatives that are complete. -/
  alternatives : List Nat := []
  /-- The parts of the last alternative, last first. -/
  items : List Item := []
deriving DecidableEq, Repr

namespace Group

/-- The height of the last alternative. -/
def lastHeight (group : Group) : Nat :=
  joinHeights (group.items.map Item.height)

/-- The height of what stands within the group. -/
def height (group : Group) : Nat :=
  joinHeights (group.lastHeight :: group.alternatives)

end Group

/-- A class that is open. -/
structure CharClass where
  /-- Nothing but hyphens has been read, so hyphens stand for themselves. -/
  isNew : Bool := true
  /-- The height of what stands before the last operator. -/
  left : Option Nat := none
  /-- The heights of the items behind the last operator. -/
  items : List Nat := []
deriving DecidableEq, Repr

namespace CharClass

/-- The height of what stands within the brackets. -/
def height (charClass : CharClass) : Nat :=
  match charClass.left with
  | none => joinHeights charClass.items
  | some left => max left (joinHeights charClass.items) + 1

/-- The class with one more item. -/
def add (charClass : CharClass) (height : Nat) : CharClass :=
  { charClass with isNew := false, items := height :: charClass.items }

/-- The class behind an operator. -/
def operate (charClass : CharClass) : CharClass :=
  { isNew := false, left := some charClass.height, items := [] }

/-- The names of the classes of ASCII characters. -/
def asciiNames : List String :=
  ["alnum", "alpha", "ascii", "blank", "cntrl", "digit", "graph", "lower", "print", "punct",
    "space", "upper", "word", "xdigit"]

/-- A named class behind its opening bracket: whether it is negated, and the text behind it. -/
def named? : List Char → Option (Bool × List Char)
  | ':' :: cs =>
    let (negated, cs) := match cs with
      | '^' :: rest => (true, rest)
      | _ => (false, cs)
    match cs.dropWhile (· != ':') with
    | ':' :: ']' :: rest =>
      if asciiNames.contains (String.ofList (cs.takeWhile (· != ':'))) then some (negated, rest)
      else none
    | _ => none
  | _ => none

/-- One end of a range, or an item of its own, and the text behind it. -/
def atom? (mode : Mode) : Char → List Char → Option (Atom × List Char)
  | '\\', cs => escape? mode cs
  | c, cs => some (.char c, cs)

/-- Whether a character may be an item of a class. -/
def allows (mode : Mode) (c : Char) : Bool :=
  mode.unicode || c.toNat < 0x80

/-- The character behind white space, of which a number sign may be a part. -/
def peek? (mode : Mode) (cs : List Char) : Option Char :=
  if mode.spaced then
    match cs.dropWhile Text.isBlank with
    | '#' :: rest => (rest.dropWhile Text.isBlank).head?
    | rest => rest.head?
  else cs.head?

/-- Whether a hyphen in front of a text makes a range with what follows it. -/
def isRangeMark (mode : Mode) (behind : List Char) : Bool :=
  peek? mode behind != some ']' && peek? mode behind != some '-'

/-- Reads an item of a class that starts with the given character: a character, a set or a range.
    The text behind it is returned. -/
def item? (mode : Mode) (c : Char) (cs : List Char) : Option (List Char) := do
  let (first, rest) ← atom? mode c cs
  let single : Option (List Char) :=
    match first with
    | .char c => if allows mode c then some rest else none
    | .set => some rest
    | .textEnd | .boundary => none
  match mode.skip rest with
  | '-' :: behind =>
    if isRangeMark mode behind then
      match mode.skip behind with
      | c :: cs =>
        let (last, rest) ← atom? mode c cs
        match first, last with
        | .char least, .char greatest =>
          if least ≤ greatest && allows mode least && allows mode greatest then some rest else none
        | _, _ => none
      | [] => none
    else single
  | _ => single

end CharClass

-- ════════════════════════════════════════════════════════════════════════
-- Reading
-- ════════════════════════════════════════════════════════════════════════

/-- What has been read of a pattern. -/
structure Reader where
  mode : Mode := {}
  /-- The innermost open group. -/
  group : Group := {}
  /-- The groups around it, innermost first. -/
  outerGroups : List Group := []
  /-- The open classes, innermost first. -/
  classes : List CharClass := []
  /-- The names of groups. -/
  names : List (List Char) := []
  /-- Whether the boundary of a word of any script is asked for. -/
  hasBoundary : Bool := false
deriving DecidableEq, Repr

namespace Reader

/-- The reader after one more item. -/
def add (reader : Reader) (item : Item) : Reader :=
  { reader with group := { reader.group with items := item :: reader.group.items } }

/-- The reader after an expression without parts. -/
def addLeaf (reader : Reader) : Reader :=
  reader.add (.expression 0)

/-- The reader within a new group. -/
def openGroup (reader : Reader) (mode : Mode) : Reader :=
  { reader with
    mode
    group := { outer := reader.mode }
    outerGroups := reader.group :: reader.outerGroups }

/-- The reader behind the innermost group, which must not be the whole pattern. -/
def closeGroup? (reader : Reader) : Option Reader :=
  match reader.outerGroups with
  | outer :: outerGroups =>
    some ({ reader with mode := reader.group.outer, group := outer, outerGroups }.add
      (.expression (reader.group.height + 1)))
  | [] => none

/-- The reader within the next alternative. -/
def openAlternative (reader : Reader) : Reader :=
  let group := reader.group
  { reader with
    group := { group with
      alternatives := group.lastHeight :: group.alternatives
      items := [] } }

/-- The reader behind a repetition of the last item, and the text behind it; a question mark makes
    the repetition short. -/
def repeat? (reader : Reader) (cs : List Char) : Option (Reader × List Char) :=
  match reader.group.items with
  | .expression height :: items =>
    let group := { reader.group with items := .expression (height + 1) :: items }
    let rest := match cs with
      | '?' :: rest => rest
      | _ => cs
    some ({ reader with group }, rest)
  | _ => none

/-- Whether a text may be the name of a group. -/
def isGroupName : List Char → Bool
  | [] => false
  | c :: cs =>
    (c == '_' || Text.isLetter c) &&
      cs.all fun c => Text.isWordChar c || ['_', '.', '[', ']'].contains c

/-- Reads the name of a group up to its closing bracket. -/
def named? (reader : Reader) (cs : List Char) : Option (Reader × List Char) :=
  let name := cs.takeWhile (· != '>')
  match cs.dropWhile (· != '>') with
  | _ :: rest =>
    if isGroupName name && !reader.names.contains name then
      some ({ reader.openGroup reader.mode with names := name :: reader.names }, rest)
    else none
  | [] => none

/-- The mode that flags ask for. Those behind a hyphen are switched off. -/
def setFlags? (mode : Mode) (flags : List Char) : Option Mode :=
  let known := "imsUuRx-".toList
  if flags.all known.contains && flags.eraseDups == flags && flags.getLast? != some '-' then
    let on := flags.takeWhile (· != '-')
    let off := flags.dropWhile (· != '-')
    some { unicode := on.contains 'u' || mode.unicode && !off.contains 'u'
           spaced := on.contains 'x' || mode.spaced && !off.contains 'x' }
  else none

/-- Reads flags, which hold for a group or for the rest of the group that they stand in. -/
def flags? (reader : Reader) (cs : List Char) : Option (Reader × List Char) := do
  let isEnd := fun c => c == ':' || c == ')'
  let flags := cs.takeWhile fun c => !isEnd c
  let mode ← setFlags? reader.mode flags
  match cs.dropWhile fun c => !isEnd c with
  | ':' :: rest => some (reader.openGroup mode, rest)
  | _ :: rest => if flags = [] then none else some ({ reader with mode }.add .modeChange, rest)
  | [] => none

/-- Reads what follows an opening parenthesis. -/
def group? (reader : Reader) (cs : List Char) : Option (Reader × List Char) :=
  match reader.mode.skip cs with
  | '?' :: 'P' :: '<' :: cs | '?' :: '<' :: cs => reader.named? cs
  | '?' :: cs => reader.flags? cs
  | cs => some (reader.openGroup reader.mode, cs)

/-- Reads what follows the opening bracket of a class. A class of bytes cannot be negated, as it
    would match bytes beyond ASCII. -/
def class? (reader : Reader) (cs : List Char) : Option (Reader × List Char) :=
  let opened := { reader with classes := {} :: reader.classes }
  match reader.mode.skip cs with
  | '^' :: cs => if reader.mode.unicode then some (opened, cs) else none
  | cs => some (opened, cs)

/-- The reader behind the innermost class, which stands in the given ones. -/
def closeClass (reader : Reader) (charClass : CharClass) (outer : List CharClass) : Reader :=
  let height := charClass.height + 1
  match outer with
  | next :: outer => { reader with classes := next.add height :: outer }
  | [] => { reader with classes := [] }.add (.expression height)

/-- Reads a part of a class that starts with the given character. -/
def stepInClass? (reader : Reader) (charClass : CharClass) (outer : List CharClass) (c : Char)
    (cs : List Char) : Option (Reader × List Char) :=
  let update := fun charClass => { reader with classes := charClass :: outer }
  let added := update (charClass.add 0)
  if charClass.isNew && c == '-' then some (update { charClass.add 0 with isNew := true }, cs)
  else if charClass.isNew && c == ']' && charClass.items.isEmpty then some (added, cs)
  else
    match c, cs with
    | '[', cs =>
      match CharClass.named? cs with
      | some (negated, rest) =>
        if negated && !reader.mode.unicode then none else some (added, rest)
      | none => (update { charClass with isNew := false }).class? cs
    | ']', cs => some (reader.closeClass charClass outer, cs)
    | '&', '&' :: rest | '-', '-' :: rest | '~', '~' :: rest =>
      some (update charClass.operate, rest)
    | c, cs => (CharClass.item? reader.mode c cs).map fun rest => (added, rest)

/-- Reads a part of a pattern that starts with the given character. -/
def step? (reader : Reader) (c : Char) (cs : List Char) : Option (Reader × List Char) :=
  match reader.classes with
  | charClass :: outer => reader.stepInClass? charClass outer c cs
  | [] =>
    match c with
    | '(' => reader.group? cs
    | ')' => reader.closeGroup?.map fun reader => (reader, cs)
    | '|' => some (reader.openAlternative, cs)
    | '[' => reader.class? cs
    | '?' | '*' | '+' => reader.repeat? cs
    | '\x7b' => none
    | '.' => if reader.mode.unicode then some (reader.addLeaf, cs) else none
    | '\\' =>
      (escape? reader.mode cs).map fun (atom, rest) =>
        let isBoundary := atom == .boundary && reader.mode.unicode
        ({ reader.addLeaf with hasBoundary := reader.hasBoundary || isBoundary }, rest)
    | _ => some (reader.addLeaf, cs)

/-- Reads a text to its end. The bound on the number of parts is the length of the text, since every
    part takes a character. -/
def readUpTo? : (bound : Nat) → Reader → List Char → Option Reader
  | bound, reader, cs =>
    match reader.mode.skip cs with
    | [] => some reader
    | c :: cs =>
      match bound with
      | 0 => none
      | bound + 1 => do
        let (reader, rest) ← reader.step? c cs
        readUpTo? bound reader rest

/-- Whether the pattern is complete and not nested too deep. -/
def isComplete (reader : Reader) : Bool :=
  reader.outerGroups.isEmpty && reader.classes.isEmpty && reader.group.height ≤ maxHeight

end Reader

/-- Checks whether a text is a pattern. -/
def check (text : List Char) : Except Error Unit :=
  match Reader.readUpTo? text.length {} text with
  | some reader =>
    if !reader.isComplete then .error .malformed
    else if reader.hasBoundary then .error .wordBoundary
    else .ok ()
  | none => .error .malformed

end LinkCatalog.Pattern
