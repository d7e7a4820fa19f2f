import Keyring.Url.Basic
import Keyring.Url.Domain
import Keyring.Url.Percent

/-!
Reading addresses.

Tabs and line ends do not count anywhere in an address, with one exception: one right after the
letter and the colon of a drive ends the first step of a file.

* `Url.parse`: the address that a text stands for.
* `Url.join`: the address that a text stands for where another address is known.
* `Url.Fault.message`: the wording of what is wrong with a text.
-/

namespace Keyring.Url

/-- Why a text is no address. -/
inductive Fault where
  | emptyHost
  | badDomain
  | badPort
  | badFour
  | badEight
  | badHostCharacter
  | relative
  | relativeToPlain
  deriving Repr, DecidableEq

/-- The wording of a fault. -/
def Fault.message : Fault → String
  | .emptyHost => "empty host"
  | .badDomain => "invalid international domain name"
  | .badPort => "invalid port number"
  | .badFour => "invalid IPv4 address"
  | .badEight => "invalid IPv6 address"
  | .badHostCharacter => "invalid domain character"
  | .relative => "relative URL without a base"
  | .relativeToPlain => "relative URL with a cannot-be-a-base base"

/-! ### Characters -/

/-- Whether a character is an ASCII letter. -/
def isLetter (c : Char) : Bool := ('a' ≤ c && c ≤ 'z') || ('A' ≤ c && c ≤ 'Z')

/-- Whether a character may follow the first one of a scheme. -/
def isSchemeCharacter (c : Char) : Bool :=
  isLetter c || Address.isDecimal c || c = '+' || c = '-' || c = '.'

/-- Whether a character separates the steps of a path; a backslash does so in special schemes. -/
def isSlash (special : Bool) (c : Char) : Bool := c = '/' || (special && c = '\\')

/-- Whether a character ends a path. -/
def endsPath (c : Char) : Bool := c = '?' || c = '#'

/-- Whether a character ends an authority. -/
def endsAuthority (special : Bool) (c : Char) : Bool := isSlash special c || endsPath c

/-- Whether a character is a tab or ends a line: such characters are left out of an address. -/
def isBreak (c : Char) : Bool := c = '\t' || c = '\n' || c = '\r'

/-- A text without its breaks. -/
def unbroken (cs : List Char) : List Char := cs.filter (!isBreak ·)

/-- A text without blanks and control characters at its ends. -/
def trimmed (cs : List Char) : List Char :=
  let outer (c : Char) : Bool := c ≤ ' '
  ((cs.dropWhile outer).reverse.dropWhile outer).reverse

/-- What follows the first characters of a text, the breaks not counted. Breaks that stand there
stay. -/
def afterUnbroken : Nat → List Char → List Char
  | 0, cs => cs
  | _, [] => []
  | n + 1, c :: r => if isBreak c then afterUnbroken (n + 1) r else afterUnbroken n r

/-- A scheme in lower case, and what follows its colon. -/
def splitScheme? (cs : List Char) : Option (String × List Char) :=
  match unbroken (cs.takeWhile (· ≠ ':')), cs.dropWhile (· ≠ ':') with
  | c :: r, _ :: rest =>
    if isLetter c && r.all isSchemeCharacter then
      some (String.ofList ((c :: r).map Char.toLower), rest)
    else none
  | _, _ => none

/-! ### Hosts -/

/-- An address in brackets. -/
def parseBracketed (cs : List Char) : Except Fault Host :=
  match cs.reverse with
  | ']' :: r =>
    match Address.readEight? r.reverse with
    | some gs => .ok (.eight gs)
    | none => .error .badEight
  | _ => .error .badEight

/-- A character that may not stand in the host of a scheme that is not special. -/
def isForbiddenInHost (c : Char) : Bool :=
  ['\x00', '\t', '\n', '\r', ' ', '#', '/', ':', '<', '>', '?', '@', '[', '\\', ']', '^',
    '|'].contains c

/-- The host of a scheme that is not special: kept as it is. None if it is empty. -/
def parseAnyHost (cs : List Char) : Except Fault (Option Host) :=
  match cs with
  | [] => .ok none
  | '[' :: r => (parseBracketed r).map some
  | cs =>
    if cs.any isForbiddenInHost then .error .badHostCharacter
    else .ok (some (.name (String.ofList (Percent.encode Percent.isControl cs))))

/-- The host of a special scheme: an address or a domain name. -/
def parseHost (cs : List Char) : Except Fault Host :=
  match cs with
  | '[' :: r => parseBracketed r
  | cs =>
    match Domain.toAscii? (Percent.decode (Utf8.encode cs)) with
    | none => .error .badDomain
    | some name =>
      if name.isEmpty then .error .emptyHost
      else if Address.endsInNumber name then
        match Address.readFour? name with
        | some n => .ok (.four n)
        | none => .error .badFour
      else .ok (.name (String.ofList name))

/-- The text of a host, up to a colon outside brackets or the end of the authority, and what follows
it. -/
def splitHost (special : Bool) (inside : Bool) : List Char → List Char × List Char
  | [] => ([], [])
  | c :: r =>
    if (c = ':' && !inside) || endsAuthority special c then ([], c :: r)
    else
      let inside := if c = '[' then true else if c = ']' then false else inside
      let (h, rest) := splitHost special inside r
      (c :: h, rest)

/-- A port, unless it is the default, and what follows it. -/
def parsePort (scheme : String) (cs : List Char) : Except Fault (Option Nat × List Char) :=
  let digits := cs.takeWhile Address.isDecimal
  let rest := cs.dropWhile Address.isDecimal
  let value := digits.foldl (fun n c => n * 10 + (c.toNat - '0'.toNat)) 0
  if 65535 < value then .error .badPort
  else if rest.head?.all (endsAuthority true) then
    .ok (if digits.isEmpty || defaultPort? scheme = some value then none else some value, rest)
  else .error .badPort

/-! ### Authorities -/

/-- What precedes the last `@` of an authority, if there is one, and what follows it. -/
def splitUser (special : Bool) (cs : List Char) : Option (List Char) × List Char :=
  let extent := cs.takeWhile (!endsAuthority special ·)
  let tail := (extent.reverse.takeWhile (· ≠ '@')).reverse
  if tail.length = extent.length then (none, cs)
  else
    let n := extent.length - tail.length - 1
    (some (extent.take n), cs.drop (n + 1))

/-- A user's name and password, separated by the first colon. A password that is empty is none. -/
def parseUser (cs : List Char) : String × Option String :=
  let encoded (cs : List Char) := String.ofList (Percent.encode Percent.inUser cs)
  match cs.dropWhile (· ≠ ':') with
  | _ :: c :: r => (encoded (cs.takeWhile (· ≠ ':')), some (encoded (c :: r)))
  | _ => (encoded (cs.takeWhile (· ≠ ':')), none)

/-- What follows the slashes, and what follows it. -/
def parseAuthority (scheme : String) (cs : List Char) : Except Fault (Authority × List Char) := do
  let special := isSpecial scheme
  let (before, rest) := splitUser special cs
  if before = some [] && rest.head?.any (endsAuthority special) then throw .emptyHost
  let (user, password) := parseUser (before.getD [])
  let (text, rest) := splitHost special false rest
  if special && text.isEmpty then throw .emptyHost
  let host ← if special then (parseHost text).map some else parseAnyHost text
  if host.isNone && (rest.head? = some ':' || !user.isEmpty || password.isSome) then
    throw .emptyHost
  let (port, rest) ←
    match rest with
    | ':' :: r => parsePort scheme r
    | r => .ok (none, r)
  return (⟨user, password, host, port⟩, rest)

/-! ### Paths -/

/-- A step that means the one before: two points, each of which may be encoded. -/
def isParent (step : List Char) : Bool :=
  let s := step.map Char.toLower
  s = ['.', '.'] || s = "%2e.".toList || s = ".%2e".toList || s = "%2e%2e".toList

/-- A step that means itself: one point, which may be encoded. -/
def isSame (step : List Char) : Bool :=
  let s := step.map Char.toLower
  s = ['.'] || s = "%2e".toList

/-- A letter and a colon or a bar. -/
def isDrive : List Char → Bool
  | [c, d] => isLetter c && (d = ':' || d = '|')
  | _ => false

/-- The steps taken so far. -/
structure Walk where
  /-- The steps, in their order. -/
  names : List String
  /-- Whether the first step is the drive of a file, which takes the place of a host. -/
  onDrive : Bool

/-- The steps taken so far without the last one. A step that looks like a drive stays. -/
def Walk.shorten (walk : Walk) : Walk :=
  if walk.names.getLast?.any (isDrive ·.toList) then walk
  else { walk with names := walk.names.dropLast }

/-- What follows the letter and the colon that begin a step, if a break stands between the two and
it is not empty. -/
def afterBrokenDrive? (step : List Char) : Option (List Char) :=
  let rest := afterUnbroken 2 step
  match unbroken step with
  | c :: ':' :: _ :: _ =>
    if isLetter c && rest.head?.any isBreak then some (unbroken rest) else none
  | _ => none

/-- A step as it is written. -/
def stepText (step : List Char) : String := String.ofList (Percent.encode Percent.inPath step)

/-- One more step, which means neither itself nor its parent. The first step of a file may be a
drive, which is written with a colon; a break after the colon ends the step. -/
def Walk.add (file : Bool) (walk : Walk) (step : List Char) : Walk :=
  let text := unbroken step
  if file && walk.names.isEmpty then
    if isDrive text then ⟨[String.ofList (text.take 1 ++ [':'])], true⟩
    else
      match afterBrokenDrive? step with
      | some rest => { walk with names := [stepText (text.take 2), stepText rest] }
      | none => { walk with names := [stepText text] }
  else { walk with names := walk.names ++ [stepText text] }

/-- Steps taken after those already taken. One that means itself or its parent leaves an empty step
if it is the last. -/
def Walk.take (file : Bool) (walk : Walk) : List (List Char) → Walk
  | [] => walk
  | step :: more =>
    let last (walk : Walk) : Walk :=
      if more.isEmpty then { walk with names := walk.names ++ [""] } else walk
    let next :=
      if isParent (unbroken step) then last walk.shorten
      else if isSame (unbroken step) then last walk
      else walk.add file step
    next.take file more

/-- The path of a file has no empty steps in front. -/
def withoutEmpty (names : List String) : List String :=
  match names.dropWhile (· = "") with
  | [] => [""]
  | names => names

/-- The steps that the path in front of a text takes, after steps already taken. The text holds
breaks only where it is of a file. -/
def walkPath (scheme : String) (taken : List String) (cs : List Char) : Walk :=
  Walk.take (scheme = "file") ⟨taken, false⟩
    ((cs.takeWhile (!endsPath ·)).splitOnP (isSlash (isSpecial scheme)))

/-- The path of a text, after steps already taken, and what follows it. -/
def parseSteps (scheme : String) (taken : List String) (cs : List Char) : Path × List Char :=
  (.steps (walkPath scheme taken cs).names, cs.dropWhile (!endsPath ·))

/-- The path after an authority, and what follows it. A special scheme always has one. -/
def parsePathStart (scheme : String) (cs : List Char) : Path × List Char :=
  let special := isSpecial scheme
  match cs with
  | [] => (.steps (if special then [""] else []), [])
  | c :: r =>
    if isSlash special c then parseSteps scheme [] r
    else if endsPath c && !special then (.steps [], c :: r)
    else parseSteps scheme [] (c :: r)

/-! ### Queries and fragments -/

/-- What follows a path. -/
def parseTail (scheme : String) (cs : List Char) : Option String × Option String :=
  let fragment (cs : List Char) := String.ofList (Percent.encode Percent.inFragment cs)
  let query (cs : List Char) := String.ofList
    (Percent.encode (if isSpecial scheme then Percent.inSpecialQuery else Percent.inQuery) cs)
  match cs with
  | '?' :: r =>
    let q := r.takeWhile (· ≠ '#')
    match r.dropWhile (· ≠ '#') with
    | _ :: f => (some (query q), some (fragment f))
    | [] => (some (query q), none)
  | '#' :: f => (none, some (fragment f))
  | _ => (none, none)

/-- An address of the parts read and what follows the path. -/
def assemble (scheme : String) (authority : Option Authority) (path : Path × List Char) : Url :=
  let (query, fragment) := parseTail scheme path.2
  { scheme, authority, path := path.1, query, fragment }

/-! ### Whole addresses -/

/-- An address with an authority, after its slashes. -/
def parseWithAuthority (scheme : String) (cs : List Char) : Except Fault Url := do
  let (authority, rest) ← parseAuthority scheme cs
  return assemble scheme (some authority) (parsePathStart scheme rest)

/-- The authority of a file: at most a host, which is none on the machine itself. -/
def fileAuthority (host : Option Host) : Authority :=
  { user := "", password := none
    host := if host = some (.name "localhost") then none else host, port := none }

/-- An address of a file of a path, which may have a slash in front. A drive takes the place of the
host. -/
def assembleFile (host : Option Host) (cs : List Char) : Url :=
  let steps := if (unbroken cs).head?.any (isSlash true) then afterUnbroken 1 cs else cs
  let walk := walkPath "file" [] steps
  assemble "file" (some (fileAuthority (if walk.onDrive then none else host)))
    (.steps (withoutEmpty walk.names), unbroken (steps.dropWhile (!endsPath ·)))

/-- An address of a file, after its scheme. The text still holds its breaks. -/
def parseFile (cs : List Char) : Except Fault Url :=
  match unbroken cs with
  | c :: d :: r =>
    if isSlash true c && isSlash true d then do
      let text := r.takeWhile (!endsAuthority true ·)
      if isDrive text then return assembleFile none (afterUnbroken 2 cs)
      let host ← if text.isEmpty then .ok none else (parseHost text).map some
      return assembleFile host (afterUnbroken (2 + text.length) cs)
    else return assembleFile none cs
  | _ => return assembleFile none cs

/-- An address after its scheme. The text still holds its breaks, which matter to a file alone. -/
def parseAfterScheme (scheme : String) (cs : List Char) : Except Fault Url :=
  if scheme = "file" then parseFile cs
  else
    let cs := unbroken cs
    if isSpecial scheme then parseWithAuthority scheme (cs.dropWhile (isSlash true))
    else
      match cs with
      | '/' :: '/' :: r => parseWithAuthority scheme r
      | '/' :: r => .ok (assemble scheme none (parseSteps scheme [] r))
      | cs =>
        let text := Percent.encode Percent.isControl (cs.takeWhile (!endsPath ·))
        .ok (assemble scheme none (.plain (String.ofList text), cs.dropWhile (!endsPath ·)))

/-- The address that a text stands for. -/
def parse (text : String) : Except Fault Url :=
  match splitScheme? (trimmed text.toList) with
  | some (scheme, rest) => parseAfterScheme scheme rest
  | none => .error .relative

/-- The steps of a path. -/
def Path.names : Path → List String
  | .plain _ => []
  | .steps names => names

/-- The address of a text without a scheme, seen from another address that has steps. -/
def joinRelative (base : Url) (cs : List Char) : Except Fault Url :=
  let special := isSpecial base.scheme
  match cs with
  | [] => .ok { base with fragment := none }
  | c :: r =>
    if c = '#' then .ok { base with fragment := (parseTail base.scheme cs).2 }
    else if c = '?' then
      .ok (assemble base.scheme base.authority (base.path, cs))
    else if isSlash special c then
      match r with
      | d :: t =>
        if isSlash special d then
          if base.scheme = "file" then parseFile cs
          else parseWithAuthority base.scheme (if special then t.dropWhile (isSlash true) else t)
        else .ok (assemble base.scheme base.authority (parseSteps base.scheme [] r))
      | [] => .ok (assemble base.scheme base.authority (parseSteps base.scheme [] []))
    else
      .ok (assemble base.scheme base.authority
        (parseSteps base.scheme base.path.names.dropLast cs))

/-- The address that a text stands for, seen from another address. -/
def join (base : Url) (text : String) : Except Fault Url :=
  let cs := trimmed text.toList
  match splitScheme? cs with
  | some (scheme, rest) =>
    let kept := unbroken rest
    if scheme = base.scheme && isSpecial scheme && scheme ≠ "file"
      && !((kept.take 2).length = 2 && (kept.take 2).all (isSlash true)) then
      joinRelative base kept
    else parseAfterScheme scheme rest
  | none =>
    let kept := unbroken cs
    match base.path with
    | .plain _ => if kept.head? = some '#' then joinRelative base kept else .error .relativeToPlain
    | .steps _ => joinRelative base kept

end Keyring.Url
