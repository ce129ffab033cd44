import FsGateway.Url.Host

/-!
# URLs

An absolute URL consists of a scheme, an optional authority, a path, an optional query and an
optional fragment. The path is a list of segments, or bare text in a URL such as data:,x.

* `text`: the URL as text.
* `parse`: the URL of a text. There is no base that a relative reference could be resolved
  against.
* `append`: the URL with a path after its own text, less the slashes at its end.
-/

namespace FsGateway

/-- The part of a URL between two slashes and the path. -/
structure Url.Authority where
  user : String
  password : String
  host : Url.Host
  port : Option Nat
  deriving DecidableEq, Repr

/-- The path of a URL. -/
inductive Url.Path
  /-- Segments with a slash before each. -/
  | segments (parts : List String)
  /-- Text without a slash at its start. -/
  | bare (s : String)
  deriving DecidableEq, Repr

/-- An absolute URL. -/
structure Url where
  scheme : String
  authority : Option Url.Authority
  path : Url.Path
  query : Option String
  fragment : Option String
  deriving DecidableEq, Repr

namespace Url

/-! ## Text -/

/-- An authority as it stands in a URL, less the slashes before it. -/
def Authority.text (a : Authority) : String :=
  let login :=
    if a.user = "" ∧ a.password = "" then ""
    else if a.password = "" then a.user ++ "@"
    else a.user ++ ":" ++ a.password ++ "@"
  login ++ a.host.text ++ a.port.elim "" fun p => ":" ++ toString p

/-- A path as it stands in a URL. -/
def Path.text : Path → String
  | .segments parts => String.join (parts.map ("/" ++ ·))
  | .bare s => s

/-- Whether the text of a path starts with two slashes. -/
def Path.startsDoubleSlash : Path → Bool
  | .segments ("" :: _ :: _) => true
  | _ => false

/-- A URL as text. A path that starts with two slashes is kept apart from an authority by a dot
segment. -/
def text (u : Url) : String :=
  u.scheme ++ ":"
    ++ (match u.authority with
        | some a => "//" ++ a.text
        | none => if u.path.startsDoubleSlash then "/." else "")
    ++ u.path.text
    ++ u.query.elim "" ("?" ++ ·)
    ++ u.fragment.elim "" ("#" ++ ·)

/-! ## Schemes -/

/-- How URLs of a scheme are read. -/
inductive Kind
  /-- A scheme with an authority that names a host. -/
  | special
  /-- The scheme of files. -/
  | file
  /-- Any other scheme. -/
  | other
  deriving DecidableEq, Repr

/-- The kind of a scheme. -/
def kindOf (scheme : String) : Kind :=
  if scheme = "file" then .file
  else if ["http", "https", "ws", "wss", "ftp"].contains scheme then .special
  else .other

/-- The port that need not be written. -/
def defaultPort? (scheme : String) : Option Nat :=
  [("http", 80), ("https", 443), ("ws", 80), ("wss", 443), ("ftp", 21)].lookup scheme

/-- Whether a character ends a segment. A backslash does in special schemes. -/
def isSlash (kind : Kind) (c : Char) : Bool := c = '/' || (c = '\\' && kind ≠ .other)

/-- Whether a character ends an authority. -/
def endsAuthority (kind : Kind) (c : Char) : Bool := isSlash kind c || c = '?' || c = '#'

/-- Whether a character is a letter of ASCII. -/
def isAlpha (c : Char) : Bool := ('a' ≤ c && c ≤ 'z') || ('A' ≤ c && c ≤ 'Z')

/-- Whether a character is a decimal digit. -/
def isDigit (c : Char) : Bool := '0' ≤ c && c ≤ '9'

/-- The scheme in lowercase and the characters after its colon. -/
def splitScheme (cs : List Char) : Option (String × List Char) :=
  let front := cs.takeWhile fun c => isAlpha c || isDigit c || c = '+' || c = '-' || c = '.'
  match front, cs.drop front.length with
  | c :: _, ':' :: rest =>
    if isAlpha c then some (String.ofList (front.map Char.toLower), rest) else none
  | _, _ => none

/-! ## Authorities -/

/-- The characters before and after the last sign at of an authority, if there is one. -/
def splitLogin (kind : Kind) (cs : List Char) : Option (List Char × List Char) :=
  let authority := cs.takeWhile fun c => !endsAuthority kind c
  if authority.contains '@' then
    let back := (authority.reverse.takeWhile (· ≠ '@')).length
    some (authority.take (authority.length - back - 1), cs.drop (authority.length - back))
  else none

/-- The characters of a host and those after it. A colon within brackets belongs to the host. -/
def splitHost (kind : Kind) : (inBrackets : Bool) → List Char → List Char × List Char
  | _, [] => ([], [])
  | inBrackets, c :: cs =>
    if (c = ':' ∧ !inBrackets) ∨ endsAuthority kind c then ([], c :: cs)
    else
      let (host, rest) := splitHost kind (c = '[' || (inBrackets && c ≠ ']')) cs
      (c :: host, rest)

/-- The port after a colon, unless it is the default one, and the characters after it. -/
def splitPort (scheme : String) (cs : List Char) : Except Fault (Option Nat × List Char) :=
  let digits := cs.takeWhile isDigit
  let rest := cs.drop digits.length
  let port := Host.digitsValue 10 digits
  let ended := match rest with
    | [] => true
    | c :: _ => c = '/' || c = '\\' || c = '?' || c = '#'
  if 65535 < port ∨ !ended then .error .invalidPort
  else .ok (if digits.isEmpty ∨ defaultPort? scheme = some port then none else some port, rest)

/-- The host of a URL and the characters after it. -/
def takeHost (kind : Kind) (cs : List Char) : Except Fault (Host × List Char) := do
  let (host, rest) := splitHost kind false cs
  if host.isEmpty then
    if kind ≠ .other ∨ rest.head? = some ':' then .error .emptyHost
    else pure (.name "", rest)
  else
    let h ← if kind = .other then Host.parseName host else Host.parse host
    pure (h, rest)

/-- The authority after two slashes and the characters after it. -/
def takeAuthority (scheme : String) (kind : Kind) (cs : List Char) :
    Except Fault (Authority × List Char) := do
  let (login, cs) ← match splitLogin kind cs with
    | none => pure ([], cs)
    | some ([], c :: rest) =>
      if endsAuthority kind c then .error .emptyHost else pure ([], c :: rest)
    | some r => pure r
  let user := login.takeWhile (· ≠ ':')
  let password := (login.dropWhile (· ≠ ':')).drop 1
  let hasLogin := !user.isEmpty || !password.isEmpty
  let (host, rest) ← takeHost kind cs
  if hasLogin ∧ host = .name "" then .error .emptyHost
  let (port, rest) ← match rest with
    | ':' :: rest => splitPort scheme rest
    | rest => pure (none, rest)
  pure (⟨String.ofList (percentEncode .userinfo user),
    String.ofList (percentEncode .userinfo password), host, port⟩, rest)

/-! ## Paths -/

/-- Whether a character is a tab or a line break, which count for nothing in a URL. -/
def isBreak (c : Char) : Bool := c = '\t' || c = '\n' || c = '\r'

/-- Characters without tabs and line breaks. -/
def unbroken (cs : List Char) : List Char := cs.filter fun c => !isBreak c

/-- A segment with its percent forms of dots replaced. -/
def dots (segment : List Char) : List Char :=
  match segment with
  | '%' :: '2' :: 'e' :: rest | '%' :: '2' :: 'E' :: rest => '.' :: dots rest
  | c :: rest => c :: dots rest
  | [] => []

/-- Whether a segment is the letter of a drive with a colon or a bar. -/
def isDriveLetter : List Char → Bool
  | [c, d] => isAlpha c && (d = ':' || d = '|')
  | _ => false

/-- Whether a segment is the letter of a drive, or has a backslash behind one. -/
def startsWithDrive (segment : List Char) : Bool :=
  isDriveLetter (segment.take 2) && (segment.drop 2).head?.all (· = '\\')

/-- The segments without the last one. The letter of a drive stays, whatever the scheme is. -/
def climb (parts : List (List Char)) : List (List Char) :=
  if parts.getLast?.any startsWithDrive then parts else parts.dropLast

/-- The segments after a dot segment, if it is one. -/
def afterDots? (parts : List (List Char)) (segment : List Char) : Option (List (List Char)) :=
  if dots segment = ['.', '.'] then some (climb parts)
  else if dots segment = ['.'] then some parts
  else none

/-- A segment of the path of a file that has the letter of a drive and its colon before a line
break, cut at the break. -/
def cutDrive? (segment : List Char) : Option (List Char × List Char) :=
  match segment.dropWhile isBreak with
  | c :: rest =>
    match rest.dropWhile isBreak with
    | ':' :: rest =>
      if isAlpha c ∧ rest.head?.any isBreak ∧ unbroken rest ≠ [] then
        some ([c, ':'], unbroken rest)
      else none
    | _ => none
  | [] => none

/-- How far a path has been read. -/
structure Walk where
  parts : List (List Char)
  /-- Whether the path of a file has the letter of a drive outermost. -/
  onDrive : Bool
  deriving DecidableEq, Repr

/-- The segments after one more, which is followed by a slash or is the last one. The letter of a
drive counts only where a file has it outermost. What follows it behind a line break is a segment of
its own, even if it consists of dots. -/
def Walk.push (kind : Kind) (w : Walk) (segment : List Char) (isLast : Bool) : Walk :=
  let outermost := kind = .file && w.parts.isEmpty
  match if outermost then cutDrive? segment else none with
  | some (drive, rest) => { w with parts := [drive, percentEncode .path rest] }
  | none =>
    let segment := unbroken segment
    match afterDots? w.parts segment with
    | some parts => { w with parts := if isLast then parts ++ [[]] else parts }
    | none =>
      if outermost && isDriveLetter segment then ⟨[segment.take 1 ++ [':']], true⟩
      else { w with parts := w.parts ++ [percentEncode .path segment] }

/-- The segments after several more. -/
def Walk.pushAll (kind : Kind) (w : Walk) : List (List Char) → Walk
  | [] => w
  | [last] => w.push kind last true
  | segment :: more => pushAll kind (w.push kind segment false) more

/-- The segments of a path behind its first slash. -/
def walk (kind : Kind) (cs : List Char) : Walk :=
  Walk.pushAll kind ⟨[], false⟩ (splitAt (isSlash kind) cs)

/-- The input behind a slash, if it starts with one. -/
def dropSlash? (kind : Kind) (cs : List Char) : Option (List Char) :=
  match cs.dropWhile isBreak with
  | c :: rest => if isSlash kind c then some rest else none
  | [] => none

/-- The path of a URL that is not the URL of a file. With a special scheme it has at least one
segment. -/
def pathOf (kind : Kind) (cs : List Char) : Path :=
  if cs.isEmpty then .segments (if kind = .other then [] else [""])
  else .segments ((walk kind ((dropSlash? kind cs).getD cs)).parts.map String.ofList)

/-- The path of a file, which does not start with empty segments. -/
def Walk.filePath (w : Walk) : Path :=
  let kept := w.parts.dropWhile (· = [])
  .segments (if kept.isEmpty then [""] else kept.map String.ofList)

/-! ## Whole URLs -/

/-- The characters before a query or a fragment. -/
def beforeQuery (cs : List Char) : List Char := cs.takeWhile fun c => c ≠ '?' && c ≠ '#'

/-- The query and the fragment, which the characters after the path start with. -/
def queryAndFragment (kind : Kind) (cs : List Char) : Option String × Option String :=
  let set : EncodeSet := if kind = .other then .query else .specialQuery
  match cs with
  | '?' :: rest =>
    let query := rest.takeWhile (· ≠ '#')
    let fragment := match rest.drop query.length with
      | _ :: f => some (String.ofList (percentEncode .fragment f))
      | [] => none
    (some (String.ofList (percentEncode set query)), fragment)
  | '#' :: f => (none, some (String.ofList (percentEncode .fragment f)))
  | _ => (none, none)

/-- A URL whose path, query and fragment are still to be read. -/
def finish (scheme : String) (kind : Kind) (authority : Option Authority) (cs : List Char) : Url :=
  let path := beforeQuery cs
  let (query, fragment) := queryAndFragment kind (cs.drop path.length)
  ⟨scheme, authority, pathOf kind path, query, fragment⟩

/-- A URL of a file whose path behind its first slash, query and fragment are still to be read. The
host does not count if the letter of a drive follows. -/
def finishFile (host : Host) (cs : List Char) : Url :=
  let path := beforeQuery cs
  let w := walk .file path
  let (query, fragment) := queryAndFragment .file (unbroken (cs.drop path.length))
  ⟨"file", some ⟨"", "", if w.onDrive then .name "" else host, none⟩, w.filePath, query, fragment⟩

/-- A URL of a file, from the characters behind the colon. A host that is this machine does not
count, and the slash behind it is a second one. -/
def parseFile (cs : List Char) : Except Fault Url :=
  match dropSlash? .file cs with
  | none => .ok (finishFile (.name "") cs)
  | some rest =>
    match dropSlash? .file rest with
    | none => .ok (finishFile (.name "") rest)
    | some cs =>
      let host := cs.takeWhile fun c => !endsAuthority .file c
      let rest := cs.drop host.length
      let host := unbroken host
      if isDriveLetter host then .ok (finishFile (.name "") cs)
      else if host.isEmpty then .ok (finishFile (.name "") rest)
      else
        match Host.parse host with
        | .error fault => .error fault
        | .ok h =>
          if h = .name "localhost" then .ok (finishFile (.name "") rest)
          else .ok (finishFile h ((dropSlash? .file rest).getD rest))

/-- Whether a character is dropped at either end of the input. -/
def isTrimmed (c : Char) : Bool := c.toNat ≤ 0x20

/-- The input without control characters and spaces at its ends. -/
def trim (cs : List Char) : List Char :=
  ((cs.dropWhile isTrimmed).reverse.dropWhile isTrimmed).reverse

/-- The URL of a text. -/
def parse (s : String) : Except Fault Url :=
  let trimmed := trim s.toList
  match splitScheme (unbroken trimmed) with
  | none => .error .relativeWithoutBase
  | some (scheme, cs) =>
    match kindOf scheme with
    | .file => parseFile ((trimmed.dropWhile (· ≠ ':')).drop 1)
    | .special => do
      let (authority, rest) ← takeAuthority scheme .special (cs.dropWhile (isSlash .special))
      pure (finish scheme .special (some authority) rest)
    | .other =>
      match cs with
      | '/' :: '/' :: cs => do
        let (authority, rest) ← takeAuthority scheme .other cs
        pure (finish scheme .other (some authority) rest)
      | '/' :: _ => .ok (finish scheme .other none cs)
      | _ =>
        let path := beforeQuery cs
        let (query, fragment) := queryAndFragment .other (cs.drop path.length)
        .ok ⟨scheme, none, .bare (String.ofList (percentEncode .controls path)), query, fragment⟩

/-- The text of a URL without the slashes at its end, followed by a path. -/
def appendText (u : Url) (path : String) : String :=
  String.ofList ((u.text.toList.reverse.dropWhile (· = '/')).reverse) ++ path

/-- The URL of a path below a URL. The path goes behind the whole text, so behind a query if there
is one. -/
def append (u : Url) (path : String) : Except Fault Url := parse (u.appendText path)

end Url

end FsGateway
