/-!
# Media types

The name of a media type, such as application/json; charset=utf-8. Letters of either case are the
same. Parameters are checked for their form only.

* `isJson`: whether a text names a media type of JSON documents.
-/

namespace FsGateway.Gateway

/-- A media type. The suffix follows the last plus sign of the subtype. -/
structure MediaType where
  type : List Char
  subtype : List Char
  suffix : Option (List Char)
  deriving DecidableEq, Repr

namespace MediaType

/-- Whether a character can be part of a name. -/
def isToken (c : Char) : Bool := c.isAlphanum || "!#$%&'*+-.^_`|~".toList.contains c

/-- Whether a character can stand between quotes. -/
def isQuotable (c : Char) : Bool := 0x20 ≤ c.toNat && c.toNat < 0x7F

/-! ## Parameters -/

/-- Where a reader of parameters stands. -/
inductive Place
  | nameStart | name | valueStart | value | quoteStart | quoted | quoteEnd
  deriving DecidableEq, Repr

/-- The place after one more character, if it may stand there. -/
def Place.next : Place → Char → Option Place
  | nameStart, c => if c = ' ' then some nameStart else if isToken c then some name else none
  | name, c => if c = '=' then some valueStart else if isToken c then some name else none
  | valueStart, c => if c = '"' then some quoteStart else if isToken c then some value else none
  | value, c => if c = ';' then some nameStart else if isToken c then some value else none
  | quoteStart, c => if isQuotable c then some quoted else none
  | quoted, c => if c = '"' then some quoteEnd else if isQuotable c then some quoted else none
  | quoteEnd, c =>
    if c = ';' then some nameStart else if c = ' ' then some quoteEnd else none

/-- Whether parameters can end at a place. -/
def Place.mayEnd : Place → Bool
  | nameStart | valueStart | value | quoteEnd => true
  | _ => false

/-- Whether a text has the form of parameters. -/
def areParameters (cs : List Char) : Bool :=
  (cs.foldlM Place.next .nameStart).any Place.mayEnd

/-! ## Names -/

/-- The last plus sign of a subtype, unless it stands at the start, separates the suffix. -/
def splitSuffix (cs : List Char) : List Char × Option (List Char) :=
  let back := cs.reverse.takeWhile (· ≠ '+')
  let front := cs.take (cs.length - back.length - 1)
  if front.isEmpty then (cs, none) else (front, some back.reverse)

/-- The media type that a text names. -/
def parse? (s : String) : Option MediaType :=
  let cs := s.toList.map Char.toLower
  let type := cs.takeWhile isToken
  match cs.dropWhile isToken with
  | '/' :: rest =>
    let sub := rest.takeWhile isToken
    let parameters := rest.dropWhile isToken
    let formed := match parameters with
      | [] => true
      | ';' :: parameters => !sub.isEmpty && areParameters parameters
      | _ => false
    if type.isEmpty || !formed then none
    else
      let (subtype, suffix) := splitSuffix sub
      some ⟨type, subtype, suffix⟩
  | _ => none

/-- Whether a text names a media type of JSON documents. -/
def isJson (s : String) : Bool :=
  (parse? s).any fun m =>
    m.type = "application".toList &&
      (m.subtype = "json".toList || m.suffix = some "json".toList)

end MediaType

end FsGateway.Gateway
