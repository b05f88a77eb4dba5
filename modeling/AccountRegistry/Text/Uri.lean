/-
The parts of a URI with an authority: user, host, port, path and query.

* **UriParts.read** — the parts of what follows the scheme, or why it is no URI.

A host between brackets must be an IPv6 address; any other host is a name.
-/
import AccountRegistry.Text.Percent
import AccountRegistry.Date

namespace AccountRegistry.Text

/-- The parts of a URI after its scheme. -/
structure UriParts where
  user : List Char
  password : List Char
  host : List Char
  port : Option Nat
  path : List Char
  query : List Char

namespace UriParts

/-- Why a text is no URI. -/
inductive UriFault where
  | emptyHost
  | badPort
  | badAddress
  | badHost
  deriving DecidableEq

/-- The wording of a fault. -/
def UriFault.message : UriFault → String
  | .emptyHost => "empty host"
  | .badPort => "invalid port number"
  | .badAddress => "invalid IPv6 address"
  | .badHost => "invalid domain character"

/-- The text before the first character that satisfies `p`, and the rest from it on. -/
def splitAt (p : Char → Bool) (cs : List Char) : List Char × List Char :=
  (cs.takeWhile (!p ·), cs.dropWhile (!p ·))

/-- The parts before and after the last `sep`. -/
def splitLast (sep : Char) (cs : List Char) : Option (List Char × List Char) :=
  (splitOnce sep cs.reverse).map fun (a, b) => (b.reverse, a.reverse)

/-- Whether a text is a group of an IPv6 address. -/
def isGroup (cs : List Char) : Bool :=
  0 < cs.length && cs.length ≤ 4 && cs.all fun c => (Hex.value (c.toNat.toUInt8)).isSome &&
    c.toNat < 128

/-- Whether a text is a decimal number below 256 without leading zeros. -/
def isOctet (cs : List Char) : Bool :=
  0 < cs.length && cs.length ≤ 3 && cs.all Char.isDigit && Date.digitsValue cs < 256 &&
    (cs.length == 1 || cs.head? != some '0')

/-- Whether a text is an IPv4 address. -/
def isIpv4 (cs : List Char) : Bool :=
  let parts := splitOn '.' cs
  parts.length == 4 && parts.all isOctet

/-- The number of groups that a part of an IPv6 address stands for; an IPv4 address at its
end, where that is allowed, stands for two. -/
def groupCount (atEnd : Bool) (cs : List Char) : Option Nat :=
  if cs.isEmpty then some 0
  else
    let parts := splitOn ':' cs
    if parts.all isGroup then some parts.length
    else if atEnd && parts.dropLast.all isGroup && isIpv4 (parts.getLastD []) then
      some (parts.length + 1)
    else none

/-- The parts before and after the first two colons in a row. -/
def splitGap : List Char → Option (List Char × List Char)
  | ':' :: ':' :: rest => some ([], rest)
  | c :: rest => (splitGap rest).map fun (a, b) => (c :: a, b)
  | [] => none

/-- Whether a text is an IPv6 address. -/
def isIpv6 (cs : List Char) : Bool :=
  match splitGap cs with
  | none => groupCount true cs == some 8
  | some (a, b) =>
    match groupCount false a, groupCount true b with
    | some m, some n => m + n ≤ 7
    | _, _ => false

/-- Characters that cannot stand in a host name. -/
def isForbidden (c : Char) : Bool :=
  c.toNat = 0 || ['\t', '\n', '\r', ' ', '#', '/', ':', '<', '>', '?', '@', '[', '\\', ']', '^',
    '|'].contains c

/-- Checks a host. -/
def checkHost (host : List Char) : Except UriFault Unit :=
  match host with
  | '[' :: rest =>
    if rest.getLast? = some ']' && isIpv6 rest.dropLast then .ok () else .error .badAddress
  | _ => if host.any isForbidden then .error .badHost else .ok ()

/-- The host at the head of a text; a colon between brackets belongs to it. -/
def takeHost (inside : Bool) : List Char → List Char × List Char
  | [] => ([], [])
  | c :: cs =>
    if c = ':' && !inside then ([], c :: cs)
    else
      let (host, rest) := takeHost (if c = '[' then true else if c = ']' then false else inside) cs
      (c :: host, rest)

/-- Reads what follows the host. -/
def readPort : List Char → Except UriFault (Option Nat)
  | [] => .ok none
  | ':' :: ds =>
    if ds.isEmpty then .ok none
    else if ds.all Char.isDigit && Date.digitsValue ds < 65536 then .ok (some (Date.digitsValue ds))
    else .error .badPort
  | _ => .error .badPort

/-- The parts of a URI after its scheme. -/
def read (cs : List Char) : Except UriFault UriParts := do
  let cs := cs.filter fun c => c != '\t' && c != '\n' && c != '\r'
  let (cs, _) := splitAt (· = '#') cs
  let (front, query) := splitAt (· = '?') cs
  match front with
  | '/' :: '/' :: rest =>
    let (authority, path) := splitAt (· = '/') rest
    let (info, hostPort) := match splitLast '@' authority with
      | some (info, hostPort) => (some info, hostPort)
      | none => (none, authority)
    let (host, rest) := takeHost false hostPort
    checkHost host
    if host.isEmpty && (info.isSome || !rest.isEmpty) then throw .emptyHost
    let port ← readPort rest
    let (user, password) := splitAt (· = ':') (info.getD [])
    .ok ⟨user, password.drop 1, host, port, path, query.drop 1⟩
  | path => .ok ⟨[], [], [], none, path, query.drop 1⟩

end UriParts

end AccountRegistry.Text
