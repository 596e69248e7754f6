import CodeSearch.Text.Cut
import CodeSearch.Unicode.Words

/-!
Addresses that repositories are cloned from. Those for ssh are turned into the address of the same
host's web pages; of a web address the host, the port and the path are told apart.
-/
namespace CodeSearch.CloneUrl

open Text

/-- No part of an address goes on past the end of a line. -/
def isLine (cs : List Char) : Bool := cs.all (· != '\n')

def inHost (c : Char) : Bool := c != ':' && c != '/'

def isDigit (c : Char) : Bool := Unicode.digits.contains c

/-- A colon and digits, and then a slash; what follows that is the rest. -/
def portAndPath? : List Char → Option (List Char × List Char)
  | ':' :: cs =>
    match cs.takeWhile isDigit, cs.dropWhile isDigit with
    | d :: ds, '/' :: path => if isLine path then some (d :: ds, path) else none
    | _, _ => none
  | _ => none

/-- The host, the port and the path of an address that names a port. -/
def hostPortPath? (cs : List Char) : Option (List Char × List Char × List Char) :=
  let host := cs.takeWhile inHost
  if host.isEmpty then none
  else (portAndPath? (cs.dropWhile inHost)).map fun p => (host, p.1, p.2)

/-- What follows `user@`, if there is a user. -/
def afterUser? (cs : List Char) : Option (List Char) :=
  let inUser (c : Char) : Bool := c != '@' && c != '/'
  match cs.takeWhile inUser, cs.dropWhile inUser with
  | _ :: _, '@' :: rest => some rest
  | _, _ => none

/-- `ssh://` with a port, with a user or without. -/
def sshWithPort? (cs : List Char) : Option (List Char × List Char × List Char) :=
  if "ssh://".toList.isPrefixOf cs then
    let rest := cs.drop 6
    (afterUser? rest).bind hostPortPath? <|> hostPortPath? rest
  else none

/-- After the user: a host up to the first colon or slash, and the path on the same line. -/
def hostAndPath? (cs : List Char) : Option (List Char × List Char) :=
  match cs.dropWhile inHost with
  | [] => none
  | _ :: rest =>
    let host := cs.takeWhile inHost
    if isLine host then some (host, rest.takeWhile (· != '\n')) else none

/-- What follows the first `git@` or `hg@` that a host and a path follow. -/
def sshUser? : List Char → Option (List Char × List Char)
  | [] => none
  | c :: cs =>
    let here :=
      if "git@".toList.isPrefixOf (c :: cs) then hostAndPath? ((c :: cs).drop 4)
      else if "hg@".toList.isPrefixOf (c :: cs) then hostAndPath? ((c :: cs).drop 3)
      else none
    here <|> sshUser? cs

/-- The address of the web pages that belong to a clone address. -/
def toWeb (cs : List Char) : List Char :=
  match sshWithPort? cs with
  | some (host, port, path) => "//".toList ++ host ++ ':' :: port ++ '/' :: path
  | none =>
    match sshUser? cs with
    | some (host, path) => "//".toList ++ host ++ '/' :: path
    | none => cs

structure Web where
  /-- The host after two slashes, and what stands before them. -/
  host : List Char
  port : List Char
  path : List Char
deriving DecidableEq, Repr

def inScheme (c : Char) : Bool := c.isAlphanum || c == '+' || c == '.' || c == '-'

/-- A scheme with its colon, if the address begins with one, and what follows. -/
def scheme (cs : List Char) : List Char × List Char :=
  match cs.takeWhile inScheme, cs.dropWhile inScheme with
  | c :: name, ':' :: rest => if c.isAlpha then (c :: name ++ [':'], rest) else ([], cs)
  | _, _ => ([], cs)

def web? (cs : List Char) : Option Web :=
  match scheme cs with
  | (start, '/' :: '/' :: rest) =>
    let name := rest.takeWhile inHost
    let host := start ++ "//".toList ++ name
    if name.isEmpty then none
    else
      match rest.dropWhile inHost with
      | '/' :: path => if isLine path then some ⟨host, [], path⟩ else none
      | after => (portAndPath? after).map fun p => ⟨host, p.1, p.2⟩
  | _ => none

end CodeSearch.CloneUrl
