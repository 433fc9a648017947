import PageWalk.Text.Utf8
import PageWalk.Url.Address
import PageWalk.Url.Domain
import PageWalk.Url.Percent

/-!
# Hosts

A host is a name or an address. The name of a special scheme is a domain: it is decoded, written in
ASCII, and read as an address when it ends in a number. Other schemes keep names as they are.
-/

namespace PageWalk

set_option autoImplicit false

inductive UrlError where
  | noScheme
  | noBase
  | emptyHost
  | port
  | ipv4
  | ipv6
  | hostCharacter
  | domain
  deriving DecidableEq, Repr

def UrlError.message : UrlError → String
  | noScheme => "relative URL without a base"
  | noBase => "relative URL with a cannot-be-a-base base"
  | emptyHost => "empty host"
  | port => "invalid port number"
  | ipv4 => "invalid IPv4 address"
  | ipv6 => "invalid IPv6 address"
  | hostCharacter => "invalid domain character"
  | domain => "invalid international domain name"

namespace Url

inductive Host where
  | name (name : String)
  | ipv4 (address : Nat)
  | ipv6 (pieces : List Nat)
  deriving DecidableEq, Repr

namespace Host

def bracketed? : List Char → Option (List Char)
  | '[' :: rest => some rest
  | _ => none

def ofBracketed (s : List Char) : Except UrlError Host :=
  if s.getLast? = some ']' then
    match Ipv6.read? s.dropLast with
    | some pieces => .ok (.ipv6 pieces)
    | none => .error .ipv6
  else .error .ipv6

def ofDomain (s : List Char) : Except UrlError Host :=
  match (Text.Utf8.decode? (Percent.decode s)).bind Domain.ascii? with
  | none => .error .domain
  | some domain =>
    if domain = [] then .error .emptyHost
    else if Ipv4.endsInNumber domain then
      match Ipv4.read? domain with
      | some address => .ok (.ipv4 address)
      | none => .error .ipv4
    else .ok (.name (String.ofList domain))

/-- The host of a special scheme. -/
def parse (s : List Char) : Except UrlError Host :=
  match bracketed? s with
  | some rest => ofBracketed rest
  | none => ofDomain s

/-- Characters that a host of an unknown scheme may not hold. -/
def forbidden : List Char :=
  "\x00\t\n\r #/:<>?@[\\]^|".toList

/-- The host of any other scheme. -/
def parseOpaque (s : List Char) : Except UrlError Host :=
  match bracketed? s with
  | some rest => ofBracketed rest
  | none =>
    if s.any forbidden.contains then .error .hostCharacter
    else .ok (.name (String.ofList (Percent.encode Percent.keepsInOpaque s)))

def text : Host → String
  | name s => s
  | ipv4 address => Ipv4.text address
  | ipv6 pieces => Ipv6.text pieces

end Host

end Url

end PageWalk
