import StudioLookup.Url.Domain
import StudioLookup.Url.Ipv4
import StudioLookup.Url.Ipv6
import StudioLookup.Url.Percent

set_option autoImplicit false

/-! # Hosts

The host of a URL is a domain name or an address. For the schemes of the web a name is brought
into its ASCII form, and a name that ends in a number has to be an address; for other schemes
it is taken as it stands. An address of version 6 stands in brackets.
-/

namespace StudioLookup

/-- Why a text is no URL. -/
inductive UrlFault where
  | emptyHost
  | badDomain
  | badPort
  | badIpv4
  | badIpv6
  /-- A character that may not stand in the host of a scheme outside the web. -/
  | badDomainCharacter
  /-- A relative reference, and nothing to resolve it against. -/
  | relativeWithoutBase
  /-- A relative reference, and a base whose path has no hierarchy. -/
  | relativeToOpaqueBase
  deriving DecidableEq, Repr

/-- What is wrong with a URL, in words. -/
def UrlFault.message : UrlFault → Text
  | .emptyHost => "empty host".toList
  | .badDomain => "invalid international domain name".toList
  | .badPort => "invalid port number".toList
  | .badIpv4 => "invalid IPv4 address".toList
  | .badIpv6 => "invalid IPv6 address".toList
  | .badDomainCharacter => "invalid domain character".toList
  | .relativeWithoutBase => "relative URL without a base".toList
  | .relativeToOpaqueBase => "relative URL with a cannot-be-a-base base".toList

namespace Url

/-- A host. The empty name stands for no host. -/
inductive Host where
  | name (t : Text)
  | ipv4 (address : Nat)
  | ipv6 (groups : List Nat)
  deriving DecidableEq, Repr

namespace Host

/-- A host as it stands in a URL. -/
def toText : Host → Text
  | name t => t
  | ipv4 a => ipv4Text a
  | ipv6 gs => '[' :: ipv6Text gs ++ [']']

/-- Whether there is no host. -/
def isEmpty : Host → Bool
  | name t => t.isEmpty
  | _ => false

/-- The address in brackets that a text is, if it begins with a bracket. -/
def bracketed? : Text → Option (Except UrlFault Host)
  | '[' :: t =>
      if t.getLast? == some ']' then
        match ipv6? t.dropLast with
        | some gs => some (.ok (ipv6 gs))
        | none => some (.error .badIpv6)
      else some (.error .badIpv6)
  | _ => none

/-- Reads the host of a URL of one of the schemes of the web. -/
def ofWeb (t : Text) : Except UrlFault Host :=
  match bracketed? t with
  | some r => r
  | none =>
      match asciiDomain? (Text.decodeLossy (percentDecode t)) with
      | none => .error .badDomain
      | some [] => .error .emptyHost
      | some d =>
          if endsInNumber d then
            match ipv4? d with
            | some a => .ok (ipv4 a)
            | none => .error .badIpv4
          else .ok (name d)

/-- The characters that may not stand in the host of another scheme. -/
def opaqueForbidden : Text := "\x00\t\n\r #/:<>?@[\\]^|".toList

/-- Reads the host of a URL of another scheme. -/
def ofOther (t : Text) : Except UrlFault Host :=
  match bracketed? t with
  | some r => r
  | none =>
      if t.any opaqueForbidden.contains then .error .badDomainCharacter
      else .ok (name (percentEncode [] t))

end Host

end Url

end StudioLookup
