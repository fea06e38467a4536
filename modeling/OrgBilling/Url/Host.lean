import OrgBilling.DomainName.Basic
import OrgBilling.Text.Percent
import OrgBilling.Url.Ipv4
import OrgBilling.Url.Ipv6

/-!
# Hosts

The host of a URL. Between brackets it is an IPv6 address. Else it is a domain name or an IPv4
address where the scheme is one of the special ones, whose hosts are looked up in the network; with
any other scheme it is a text that only its own reader understands.
-/

namespace OrgBilling.Url

/-- The characters that a host without a meaning of its own does not hold. -/
def forbiddenInOpaqueHost : List Char :=
  ['\x00', '\t', '\n', '\r', ' ', '#', '/', ':', '<', '>', '?', '@', '[', '\\', ']', '^', '|']

/-- A domain name or an IPv4 address, in percent-encoding. -/
def isDomainOrIpv4 (cs : List Char) : Bool :=
  let labels? := do DomainName.labels? (← Text.ofUtf8? (Text.Percent.decode cs)).toList
  labels?.any fun labels =>
    labels != [[]] && (!Ipv4.endsInNumber labels || Ipv4.isAddress labels)

/-- A host that is written between brackets. -/
def isBracketed (cs : List Char) : Bool :=
  cs.getLast? == some ']' && Ipv6.isAddress cs.dropLast

/-- A text is the host of a URL with a special scheme or without one. -/
def isHost (special : Bool) : List Char → Bool
  | '[' :: cs => isBracketed cs
  | cs => if special then isDomainOrIpv4 cs else !cs.any forbiddenInOpaqueHost.contains

end OrgBilling.Url
