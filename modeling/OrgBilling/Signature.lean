import OrgBilling.Hash.Hmac
import OrgBilling.Text.Blank
import OrgBilling.Text.Decimal
import OrgBilling.Text.Hex
import OrgBilling.Text.Split
import OrgBilling.Text.Utf8
import OrgBilling.Error

/-!
# Signatures of webhook deliveries

The provider signs a delivery with HMAC-SHA256 over the time of sending, a point and the payload,
and sends time and signature in a header such as `t=1492774577,v1=5257a869…`. Entries of other
schemes may stand beside them, and several `v1` entries while a secret is being replaced.

A header is read entry by entry (`Header.read`): the last `t` entry decides the time, also when it
cannot be read, and every `v1` entry is a candidate. `verify` accepts a header whose time is close
enough to now and of which some candidate is the signature of that time and payload.
-/

namespace OrgBilling.Signature

/-- How far the time of a delivery may be from now, in seconds. -/
def defaultTolerance : Int := 300

/-- What a signature header says. -/
structure Header where
  /-- The time of sending in seconds, if the last entry for it can be read. -/
  time : Option Int
  /-- The candidates for the signature, in order. -/
  candidates : List (List Char)

namespace Header

/-- A header without entries. -/
def empty : Header := ⟨none, []⟩

/-- Take one entry into account. -/
def addEntry (h : Header) (entry : List Char) : Header :=
  match Text.trimChars entry with
  | 't' :: '=' :: value => { h with time := Text.Decimal.readInt64? value }
  | 'v' :: '1' :: '=' :: value => { h with candidates := h.candidates ++ [value] }
  | _ => h

/-- Read a header. -/
def read (text : String) : Header :=
  (Text.splitAtEach ',' text.toList).foldl addEntry empty

end Header

/-- What is signed: the time in decimal, a point, and the payload. -/
def signedText (time : Int) (payload : String) : String :=
  String.ofList (Text.Decimal.writeInt time ++ '.' :: payload.toList)

/-- The signature of a payload at a time. -/
def mac (secret : String) (time : Int) (payload : String) : List UInt8 :=
  Hash.Hmac.code (Text.utf8 secret) (Text.utf8 (signedText time payload))

/-- The header that the provider sends with a payload. -/
def sign (payload secret : String) (time : Int) : String :=
  String.ofList
    ('t' :: '=' :: Text.Decimal.writeInt time ++
      ',' :: 'v' :: '1' :: '=' :: Text.Hex.encode (mac secret time payload))

/-- Check a header against a payload at a given time. -/
def verify (payload header secret : String) (now tolerance : Int) : Except BillingError Unit :=
  let h := Header.read header
  match h.time with
  | none => .error .signatureInvalid
  | some time =>
    if (now - time).natAbs > tolerance.natAbs then .error .signatureInvalid
    else
      let expected := mac secret time payload
      if h.candidates.any fun c => Text.Hex.decode? c == some expected then .ok ()
      else .error .signatureInvalid

end OrgBilling.Signature
