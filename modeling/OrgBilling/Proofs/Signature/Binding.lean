import OrgBilling.Proofs.Signature
import Mathlib.Data.List.Nodup

/-!
# What a signature is of

A signature is the authentication code of one text, which is made of a time and a payload. The time
ends at the first point, whatever digits and points the payload begins with, so no two times or
payloads give the same text (`Message.bytes_injective`). A header that offers no codes but those that
have been given out is therefore accepted only with a time and a payload that have been signed
together (`accepted_only_as_signed`), unless two of the texts have the same code by chance.
-/

namespace OrgBilling.Signature

open Text

/-! ### Messages -/

/-- What is signed: a time and a payload. -/
structure Message where
  /-- The time of sending, in seconds. -/
  time : Int
  /-- The payload. -/
  payload : String
  deriving DecidableEq

namespace Message

variable {secret : String}

/-- The bytes that are authenticated. -/
def bytes (m : Message) : List UInt8 :=
  utf8 (signedText m.time m.payload)

/-- The code that authenticates them. -/
def code (secret : String) (m : Message) : List UInt8 :=
  Hash.Hmac.code (utf8 secret) m.bytes

/-- The header that the provider sends. -/
def header (secret : String) (m : Message) : String :=
  sign m.payload secret m.time

/-- Time and payload can be read off the bytes. -/
theorem bytes_injective : Function.Injective bytes := by
  rintro ⟨time, payload⟩ ⟨time', payload'⟩ h
  have point (i : Int) : '.' ∉ Decimal.writeInt i := fun hmem => by
    rcases Decimal.eq_or_isDigit_of_mem_writeInt hmem with h | h <;> exact absurd h (by decide)
  have text : signedText time payload = signedText time' payload' := utf8_inj.1 h
  rw [signedText, signedText, String.ofList_inj, append_cons_inj (point time) (point time')] at text
  obtain ⟨htime, hpayload⟩ := text
  rw [Decimal.writeInt_inj.1 htime, String.toList_inj.1 hpayload]

theorem offers_header_iff {m : Message} {digits : List Char} :
    Offers (m.header secret) digits ↔ digits = Hex.encode (m.code secret) :=
  offers_sign_iff

end Message

/-- Messages with the same code have the same bytes. -/
def NoCollision (secret : String) (ms : List Message) : Prop :=
  ∀ m ∈ ms, ∀ m' ∈ ms, m.code secret = m'.code secret → m.bytes = m'.bytes

instance (secret : String) (ms : List Message) : Decidable (NoCollision secret ms) :=
  inferInstanceAs (Decidable (∀ m ∈ ms, ∀ m' ∈ ms, m.code secret = m'.code secret →
    m.bytes = m'.bytes))

/-! ### Accepted headers -/

/-- An accepted header offers the code of its time and of the payload. -/
theorem offers_of_verify {payload header secret : String} {now tolerance : Int}
    (h : verify payload header secret now tolerance = .ok ()) :
    ∃ time digits, Carries header time ∧ Offers header digits ∧
      Hex.decode? digits = some (Message.code secret ⟨time, payload⟩) := by
  obtain ⟨time, carries, -, digits, offers, hdigits⟩ := verify_eq_ok_iff.1 h
  rw [← signedText_eq] at hdigits
  exact ⟨time, digits, carries, offers, Hex.decode?_eq_some_iff.2 hdigits⟩

/-- A signature is of one time and one payload. Different ones are authenticated as different bytes.
So, whatever has been signed with a secret, a header that offers codes of those signatures only is
accepted for a payload only if the time that it carries has been signed with this payload, provided
that the code has no collision on the messages that were signed and the one that is accepted. -/
theorem accepted_only_as_signed :
    Function.Injective Message.bytes ∧
    ∀ (secret : String) (signed : List Message) (header payload : String) (now tolerance : Int),
      (∀ digits, Offers header digits → ∃ m ∈ signed, Offers (m.header secret) digits) →
      verify payload header secret now tolerance = .ok () →
      ∃ time, Carries header time ∧
        (NoCollision secret (⟨time, payload⟩ :: signed) → ⟨time, payload⟩ ∈ signed) := by
  refine ⟨Message.bytes_injective, fun secret signed header payload now tolerance genuine ok => ?_⟩
  obtain ⟨time, digits, carries, offers, hdigits⟩ := offers_of_verify ok
  refine ⟨time, carries, fun noCollision => ?_⟩
  obtain ⟨m, hm, hoffers⟩ := genuine digits offers
  rw [Message.offers_header_iff.1 hoffers, Hex.decode?_encode] at hdigits
  have bytes : m.bytes = Message.bytes ⟨time, payload⟩ :=
    noCollision m (List.mem_cons_of_mem _ hm) _ List.mem_cons_self (Option.some.inj hdigits)
  rwa [← Message.bytes_injective bytes]

/-- Messages whose texts, `0.1.x` and `-1.x`, end alike. -/
def alike : List Message := [⟨0, "1.x"⟩, ⟨-1, "x"⟩]

/-- A header with the codes of both, and the time of the first one in another spelling. -/
def bothCodes : String :=
  "t=+00,v1=edd81ff66dd59093c9a46c77d0019b1da33c17869a23f21f4303ad50ac2c3788," ++
    "v1=c2e93a257ce747f8bc8907f08b89d60e9030703d9713f3552eef03865eedbf18"

theorem candidates_bothCodes :
    (Header.read bothCodes).candidates = alike.map fun m => Hex.encode (m.code "whsec_1") := by
  decide +kernel

theorem noCollision_alike : NoCollision "whsec_1" (⟨0, "1.x"⟩ :: alike) := by
  have nodup : (alike.map fun m => Hex.encode (m.code "whsec_1")).Nodup := by
    rw [← candidates_bothCodes]
    decide +kernel
  have same : ∀ m ∈ (⟨0, "1.x"⟩ : Message) :: alike, m ∈ alike := by decide
  intro m hm m' hm' hcode
  rw [List.inj_on_of_nodup_map nodup (same m hm) (same m' hm') (congrArg Hex.encode hcode)]

/-- The header is accepted for the payload of the first message, which was signed at its time. -/
theorem accepted_only_as_signed_of_alike :
    (∀ digits, Offers bothCodes digits → ∃ m ∈ alike, Offers (m.header "whsec_1") digits) ∧
      verify "1.x" bothCodes "whsec_1" 100 300 = .ok () ∧
      NoCollision "whsec_1" (⟨0, "1.x"⟩ :: alike) ∧
      ∃ time, Carries bothCodes time ∧ (⟨time, "1.x"⟩ : Message) ∈ alike := by
  have htime : Carries bothCodes 0 := Header.time_read_eq_some_iff.1 (by decide +kernel)
  have genuine : ∀ digits, Offers bothCodes digits →
      ∃ m ∈ alike, Offers (m.header "whsec_1") digits := by
    intro digits h
    rw [← Header.mem_candidates_read_iff, candidates_bothCodes] at h
    obtain ⟨m, hm, rfl⟩ := List.mem_map.1 h
    exact ⟨m, hm, Message.offers_header_iff.2 rfl⟩
  have offers : Offers bothCodes (Hex.encode (Message.code "whsec_1" ⟨0, "1.x"⟩)) := by
    rw [← Header.mem_candidates_read_iff, candidates_bothCodes]
    exact List.mem_cons_self
  have ok : verify "1.x" bothCodes "whsec_1" 100 300 = .ok () :=
    verify_eq_ok_iff.2 ⟨0, htime, by decide, _, offers, by
      rw [← signedText_eq]
      exact Hex.decode?_eq_some_iff.1 (Hex.decode?_encode _)⟩
  obtain ⟨time, carries, signed⟩ :=
    accepted_only_as_signed.2 "whsec_1" alike bothCodes "1.x" 100 300 genuine ok
  obtain rfl := carries.unique htime
  exact ⟨genuine, ok, noCollision_alike, 0, carries, signed noCollision_alike⟩

end OrgBilling.Signature
