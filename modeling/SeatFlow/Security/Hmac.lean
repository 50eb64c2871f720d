import SeatFlow.Text.Encodings

/-!
# Keyed digests

HMAC-SHA-256 as a function of which nothing is assumed but the length of a digest. That digests of
different texts differ is not taken for granted; two texts on which a digest, or the part of it
that is used, is the same are a collision.
-/

namespace SeatFlow

open Text

structure Hmac where
  digest : List UInt8 → List UInt8 → List UInt8
  length_digest : ∀ secret message, (digest secret message).length = 32

def utf8 (text : String) : List UInt8 :=
  text.toByteArray.data.toList

namespace Hmac

variable (hmac : Hmac) (secret : String)

/-- `.digest("hex")`. -/
def hex (text : String) : String :=
  String.ofList (hexText (hmac.digest (utf8 secret) (utf8 text)))

variable {hmac secret} {text text' : String}

theorem length_hex : (hmac.hex secret text).toList.length = 64 := by
  rw [hex, String.toList_ofList, length_hexText, hmac.length_digest]

theorem hex_mem {c : Char} (h : c ∈ (hmac.hex secret text).toList) : c ∈ hexDigits := by
  rw [hex, String.toList_ofList] at h
  exact hexText_mem h

end Hmac

end SeatFlow
