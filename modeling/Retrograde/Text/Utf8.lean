/-!
# UTF-8

Text as bytes and back.  `encode` writes every character in its one encoded form;
`decode` reads the well-formed byte sequences of the Unicode standard and refuses
all others: stray and missing continuation bytes, overlong forms, the surrogates
and everything beyond U+10FFFF.  Which second byte may follow a lead byte is the
whole of the difference between the forms, so it has a function of its own.

## Main definitions

* `encode` — the bytes of a text.
* `decode` — the text of well-formed bytes.
* `isContinuation` — the bytes that never begin a character.
-/

namespace Retrograde.Text.Utf8

/-- The bytes of a text, character by character. -/
def encode (cs : List Char) : List UInt8 :=
  cs.flatMap String.utf8EncodeChar

@[simp] theorem encode_nil : encode [] = [] := rfl

@[simp] theorem encode_cons (c : Char) (cs : List Char) :
    encode (c :: cs) = String.utf8EncodeChar c ++ encode cs := rfl

@[simp] theorem encode_append (s t : List Char) : encode (s ++ t) = encode s ++ encode t := by
  simp [encode]

/-- The bytes that continue a character, `10xxxxxx`. -/
def isContinuation (b : UInt8) : Bool :=
  0x80 ≤ b.toNat && b.toNat ≤ 0xBF

/-- The second bytes that may follow the lead byte of a longer form.  After `E0`
and `F0` the low ones would make an overlong form, after `ED` the high ones a
surrogate, after `F4` the high ones a number beyond U+10FFFF. -/
def mayFollow (lead second : UInt8) : Bool :=
  let a := second.toNat
  match lead.toNat with
  | 0xE0 => 0xA0 ≤ a && a ≤ 0xBF
  | 0xED => 0x80 ≤ a && a ≤ 0x9F
  | 0xF0 => 0x90 ≤ a && a ≤ 0xBF
  | 0xF4 => 0x80 ≤ a && a ≤ 0x8F
  | _ => 0x80 ≤ a && a ≤ 0xBF

/-- The six bits that a continuation byte carries. -/
def payload (b : UInt8) : Nat := b.toNat % 64

/-- The text of well-formed bytes, and nothing for any other bytes. -/
def decode : List UInt8 → Option (List Char)
  | [] => some []
  | a :: r₁ =>
    if a.toNat ≤ 0x7F then (decode r₁).map (Char.ofNat a.toNat :: ·)
    else match r₁ with
      | [] => none
      | b :: r₂ =>
        if 0xC2 ≤ a.toNat && a.toNat ≤ 0xDF && isContinuation b then
          (decode r₂).map (Char.ofNat (a.toNat % 32 * 64 + payload b) :: ·)
        else match r₂ with
          | [] => none
          | c :: r₃ =>
            if 0xE0 ≤ a.toNat && a.toNat ≤ 0xEF && mayFollow a b && isContinuation c then
              (decode r₃).map
                (Char.ofNat (a.toNat % 16 * 4096 + payload b * 64 + payload c) :: ·)
            else match r₃ with
              | [] => none
              | d :: r₄ =>
                if 0xF0 ≤ a.toNat && a.toNat ≤ 0xF4 && mayFollow a b && isContinuation c &&
                    isContinuation d then
                  (decode r₄).map
                    (Char.ofNat (a.toNat % 8 * 262144 + payload b * 4096 + payload c * 64 +
                      payload d) :: ·)
                else none

end Retrograde.Text.Utf8
