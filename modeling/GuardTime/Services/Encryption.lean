import Mathlib.Tactic
import GuardTime.Lib.Json
import GuardTime.Services.OAuth

/-! # Encryption at rest

`EncryptionService`. A payload is the initialization vector and the ciphertext, each in hexadecimal,
with a colon between them. The cipher of the platform is a parameter, with what is documented of
it. -/

namespace GuardTime.Services.Encryption

open GuardTime.Lib.Js GuardTime.Lib.Json GuardTime.Server

/-! ### Bytes in hexadecimal -/

/-- `buffer.toString('hex')`. -/
def toHex (bytes : List UInt8) : List Char :=
  bytes.flatMap fun b => [hexDigit (b.toNat / 16), hexDigit (b.toNat % 16)]

/-- `Buffer.from(s, 'hex')`: the bytes before the first pair of characters that is none. -/
def fromHex : List Char → List UInt8
  | a :: b :: cs =>
    match hexValue a, hexValue b with
    | some x, some y => UInt8.ofNat (16 * x + y) :: fromHex cs
    | _, _ => []
  | _ => []

theorem toHex_cons (b : UInt8) (bytes : List UInt8) :
    toHex (b :: bytes) = hexDigit (b.toNat / 16) :: hexDigit (b.toNat % 16) :: toHex bytes := rfl

theorem fromHex_toHex (bytes : List UInt8) : fromHex (toHex bytes) = bytes := by
  induction bytes with
  | nil => rfl
  | cons b bytes ih =>
    have hb : b.toNat < 256 := b.toNat_lt
    have hbyte : 16 * (b.toNat / 16) + b.toNat % 16 = b.toNat := by omega
    rw [toHex_cons, fromHex, hexValue_hexDigit _ (by omega), hexValue_hexDigit _ (by omega)]
    simp only [ih, hbyte, UInt8.ofNat_toNat]

theorem length_toHex (bytes : List UInt8) : (toHex bytes).length = 2 * bytes.length := by
  induction bytes with
  | nil => rfl
  | cons b bytes ih =>
    rw [toHex_cons, List.length_cons, List.length_cons, List.length_cons, ih]
    omega

theorem hexDigit_ne_colon : ∀ n < 16, hexDigit n ≠ ':' := by decide

theorem colon_notMem_toHex (bytes : List UInt8) : ':' ∉ toHex bytes := by
  induction bytes with
  | nil => exact List.not_mem_nil
  | cons b bytes ih =>
    have hb : b.toNat < 256 := b.toNat_lt
    rw [toHex_cons, List.mem_cons, List.mem_cons]
    rintro (h | h | h)
    · exact hexDigit_ne_colon _ (by omega) h.symm
    · exact hexDigit_ne_colon _ (by omega) h.symm
    · exact ih h

theorem toHex_ne_nil {bytes : List UInt8} (h : bytes ≠ []) : toHex bytes ≠ [] := by
  intro hnil
  have hlen := length_toHex bytes
  rw [hnil, List.length_nil] at hlen
  exact h (List.length_eq_zero_iff.mp (by omega))

/-- `s.length` of these characters. -/
def codeUnits (cs : List Char) : ℕ := (cs.map fun c => if 0xFFFF < c.toNat then 2 else 1).sum

theorem hexDigit_small : ∀ n < 16, ¬ 0xFFFF < (hexDigit n).toNat := by decide

theorem codeUnits_toHex (bytes : List UInt8) : codeUnits (toHex bytes) = 2 * bytes.length := by
  induction bytes with
  | nil => rfl
  | cons b bytes ih =>
    have hb : b.toNat < 256 := b.toNat_lt
    unfold codeUnits at ih ⊢
    rw [toHex_cons, List.map_cons, List.map_cons, if_neg (hexDigit_small _ (by omega)),
      if_neg (hexDigit_small _ (by omega)), List.sum_cons, List.sum_cons, ih, List.length_cons]
    omega

/-! ### Payloads -/

/-- aes-256-cbc under the key of the process. The cipher pads, so that a ciphertext is never
empty. -/
structure Cipher where
  /-- `crypto.randomBytes(16)`, given what is drawn. -/
  randomBytes : String → List UInt8
  /-- `update(text, 'utf8')` and `final()` of the cipher with an initialization vector. -/
  encipher : List UInt8 → String → List UInt8
  /-- The same of the decipher, or the message of its exception. -/
  decipher : List UInt8 → List UInt8 → Except String String
  length_randomBytes : ∀ u, (randomBytes u).length = 16
  encipher_ne : ∀ iv text, encipher iv text ≠ []
  decipher_encipher : ∀ iv text, iv.length = 16 → decipher iv (encipher iv text) = .ok text

variable (cipher : Cipher)

/-- `encrypt`. -/
def encrypt (u text : String) : String :=
  let iv := cipher.randomBytes u
  String.ofList (toHex iv ++ ':' :: toHex (cipher.encipher iv text))

/-- `decrypt`. -/
def decrypt (encryptedText : String) : Except Err String :=
  match encryptedText.toList.splitOn ':' with
  | [iv, body] =>
    if iv = [] ∨ body = [] then .error (.error "Malformed encrypted payload")
    else if (fromHex iv).length ≠ 16 then .error (.error "Malformed encryption IV")
    -- the decipher refuses half a byte
    else if codeUnits body % 2 = 1 then .error (.error "ERR_INVALID_ARG_VALUE")
    else (cipher.decipher (fromHex iv) (fromHex body)).mapError Err.error
  | _ => .error (.error "Malformed encrypted payload")

/-- **Encryption at rest.** What was encrypted is decrypted. -/
theorem decrypt_encrypt (u text : String) : decrypt cipher (encrypt cipher u text) = .ok text := by
  have hiv := cipher.length_randomBytes u
  have hivne : toHex (cipher.randomBytes u) ≠ [] := toHex_ne_nil (by
    intro hnil
    rw [hnil] at hiv
    cases hiv)
  have hbodyne := toHex_ne_nil (cipher.encipher_ne (cipher.randomBytes u) text)
  have hsplit : (encrypt cipher u text).toList.splitOn ':' =
      [toHex (cipher.randomBytes u), toHex (cipher.encipher (cipher.randomBytes u) text)] := by
    rw [encrypt, String.toList_ofList,
      List.splitOn_append_cons_self_of_not_mem (colon_notMem_toHex _),
      List.splitOn_eq_singleton (colon_notMem_toHex _)]
  have hwhole : ¬ codeUnits (toHex (cipher.encipher (cipher.randomBytes u) text)) % 2 = 1 := by
    rw [codeUnits_toHex]
    omega
  rw [decrypt, hsplit]
  dsimp only
  rw [if_neg (not_or.mpr ⟨hivne, hbodyne⟩), fromHex_toHex, fromHex_toHex,
    if_neg (not_not.mpr hiv), if_neg hwhole, cipher.decipher_encipher _ _ hiv]
  rfl

theorem encrypt_ne_empty (u text : String) : encrypt cipher u text ≠ "" := by
  intro h
  have hlist := congrArg String.toList h
  rw [encrypt, String.toList_ofList] at hlist
  simp at hlist

/-- The service that the other services are given. -/
def service : OAuth.EncryptionService where
  cipher := encrypt cipher
  decrypt := decrypt cipher
  decrypt_cipher := decrypt_encrypt cipher

/-- The server whose `decryptJson` is `JSON.parse(encryption.decrypt(s))`. -/
def withCipher (env : Env) : Env :=
  { env with decryptJson := fun s => (decrypt cipher s).toOption.bind parse }

/-- A JSON text that was encrypted is read back. -/
theorem decryptJson_encrypt (env : Env) (u : String) (v : Json) :
    (withCipher cipher env).decryptJson (encrypt cipher u (stringify v)) = some v := by
  change (decrypt cipher (encrypt cipher u (stringify v))).toOption.bind parse = some v
  rw [decrypt_encrypt]
  exact parse_stringify v

/-! ### A readable cipher -/

/-- The bytes of the text. -/
def utf8 (text : String) : List UInt8 := text.toUTF8.data.toList

/-- The text of the bytes, without the padding. -/
def ofUtf8 (bytes : List UInt8) : Except String String :=
  match String.fromUTF8? ⟨bytes.dropLast.toArray⟩ with
  | some text => .ok text
  | none => .error "bad decrypt"

theorem ofUtf8_utf8 (text : String) : ofUtf8 (utf8 text ++ [1]) = .ok text := by
  have hdecode : String.fromUTF8? ⟨text.toUTF8.data⟩ = some text := by
    have hvalid : (ByteArray.mk text.toUTF8.data).IsValidUTF8 := text.isValidUTF8
    unfold String.fromUTF8?
    rw [dif_pos hvalid]
    rfl
  rw [ofUtf8, utf8, List.dropLast_concat, Array.toArray_toList, hdecode]

theorem append_padding_ne (bytes : List UInt8) : bytes ++ [1] ≠ [] := by simp

theorem length_zeros : (List.replicate 16 (0 : UInt8)).length = 16 := List.length_replicate

/-- A cipher that only pads. -/
def padding : Cipher where
  randomBytes _ := List.replicate 16 0
  encipher _ text := utf8 text ++ [1]
  decipher _ bytes := ofUtf8 bytes
  length_randomBytes _ := length_zeros
  encipher_ne _ text := append_padding_ne (utf8 text)
  decipher_encipher _ text _ := ofUtf8_utf8 text

end GuardTime.Services.Encryption
