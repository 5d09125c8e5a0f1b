import ApiToken.Gemini.Files

/-!
# Encrypted customer data

`batch_crypto.rs`: the identity that a blob or a file chunk is bound to, its
bytes as associated data, and encryption and decryption by key id. The cipher
and the hash are parameters.
-/

namespace ApiToken.Gemini

open Registry

/-! ## Associated data -/

def aadDomain : List UInt8 := utf8 "apitoken:gemini-batch-data:v1\x00".toList

/-- `to_be_bytes` of a 32-bit integer. -/
def toBeBytes32 (n : Int) : List UInt8 :=
  [24, 16, 8, 0].map fun shift => UInt8.ofNat (n / 2 ^ shift % 256).toNat

/-- A field behind its length. -/
def encodeField (output value : List UInt8) : Except Error (List UInt8) := do
  bailIf (decide (2 ^ 32 ≤ value.length)) "Gemini Batch AAD field too large"
  return output ++ (toBeBytes32 value.length ++ value)

structure GeminiBatchBlobIdentity where
  accountId : String
  jobId : String
  itemIndex : Int64
  kind : String
  schemaVersion : Int32

structure GeminiBatchFileChunkIdentity where
  accountId : String
  fileId : String
  chunkIndex : Int64
  schemaVersion : Int32

/-- The bytes of both `aad`s: a domain, whose data it is, its place and its version. -/
def boundAad (domain accountId ownerId : String) (index : Int64) (kind : String)
    (schemaVersion : Int32) : Except Error (List UInt8) := do
  let aad ← encodeField aadDomain (utf8 domain.toList)
  let aad ← encodeField aad (utf8 accountId.toList)
  let aad ← encodeField aad (utf8 ownerId.toList)
  let aad ← encodeField (aad ++ toBeBytes index.toInt) (utf8 kind.toList)
  return aad ++ toBeBytes32 schemaVersion.toInt

def GeminiBatchBlobIdentity.aad (i : GeminiBatchBlobIdentity) : Except Error (List UInt8) :=
  boundAad "blob" i.accountId i.jobId i.itemIndex i.kind i.schemaVersion

def GeminiBatchFileChunkIdentity.aad (i : GeminiBatchFileChunkIdentity) :
    Except Error (List UInt8) :=
  boundAad "file" i.accountId i.fileId i.chunkIndex "file" i.schemaVersion

/-- What a ciphertext is bound to. -/
inductive DataIdentity where
  | blob (i : GeminiBatchBlobIdentity)
  | file (i : GeminiBatchFileChunkIdentity)

def DataIdentity.aad : DataIdentity → Except Error (List UInt8)
  | .blob i => i.aad
  | .file i => i.aad

def validateComponent (value description : String) : Except Error Unit :=
  let bytes := utf8 value.toList
  bailIf (bytes.isEmpty || decide (128 < bytes.length) || bytes.any fun b =>
    decide (b < 32) || b == 127 || b == 59 || b == 44 || b == 58)
    s!"invalid Gemini Batch {description}"

def validateKind : String → Except Error BlobKind
  | "request" => .ok .request
  | "metadata" => .ok .metadata
  | "result" => .ok .result
  | "error" => .ok .error
  | _ => .error (.bail "invalid Gemini Batch blob kind")

def GeminiBatchBlobIdentity.validate (i : GeminiBatchBlobIdentity) : Except Error BlobKind := do
  validateComponent i.accountId "account id"
  validateComponent i.jobId "job id"
  let kind ← validateKind i.kind
  bailIf (decide (i.itemIndex < 0) || decide (i.schemaVersion ≤ 0))
    "invalid Gemini Batch blob identity"
  return kind

def GeminiBatchFileChunkIdentity.validate (i : GeminiBatchFileChunkIdentity) :
    Except Error Unit := do
  validateComponent i.accountId "account id"
  validateComponent i.fileId "file id"
  bailIf (decide (i.chunkIndex < 0) || decide (i.schemaVersion ≤ 0))
    "invalid Gemini Batch file chunk identity"

/-! ## The keyring -/

def Nonce : Type := { bytes : List UInt8 // bytes.length = 24 }

structure GeminiBatchDataKeyring where
  activeKeyId : String
  keys : String → Option Digest

/-- `XChaCha20Poly1305`; keys are 32 bytes, as digests are. -/
structure Aead where
  encrypt : Digest → List UInt8 → List UInt8 → List UInt8 → Option (List UInt8)
  decrypt : Digest → List UInt8 → List UInt8 → List UInt8 → Option (List UInt8)

variable (aead : Aead) (sha256 : List UInt8 → Digest)

def GeminiBatchDataKeyring.encrypt (ring : GeminiBatchDataKeyring) (random : Option Nonce)
    (aad plaintext : List UInt8) : Except Error (String × List UInt8 × List UInt8) := do
  let key ← orFail (ring.keys ring.activeKeyId)
    (.bail "active Gemini Batch data key id is unavailable")
  let nonce ← orFail random (.bail "operating-system CSPRNG unavailable")
  let ciphertext ← orFail (aead.encrypt key nonce.val aad plaintext)
    (.bail "encrypt Gemini Batch data failed")
  return (ring.activeKeyId, nonce.val, ciphertext)

def GeminiBatchDataKeyring.decrypt (ring : GeminiBatchDataKeyring) (keyId : String)
    (nonce aad ciphertext : List UInt8) : Except Error (List UInt8) := do
  let key ← orFail (ring.keys keyId) (.bail "Gemini Batch data key id is unavailable")
  bailIf (nonce.length != 24) "invalid Gemini Batch data nonce"
  orFail (aead.decrypt key nonce aad ciphertext) (.bail "Gemini Batch data authentication failed")

/-- `i64::try_from` of a length. -/
def lengthI64 (bytes : List UInt8) : Option Int :=
  if bytes.length < 2 ^ 63 then some bytes.length else none

def verifyPlaintext (plaintext : List UInt8) (expectedLen : Int) (expectedDigest : List UInt8) :
    Except Error Unit :=
  bailIf (lengthI64 plaintext != some expectedLen || (sha256 plaintext).val != expectedDigest)
    "Gemini Batch plaintext integrity mismatch"

def GeminiBatchDataKeyring.encryptBlob (ring : GeminiBatchDataKeyring) (random : Option Nonce)
    (identity : GeminiBatchBlobIdentity) (plaintext : List UInt8) (retentionTs : Int) :
    Except Error GeminiBatchEncryptedBlob := do
  let kind ← identity.validate
  bailIf (decide (retentionTs ≤ 0)) "invalid Gemini Batch blob retention timestamp"
  let plaintextLen ← orFail (lengthI64 plaintext) (.bail "Gemini Batch blob too large")
  let aad ← identity.aad
  let (keyId, nonce, ciphertext) ← ring.encrypt aead random aad plaintext
  return ⟨kind, keyId, nonce, ciphertext, plaintextLen, (sha256 plaintext).val, retentionTs⟩

def GeminiBatchDataKeyring.decryptBlob (ring : GeminiBatchDataKeyring)
    (identity : GeminiBatchBlobIdentity) (blob : GeminiBatchEncryptedBlob) :
    Except Error (List UInt8) := do
  let kind ← identity.validate
  bailIf (blob.kind != kind || blob.nonce.length != 24 || decide (blob.plaintextLen < 0)
      || decide (blob.plaintextLen + 16 ≠ blob.ciphertext.length))
    "invalid Gemini Batch encrypted blob"
  let aad ← identity.aad
  let plaintext ← ring.decrypt aead blob.keyId blob.nonce aad blob.ciphertext
  verifyPlaintext sha256 plaintext blob.plaintextLen blob.plaintextDigest
  return plaintext

def GeminiBatchDataKeyring.encryptFileChunk (ring : GeminiBatchDataKeyring)
    (random : Option Nonce) (identity : GeminiBatchFileChunkIdentity)
    (plaintext : List UInt8) (createdTs : Int) : Except Error GeminiBatchFileChunk := do
  identity.validate
  bailIf (plaintext.isEmpty || decide (maxBatchFileChunkBytes < plaintext.length)
    || decide (createdTs ≤ 0)) "invalid Gemini Batch resumable file chunk"
  let plaintextLen ← orFail (lengthI64 plaintext) (.bail "Gemini Batch chunk too large")
  let aad ← identity.aad
  let (keyId, nonce, ciphertext) ← ring.encrypt aead random aad plaintext
  let chunk := ⟨identity.chunkIndex.toInt, keyId, nonce, ciphertext, plaintextLen,
    sha256 plaintext, createdTs⟩
  GeminiBatchFileChunk.validate chunk
  return chunk

def GeminiBatchDataKeyring.decryptFileChunk (ring : GeminiBatchDataKeyring)
    (identity : GeminiBatchFileChunkIdentity) (chunk : GeminiBatchFileChunk) :
    Except Error (List UInt8) := do
  identity.validate
  bailIf (chunk.chunkIndex != identity.chunkIndex.toInt || chunk.nonce.length != 24
      || decide (chunk.plaintextLen < 0)
      || decide (chunk.plaintextLen + 16 ≠ chunk.ciphertext.length))
    "invalid Gemini Batch encrypted file chunk"
  let aad ← identity.aad
  let plaintext ← ring.decrypt aead chunk.keyId chunk.nonce aad chunk.ciphertext
  verifyPlaintext sha256 plaintext chunk.plaintextLen chunk.plaintextDigest.val
  return plaintext

/-! ## One identity for each associated data -/

theorem utf8_inj {s t : String} (h : utf8 s.toList = utf8 t.toList) : s = t := by
  have h := congrArg fromUtf8 h
  simp only [fromUtf8_utf8, some.injEq] at h
  exact String.toList_inj.mp h

theorem byte_inj {m n : Int} (k : Nat) (hlow : m % 2 ^ k = n % 2 ^ k)
    (h : UInt8.ofNat (m / 2 ^ k % 256).toNat = UInt8.ofNat (n / 2 ^ k % 256).toNat) :
    m % 2 ^ (k + 8) = n % 2 ^ (k + 8) := by
  have hbyte := congrArg UInt8.toNat h
  simp only [UInt8.toNat_ofNat'] at hbyte
  have hdigit : m / 2 ^ k % 256 = n / 2 ^ k % 256 := by omega
  have hsplit (x : Int) : x % 2 ^ (k + 8) = x % 2 ^ k + 2 ^ k * (x / 2 ^ k % 256) := by
    rw [pow_add, show (2 : Int) ^ 8 = 256 by decide, Int.emod_def, Int.emod_def, Int.emod_def,
      ← Int.ediv_ediv_of_nonneg (by positivity)]
    ring
  rw [hsplit m, hsplit n, hlow, hdigit]

theorem toBeBytes32_inj {m n : Int} (h : toBeBytes32 m = toBeBytes32 n) :
    m % 2 ^ 32 = n % 2 ^ 32 := by
  simp only [toBeBytes32, map_cons, List.cons.injEq] at h
  obtain ⟨h3, h2, h1, h0, -⟩ := h
  exact byte_inj 24 (byte_inj 16 (byte_inj 8 (byte_inj 0 (by omega) h0) h1) h2) h3

theorem toBeBytes_inj {m n : Int} (h : toBeBytes m = toBeBytes n) : m % 2 ^ 64 = n % 2 ^ 64 := by
  simp only [toBeBytes, map_cons, List.cons.injEq] at h
  obtain ⟨h7, h6, h5, h4, h3, h2, h1, h0, -⟩ := h
  have hlow := byte_inj 24 (byte_inj 16 (byte_inj 8 (byte_inj 0 (by omega) h0) h1) h2) h3
  exact byte_inj 56 (byte_inj 48 (byte_inj 40 (byte_inj 32 hlow h4) h5) h6) h7

theorem encodeField_eq_ok {output value bytes : List UInt8} :
    encodeField output value = .ok bytes ↔
      value.length < 2 ^ 32 ∧ output ++ (toBeBytes32 value.length ++ value) = bytes := by
  simp only [encodeField, ok_steps, bailIf_eq_ok, guard_iffs, not_le]

theorem text_inj {s t : String} {xs ys : List UInt8} (hs : (utf8 s.toList).length < 2 ^ 32)
    (ht : (utf8 t.toList).length < 2 ^ 32)
    (h : toBeBytes32 (utf8 s.toList).length ++ (utf8 s.toList ++ xs) =
      toBeBytes32 (utf8 t.toList).length ++ (utf8 t.toList ++ ys)) : s = t ∧ xs = ys := by
  obtain ⟨hlen, h⟩ := List.append_inj h (by simp [toBeBytes32])
  have := toBeBytes32_inj hlen
  obtain ⟨htext, h⟩ := List.append_inj h (by omega)
  exact ⟨utf8_inj htext, h⟩

theorem index_inj {m n : Int64} {xs ys : List UInt8}
    (h : toBeBytes m.toInt ++ xs = toBeBytes n.toInt ++ ys) : m = n ∧ xs = ys := by
  obtain ⟨hbytes, h⟩ := List.append_inj h (by simp [toBeBytes])
  have := toBeBytes_inj hbytes
  have := m.toInt_lt
  have := m.le_toInt
  have := n.toInt_lt
  have := n.le_toInt
  exact ⟨Int64.toInt_inj.mp (by omega), h⟩

theorem schema_inj {m n : Int32} (h : toBeBytes32 m.toInt = toBeBytes32 n.toInt) : m = n := by
  have := toBeBytes32_inj h
  have := m.toInt_lt
  have := m.le_toInt
  have := n.toInt_lt
  have := n.le_toInt
  exact Int32.toInt_inj.mp (by omega)

theorem boundAad_inj {domain domain' account account' owner owner' kind kind' : String}
    {index index' : Int64} {version version' : Int32} {bytes : List UInt8}
    (h : boundAad domain account owner index kind version = .ok bytes)
    (h' : boundAad domain' account' owner' index' kind' version' = .ok bytes) :
    domain = domain' ∧ account = account' ∧ owner = owner' ∧ index = index' ∧ kind = kind' ∧
      version = version' := by
  simp only [boundAad, ok_steps, encodeField_eq_ok] at h h'
  obtain ⟨_, ⟨hd, rfl⟩, _, ⟨ha, rfl⟩, _, ⟨ho, rfl⟩, _, ⟨hk, rfl⟩, rfl⟩ := h
  obtain ⟨_, ⟨hd', rfl⟩, _, ⟨ha', rfl⟩, _, ⟨ho', rfl⟩, _, ⟨hk', rfl⟩, h⟩ := h'
  simp only [append_assoc, append_cancel_left_eq] at h
  obtain ⟨hdomain, h⟩ := text_inj hd' hd h
  obtain ⟨haccount, h⟩ := text_inj ha' ha h
  obtain ⟨howner, h⟩ := text_inj ho' ho h
  obtain ⟨hindex, h⟩ := index_inj h
  obtain ⟨hkind, h⟩ := text_inj hk' hk h
  exact ⟨hdomain.symm, haccount.symm, howner.symm, hindex.symm, hkind.symm, (schema_inj h).symm⟩

theorem DataIdentity.aad_inj {i j : DataIdentity} {bytes : List UInt8}
    (hi : i.aad = .ok bytes) (hj : j.aad = .ok bytes) : i = j := by
  cases i with
  | blob i =>
    cases j with
    | blob j =>
      obtain ⟨-, haccount, hjob, hitem, hkind, hschema⟩ := boundAad_inj hi hj
      cases i
      cases j
      simp_all only
    | file => exact absurd (boundAad_inj hi hj).1 (by decide)
  | file i =>
    cases j with
    | blob => exact absurd (boundAad_inj hi hj).1 (by decide)
    | file j =>
      obtain ⟨-, haccount, hfile, hindex, -, hschema⟩ := boundAad_inj hi hj
      cases i
      cases j
      simp_all only

/-! ## Decryption -/

/-- An ideal cipher, at one ciphertext: it opens under what it was sealed with
and under nothing else. -/
def Aead.IdealAt (ciphertext : List UInt8) : Prop :=
  ∀ key nonce aad plaintext, aead.encrypt key nonce aad plaintext = some ciphertext →
    ciphertext.length = plaintext.length + 16 ∧
    ∀ key' nonce' aad' plaintext', aead.decrypt key' nonce' aad' ciphertext = some plaintext' ↔
      key' = key ∧ nonce' = nonce ∧ aad' = aad ∧ plaintext' = plaintext

variable {aead sha256}

variable (sha256) in
/-- What a sealed ciphertext opens under: its identity, and a key id that
stands for the key that sealed it. -/
theorem GeminiBatchDataKeyring.opened_iff {ring : GeminiBatchDataKeyring} {random : Option Nonce}
    {aad plaintext nonce ciphertext : List UInt8} {keyId : String} {len : Int}
    {i : DataIdentity} (hi : i.aad = .ok aad) (hlen : lengthI64 plaintext = some len)
    (h : ring.encrypt aead random aad plaintext = .ok (keyId, nonce, ciphertext))
    (ideal : aead.IdealAt ciphertext) :
    nonce.length = 24 ∧ 0 ≤ len ∧ len + 16 = ciphertext.length ∧
      ∀ (ring' : GeminiBatchDataKeyring) (keyId' : String) (i' : DataIdentity)
          (plaintext' : List UInt8),
        (∃ aad', i'.aad = .ok aad' ∧
          ring'.decrypt aead keyId' nonce aad' ciphertext = .ok plaintext' ∧
          verifyPlaintext sha256 plaintext' len (sha256 plaintext).val = .ok ()) ↔
        i' = i ∧ ring'.keys keyId' = ring.keys ring.activeKeyId ∧ plaintext' = plaintext := by
  simp only [GeminiBatchDataKeyring.encrypt, ok_steps] at h
  obtain ⟨key, hkey, nonce', -, _, hsealed, -, rfl, rfl⟩ := h
  obtain ⟨hlong, hopen⟩ := ideal _ _ _ _ hsealed
  have hlen' : (plaintext.length : Int) = len := by
    rw [lengthI64] at hlen
    split at hlen <;> cases hlen
    rfl
  refine ⟨nonce'.property, by omega, by omega, fun ring' keyId' i' plaintext' => ?_⟩
  simp only [GeminiBatchDataKeyring.decrypt, verifyPlaintext, ok_steps, bailIf_eq_ok, hopen,
    hkey, nonce'.property, bne_self_eq_false, true_and]
  constructor
  · rintro ⟨_, hi', ⟨_, hkey', rfl, rfl, rfl⟩, -⟩
    exact ⟨DataIdentity.aad_inj hi' hi, hkey', rfl⟩
  · rintro ⟨rfl, hkey', rfl⟩
    exact ⟨_, hi, ⟨_, hkey', rfl, rfl, rfl⟩, by simp [hlen]⟩

theorem decryptBlob_iff {ring ring' : GeminiBatchDataKeyring} {random : Option Nonce}
    {identity identity' : GeminiBatchBlobIdentity} {plaintext plaintext' : List UInt8}
    {retentionTs : Int} {blob : GeminiBatchEncryptedBlob} {keyId : String}
    (h : ring.encryptBlob aead sha256 random identity plaintext retentionTs = .ok blob)
    (ideal : aead.IdealAt blob.ciphertext) :
    ring'.decryptBlob aead sha256 identity' { blob with keyId := keyId } = .ok plaintext' ↔
      identity' = identity ∧ ring'.keys keyId = ring.keys ring.activeKeyId ∧
        plaintext' = plaintext := by
  simp only [GeminiBatchDataKeyring.encryptBlob, ok_steps] at h
  obtain ⟨kind, hkind, -, len, hlen, aad, haad, ⟨_, nonce, ciphertext⟩, hsealed, rfl⟩ := h
  obtain ⟨hnonce, hpos, hlong, hopen⟩ := GeminiBatchDataKeyring.opened_iff sha256
    (i := .blob identity) haad hlen hsealed ideal
  have hopen := hopen ring' keyId (.blob identity') plaintext'
  rw [DataIdentity.blob.injEq] at hopen
  rw [← hopen]
  simp only [GeminiBatchDataKeyring.decryptBlob, ok_steps, bailIf_eq_ok]
  constructor
  · rintro ⟨_, -, -, aad', haad', _, hdecrypt, hverify, rfl⟩
    exact ⟨aad', haad', hdecrypt, hverify⟩
  · intro hsome
    obtain ⟨rfl, -⟩ := hopen.mp hsome
    obtain ⟨aad', haad', hdecrypt, hverify⟩ := hsome
    exact ⟨kind, hkind, by simp [hnonce, hpos, hlong], aad', haad', _, hdecrypt, hverify, rfl⟩

theorem decryptFileChunk_iff {ring ring' : GeminiBatchDataKeyring} {random : Option Nonce}
    {identity identity' : GeminiBatchFileChunkIdentity} {plaintext plaintext' : List UInt8}
    {createdTs : Int} {chunk : GeminiBatchFileChunk} {keyId : String}
    (h : ring.encryptFileChunk aead sha256 random identity plaintext createdTs = .ok chunk)
    (ideal : aead.IdealAt chunk.ciphertext) :
    ring'.decryptFileChunk aead sha256 identity' { chunk with keyId := keyId } =
        .ok plaintext' ↔
      identity' = identity ∧ ring'.keys keyId = ring.keys ring.activeKeyId ∧
        plaintext' = plaintext := by
  simp only [GeminiBatchDataKeyring.encryptFileChunk, ok_steps] at h
  obtain ⟨hvalid, -, len, hlen, aad, haad, ⟨_, nonce, ciphertext⟩, hsealed, -, rfl⟩ := h
  obtain ⟨hnonce, hpos, hlong, hopen⟩ := GeminiBatchDataKeyring.opened_iff sha256
    (i := .file identity) haad hlen hsealed ideal
  have hopen := hopen ring' keyId (.file identity') plaintext'
  rw [DataIdentity.file.injEq] at hopen
  rw [← hopen]
  simp only [GeminiBatchDataKeyring.decryptFileChunk, ok_steps, bailIf_eq_ok]
  constructor
  · rintro ⟨-, -, aad', haad', _, hdecrypt, hverify, rfl⟩
    exact ⟨aad', haad', hdecrypt, hverify⟩
  · intro hsome
    obtain ⟨rfl, -⟩ := hopen.mp hsome
    obtain ⟨aad', haad', hdecrypt, hverify⟩ := hsome
    exact ⟨hvalid, by simp [hnonce, hpos, hlong], aad', haad', _, hdecrypt, hverify, rfl⟩

/-- An associated data is of one identity, blob or chunk, and a ciphertext
opens exactly under its identity and a key id that stands for its key. -/
theorem batch_data_bound :
    (∀ (i j : DataIdentity) (bytes : List UInt8), i.aad = .ok bytes → j.aad = .ok bytes → i = j) ∧
    (∀ (aead : Aead) (sha256 : List UInt8 → Digest) (ring ring' : GeminiBatchDataKeyring)
        (random : Option Nonce) (identity identity' : GeminiBatchBlobIdentity)
        (plaintext plaintext' : List UInt8) (retentionTs : Int)
        (blob : GeminiBatchEncryptedBlob) (keyId : String),
      ring.encryptBlob aead sha256 random identity plaintext retentionTs = .ok blob →
      aead.IdealAt blob.ciphertext →
      (ring'.decryptBlob aead sha256 identity' { blob with keyId := keyId } = .ok plaintext' ↔
        identity' = identity ∧ ring'.keys keyId = ring.keys ring.activeKeyId ∧
          plaintext' = plaintext)) ∧
    ∀ (aead : Aead) (sha256 : List UInt8 → Digest) (ring ring' : GeminiBatchDataKeyring)
        (random : Option Nonce) (identity identity' : GeminiBatchFileChunkIdentity)
        (plaintext plaintext' : List UInt8) (createdTs : Int) (chunk : GeminiBatchFileChunk)
        (keyId : String),
      ring.encryptFileChunk aead sha256 random identity plaintext createdTs = .ok chunk →
      aead.IdealAt chunk.ciphertext →
      (ring'.decryptFileChunk aead sha256 identity' { chunk with keyId := keyId } =
          .ok plaintext' ↔
        identity' = identity ∧ ring'.keys keyId = ring.keys ring.activeKeyId ∧
          plaintext' = plaintext) :=
  ⟨fun _ _ _ => DataIdentity.aad_inj,
    fun _ _ _ _ _ _ _ _ _ _ _ _ => decryptBlob_iff,
    fun _ _ _ _ _ _ _ _ _ _ _ _ => decryptFileChunk_iff⟩

/-! ## One key under two ids -/

/-- A cipher that has sealed under one key, nonce and associated data. -/
def soleAead (key : Digest) (nonce aad : List UInt8) : Aead where
  encrypt k n a p :=
    if k = key ∧ n = nonce ∧ a = aad then some (p ++ List.replicate 16 0) else none
  decrypt k n a c :=
    if k = key ∧ n = nonce ∧ a = aad then some (c.take (c.length - 16)) else none

theorem soleAead_ideal (key : Digest) (nonce aad ciphertext : List UInt8) :
    (soleAead key nonce aad).IdealAt ciphertext := by
  intro k n a p h
  simp only [soleAead, Option.ite_none_right_eq_some, some.injEq] at h
  obtain ⟨⟨rfl, rfl, rfl⟩, rfl⟩ := h
  refine ⟨by simp, fun k' n' a' p' => ?_⟩
  simp only [soleAead, Option.ite_none_right_eq_some, some.injEq, length_append,
    List.length_replicate, Nat.add_sub_cancel, List.take_left]
  exact ⟨fun ⟨⟨h1, h2, h3⟩, h4⟩ => ⟨h1, h2, h3, h4.symm⟩,
    fun ⟨h1, h2, h3, h4⟩ => ⟨⟨h1, h2, h3⟩, h4.symm⟩⟩

def twinRing : GeminiBatchDataKeyring where
  activeKeyId := "new"
  keys id := if id = "new" ∨ id = "old" then some (Digest.fill 17) else none

def sampleIdentity : GeminiBatchBlobIdentity := ⟨"account-a", "job-a", 3, "request", 1⟩

def sampleNonce : Nonce := ⟨List.replicate 24 7, by decide⟩

def sampleAead : Aead :=
  soleAead (Digest.fill 17) sampleNonce.val ((sampleIdentity.aad).toOption.getD [])

def sealedBlob : GeminiBatchEncryptedBlob where
  kind := .request
  keyId := "new"
  nonce := sampleNonce.val
  ciphertext := 1 :: List.replicate 16 0
  plaintextLen := 1
  plaintextDigest := (Digest.fill 0).val
  retentionTs := 100

theorem ok_of_toOption {α : Type} {x : Except Error α} {a : α} (h : x.toOption = some a) :
    x = .ok a := by
  cases x with
  | error => cases h
  | ok => rw [some.inj h]

theorem sample_sealed :
    twinRing.encryptBlob sampleAead (fun _ => Digest.fill 0) (some sampleNonce) sampleIdentity [1]
      100 = .ok sealedBlob :=
  ok_of_toOption (by decide +kernel)

/-- A blob sealed under one id of a key opens under its other id. -/
theorem batch_data_other_key_id :
    ¬ ∀ (aead : Aead) (sha256 : List UInt8 → Digest) (ring : GeminiBatchDataKeyring)
        (random : Option Nonce) (identity identity' : GeminiBatchBlobIdentity)
        (plaintext plaintext' : List UInt8) (retentionTs : Int)
        (blob : GeminiBatchEncryptedBlob) (keyId : String),
      ring.encryptBlob aead sha256 random identity plaintext retentionTs = .ok blob →
      aead.IdealAt blob.ciphertext →
      (ring.decryptBlob aead sha256 identity' { blob with keyId := keyId } = .ok plaintext' ↔
        identity' = identity ∧ keyId = blob.keyId ∧ plaintext' = plaintext) := by
  intro h
  have hiff := h _ _ twinRing _ _ sampleIdentity _ [1] _ _ "old" sample_sealed
    (soleAead_ideal _ _ _ _)
  exact absurd (hiff.mp (decryptBlob_iff sample_sealed (soleAead_ideal _ _ _ _) |>.mpr
    ⟨rfl, by decide, rfl⟩)).2.1 (by decide)

/-- The sealed blob under the other id, opened by its key. -/
theorem batch_data_bound_sample :
    twinRing.decryptBlob sampleAead (fun _ => Digest.fill 0) sampleIdentity
      { sealedBlob with keyId := "old" } = .ok [1] :=
  (batch_data_bound.2.1 _ _ _ _ _ _ _ _ _ _ _ _ sample_sealed (soleAead_ideal _ _ _ _)).mpr
    ⟨rfl, by decide, rfl⟩

end ApiToken.Gemini
