import HeatStack.Connection.Profile
import HeatStack.Proofs.Base64Codec

/-! # Sealing and opening

A sealed text is the base64 text of a nonce, a tag and the enciphered octets, and opening takes it
apart at the same two places.  A text opens exactly where, without the blanks around it, it is what
sealing writes under some nonce; each of the three faults is met by exactly the texts that it names.
The nonce of a text is its first octets, and sealing what was opened under it gives the text back. -/
set_option autoImplicit false

namespace HeatStack.Crypto.Gcm

theorem length_bytesOfNumber (width n : Nat) : (bytesOfNumber width n).length = width := by
  induction width generalizing n with
  | zero => rfl
  | succ width ih => rw [bytesOfNumber, List.length_append, ih, List.length_singleton]

theorem length_tag (key nonce data enciphered : List UInt8) :
    (tag key nonce data enciphered).length = 16 := by
  rw [tag, length_mask, length_bytesOfNumber]

/-- Only the tag that enciphering gives opens the octets that it gives. -/
theorem decrypt?_eq_some_iff (key nonce data given enciphered text : List UInt8) :
    decrypt? key nonce data given enciphered = some text ↔
      encrypt key nonce data text = (given, enciphered) := by
  constructor
  · intro opened
    unfold decrypt? at opened
    split at opened
    · case isTrue genuine =>
      cases opened
      rw [encrypt, stream_stream, genuine]
    · cases opened
  · intro written
    have opened := decrypt?_encrypt key nonce data text
    rwa [written] at opened

end HeatStack.Crypto.Gcm

namespace HeatStack.Connection
open HeatStack.Crypto

theorem textOfOctets?_eq_some_iff (octets : List UInt8) (s : String) :
    textOfOctets? octets = some s ↔ s.toUTF8.toList = octets := by
  unfold textOfOctets? String.fromUTF8?
  constructor
  · intro found
    split at found
    · cases found
      rw [Text.toList_eq]
      rfl
    · cases found
  · intro same
    rw [Text.toList_eq] at same
    have bytes : s.toByteArray = ⟨octets.toArray⟩ := by
      apply ByteArray.ext
      rw [← Array.toList_inj, ← same]
      rfl
    rw [← bytes, dif_pos s.isValidUTF8]
    rfl

def sealedOctets (nonce : List UInt8) (secret : Secret) (key : SealingKey) : List UInt8 :=
  nonce ++ ((Gcm.encrypt key.octets nonce purpose secret.plain.toUTF8.toList).1 ++
    (Gcm.encrypt key.octets nonce purpose secret.plain.toUTF8.toList).2)

theorem sealWith_eq (nonce : List UInt8) (secret : Secret) (key : SealingKey) :
    sealWith nonce secret key = Base64.encodeText (sealedOctets nonce secret key) := by
  simp only [sealWith, sealedOctets, Gcm.encrypt, List.append_assoc]

theorem length_sealedOctets (nonce : List UInt8) (secret : Secret) (key : SealingKey) :
    (sealedOctets nonce secret key).length =
      nonce.length + tagLength + secret.plain.toUTF8.toList.length := by
  simp only [sealedOctets, List.length_append, Gcm.encrypt, Gcm.length_tag, Gcm.stream,
    Gcm.length_mask, tagLength]
  omega

theorem take_sealedOctets {nonce : List UInt8} (whole : nonce.length = nonceLength)
    (secret : Secret) (key : SealingKey) :
    (sealedOctets nonce secret key).take nonceLength = nonce := by
  rw [sealedOctets, ← whole, List.take_left]

/-- Octets are sealed ones exactly where the tag and the enciphered octets found in them at the two
places are those of the secret, under the nonce found in front. -/
theorem sealedOctets_eq_iff {octets : List UInt8} (long : nonceLength + tagLength ≤ octets.length)
    (secret : Secret) (key : SealingKey) :
    sealedOctets (octets.take nonceLength) secret key = octets ↔
      Gcm.encrypt key.octets (octets.take nonceLength) purpose secret.plain.toUTF8.toList =
        ((octets.drop nonceLength).take tagLength, octets.drop (nonceLength + tagLength)) := by
  have cut : octets.take nonceLength ++ ((octets.drop nonceLength).take tagLength ++
      octets.drop (nonceLength + tagLength)) = octets := by
    rw [← List.drop_drop, List.take_append_drop, List.take_append_drop]
  have wide : ((octets.drop nonceLength).take tagLength).length = tagLength := by
    rw [List.length_take, List.length_drop]
    omega
  constructor
  · intro whole
    have same := whole.trans cut.symm
    obtain ⟨tag, enciphered⟩ := List.append_inj (List.append_cancel_left same)
      (by rw [Gcm.encrypt, Gcm.length_tag, wide, tagLength])
    exact Prod.ext tag enciphered
  · intro written
    rw [sealedOctets, written]
    exact cut

/-- What opening makes of a text that is base64. -/
theorem unsealWith_encodeText {t : String} {octets : List UInt8}
    (text : Text.trim t = Base64.encodeText octets) (key : SealingKey) :
    unsealWith t key =
      if octets.length < nonceLength + tagLength then .error .truncated
      else match (Gcm.decrypt? key.octets (octets.take nonceLength) purpose
          ((octets.drop nonceLength).take tagLength)
          (octets.drop (nonceLength + tagLength))).bind textOfOctets? with
        | some plain => .ok ⟨plain⟩
        | none => .error .rejected := by
  have read := (Base64.decode_text_iff _ octets).mpr text
  cases found : (Gcm.decrypt? key.octets (octets.take nonceLength) purpose
      ((octets.drop nonceLength).take tagLength)
      (octets.drop (nonceLength + tagLength))).bind textOfOctets? with
  | none => simp only [unsealWith, read, found]
  | some plain => simp only [unsealWith, read, found]

theorem unsealWith_not_base64 {t : String}
    (text : ∀ octets, Text.trim t ≠ Base64.encodeText octets) (key : SealingKey) :
    ∃ fault, unsealWith t key = .error (.encoding fault) := by
  unfold unsealWith
  cases read : Base64.decode (Text.trim t).toUTF8.toList with
  | error fault => exact ⟨fault, rfl⟩
  | ok octets => exact absurd ((Base64.decode_text_iff _ octets).mp read) (text octets)

/-- Octets that are long enough open to a secret exactly where they are its sealed octets under the
nonce in front. -/
theorem opened_iff {octets : List UInt8} (long : nonceLength + tagLength ≤ octets.length)
    (key : SealingKey) (plain : String) :
    (Gcm.decrypt? key.octets (octets.take nonceLength) purpose
        ((octets.drop nonceLength).take tagLength)
        (octets.drop (nonceLength + tagLength))).bind textOfOctets? = some plain ↔
      sealedOctets (octets.take nonceLength) ⟨plain⟩ key = octets := by
  rw [sealedOctets_eq_iff long, Option.bind_eq_some_iff]
  constructor
  · rintro ⟨text, opened, read⟩
    rw [textOfOctets?_eq_some_iff] at read
    rw [Gcm.decrypt?_eq_some_iff] at opened
    rw [read, opened]
  · intro written
    exact ⟨plain.toUTF8.toList, (Gcm.decrypt?_eq_some_iff ..).mpr written,
      (textOfOctets?_eq_some_iff _ _).mpr rfl⟩

/-- A text opens to a secret exactly where it is sealed text of that secret. -/
theorem unsealWith_eq_ok_iff (t : String) (key : SealingKey) (secret : Secret) :
    unsealWith t key = .ok secret ↔
      ∃ nonce, nonce.length = nonceLength ∧ Text.trim t = sealWith nonce secret key := by
  constructor
  · intro opened
    by_cases base64 : ∃ octets, Text.trim t = Base64.encodeText octets
    · obtain ⟨octets, text⟩ := base64
      rw [unsealWith_encodeText text key] at opened
      split at opened
      · cases opened
      · case isFalse long =>
        split at opened
        · case h_1 plain read =>
          cases opened
          have whole := (opened_iff (by omega) key plain).mp read
          refine ⟨octets.take nonceLength, by rw [List.length_take]; omega, ?_⟩
          rw [text, sealWith_eq, whole]
        · cases opened
    · obtain ⟨fault, failed⟩ := unsealWith_not_base64 (not_exists.mp base64) key
      rw [failed] at opened
      cases opened
  · rintro ⟨nonce, whole, text⟩
    rw [sealWith_eq] at text
    have long : ¬ (sealedOctets nonce secret key).length < nonceLength + tagLength := by
      rw [length_sealedOctets, whole]
      omega
    have read := (opened_iff (Nat.le_of_not_lt long) key secret.plain).mpr
      (by rw [take_sealedOctets whole])
    rw [unsealWith_encodeText text key, if_neg long, read]

theorem unsealWith_eq_encoding_iff (t : String) (key : SealingKey) :
    (∃ fault, unsealWith t key = .error (.encoding fault)) ↔
      ∀ octets, Text.trim t ≠ Base64.encodeText octets := by
  constructor
  · rintro ⟨fault, failed⟩ octets text
    rw [unsealWith_encodeText text key] at failed
    split at failed
    · cases failed
    · split at failed <;> cases failed
  · exact fun text => unsealWith_not_base64 text key

theorem unsealWith_eq_truncated_iff (t : String) (key : SealingKey) :
    unsealWith t key = .error .truncated ↔
      ∃ octets, Text.trim t = Base64.encodeText octets ∧ octets.length < nonceLength + tagLength := by
  constructor
  · intro failed
    by_cases base64 : ∃ octets, Text.trim t = Base64.encodeText octets
    · obtain ⟨octets, text⟩ := base64
      rw [unsealWith_encodeText text key] at failed
      split at failed
      · case isTrue short => exact ⟨octets, text, short⟩
      · split at failed <;> cases failed
    · obtain ⟨fault, other⟩ := unsealWith_not_base64 (not_exists.mp base64) key
      rw [other] at failed
      cases failed
  · rintro ⟨octets, text, short⟩
    rw [unsealWith_encodeText text key, if_pos short]

/-- A text is rejected in every case that is left. -/
theorem unsealWith_eq_rejected_iff (t : String) (key : SealingKey) :
    unsealWith t key = .error .rejected ↔
      (∃ octets, Text.trim t = Base64.encodeText octets ∧
        nonceLength + tagLength ≤ octets.length) ∧
      ∀ nonce secret, nonce.length = nonceLength → Text.trim t ≠ sealWith nonce secret key := by
  constructor
  · intro failed
    refine ⟨?_, fun nonce secret whole text => ?_⟩
    · by_cases base64 : ∃ octets, Text.trim t = Base64.encodeText octets
      · obtain ⟨octets, text⟩ := base64
        refine ⟨octets, text, Nat.le_of_not_lt fun short => ?_⟩
        rw [(unsealWith_eq_truncated_iff t key).mpr ⟨octets, text, short⟩] at failed
        cases failed
      · obtain ⟨fault, other⟩ := unsealWith_not_base64 (not_exists.mp base64) key
        rw [other] at failed
        cases failed
    · rw [(unsealWith_eq_ok_iff t key secret).mpr ⟨nonce, whole, text⟩] at failed
      cases failed
  · rintro ⟨⟨octets, text, long⟩, other⟩
    cases opened : unsealWith t key with
    | ok secret =>
        obtain ⟨nonce, whole, same⟩ := (unsealWith_eq_ok_iff t key secret).mp opened
        exact absurd same (other nonce secret whole)
    | error fault =>
        rw [unsealWith_encodeText text key, if_neg (Nat.not_lt.mpr long)] at opened
        split at opened
        · cases opened
        · exact opened.symm

/-- The nonce in front of a text that opens seals the secret to the same text. -/
theorem sealWith_own_nonce {t : String} {octets : List UInt8} {key : SealingKey} {secret : Secret}
    (text : Text.trim t = Base64.encodeText octets) (opened : unsealWith t key = .ok secret) :
    sealWith (octets.take nonceLength) secret key = Text.trim t := by
  obtain ⟨nonce, whole, same⟩ := (unsealWith_eq_ok_iff t key secret).mp opened
  obtain rfl : octets = sealedOctets nonce secret key :=
    Base64.encodeText_inj.mp (text.symm.trans (same.trans (sealWith_eq ..)))
  rw [take_sealedOctets whole, same]

theorem unsealWith_sealWith {nonce : List UInt8} (whole : nonce.length = nonceLength)
    (secret : Secret) (key : SealingKey) : unsealWith (sealWith nonce secret key) key = .ok secret :=
  (unsealWith_eq_ok_iff _ key secret).mpr ⟨nonce, whole, by rw [sealWith_eq, Base64.trim_encodeText]⟩

/-- The sealed text of the empty secret is not the empty text, which stands for no password. -/
theorem sealWith_ne_empty (nonce : List UInt8) (secret : Secret) (key : SealingKey) :
    sealWith nonce secret key ≠ "" := by
  intro empty
  have none : sealedOctets nonce secret key = [] := Base64.encodeText_inj.mp ((sealWith_eq ..).symm.trans empty)
  have long := length_sealedOctets nonce secret key
  rw [none, List.length_nil, tagLength] at long
  omega

theorem ProfileRecord.open?_ofProfile {nonce : List UInt8} (whole : nonce.length = nonceLength)
    (p : Profile) (key : SealingKey) : (ProfileRecord.ofProfile nonce p key).open? key = .ok p := by
  unfold ProfileRecord.open? ProfileRecord.ofProfile
  simp only [if_neg (sealWith_ne_empty nonce p.password key), unsealWith_sealWith whole]
  rfl

/-- Sealing and opening undo each other: a text opens to a secret exactly where it is sealed text of
it, every other text meets the fault that names it, an opened secret seals to its text again under
the nonce in front of it, and a profile is read back from its record. -/
theorem sealing_undone (key : SealingKey) :
    (∀ t secret, unsealWith t key = .ok secret ↔
      ∃ nonce, nonce.length = 12 ∧ Text.trim t = sealWith nonce secret key) ∧
    (∀ nonce secret, nonce.length = 12 → unsealWith (sealWith nonce secret key) key = .ok secret) ∧
    (∀ t octets secret, Text.trim t = Base64.encodeText octets → unsealWith t key = .ok secret →
      sealWith (octets.take 12) secret key = Text.trim t) ∧
    (∀ t, (∃ fault, unsealWith t key = .error (.encoding fault)) ↔
      ∀ octets, Text.trim t ≠ Base64.encodeText octets) ∧
    (∀ t, unsealWith t key = .error .truncated ↔
      ∃ octets, Text.trim t = Base64.encodeText octets ∧ octets.length < 28) ∧
    (∀ t, unsealWith t key = .error .rejected ↔
      (∃ octets, Text.trim t = Base64.encodeText octets ∧ 28 ≤ octets.length) ∧
        ∀ nonce secret, nonce.length = 12 → Text.trim t ≠ sealWith nonce secret key) ∧
    (∀ nonce p, nonce.length = 12 → (ProfileRecord.ofProfile nonce p key).open? key = .ok p) :=
  ⟨fun t secret => unsealWith_eq_ok_iff t key secret,
    fun _ secret whole => unsealWith_sealWith whole secret key,
    fun _ _ _ text opened => sealWith_own_nonce text opened,
    fun t => unsealWith_eq_encoding_iff t key,
    fun t => unsealWith_eq_truncated_iff t key,
    fun t => unsealWith_eq_rejected_iff t key,
    fun _ p whole => ProfileRecord.open?_ofProfile whole p key⟩

/-- The empty password comes back from a record, under a nonce of zeros. -/
theorem sealing_undone_emptyPassword :
    (List.replicate 12 (0 : UInt8)).length = 12 ∧
    (ProfileRecord.ofProfile (List.replicate 12 0)
      ⟨"ci", "https://keystone.example.com:5000/v3", true, "Default", "bot", ⟨""⟩, ""⟩
      (SealingKey.ofPassphrase "correct horse")).open? (SealingKey.ofPassphrase "correct horse") =
        .ok ⟨"ci", "https://keystone.example.com:5000/v3", true, "Default", "bot", ⟨""⟩, ""⟩ :=
  ⟨rfl, (sealing_undone (SealingKey.ofPassphrase "correct horse")).2.2.2.2.2.2 _ _ rfl⟩

end HeatStack.Connection
